import SignalForge.SchemaRegistry
import SignalForge.VersionGrammar

/-! What `get_schema` is to resolve, and when one registered version keeps it from doing so. -/

set_option autoImplicit false

namespace SignalForge

namespace SchemaVersion

variable {digits : DecimalDigits} {version : String} {reason : Raised}

theorem checkComponent_error {component : Str}
    (failed : checkComponent digits version component = .error reason) :
    ∃ message, reason = .valueError message := by
  rw [checkComponent] at failed
  split at failed
  · cases failed
    exact ⟨_, rfl⟩
  · split at failed <;> cases failed
    exact ⟨_, rfl⟩

theorem convertComponent_error {component : Str}
    (failed : convertComponent digits component = .error reason) :
    ∃ message, reason = .valueError message := by
  rw [convertComponent] at failed
  split at failed
  · cases failed
    exact ⟨_, rfl⟩
  · split at failed <;> cases failed
    exact ⟨_, rfl⟩

/-- All `parse_version` raises is `ValueError`. -/
theorem parse_error (failed : parse digits version = .error reason) :
    ∃ message, reason = .valueError message := by
  rw [parse] at failed
  split at failed
  · rw [parseComponents] at failed
    split at failed
    · cases failed
      exact ⟨_, rfl⟩
    · split at failed
      · cases failed
        exact ⟨_, rfl⟩
      · rcases Except.bind_eq_error.mp failed with unchecked | ⟨_, _, unconverted⟩
        · obtain ⟨component, _, refused⟩ := Except.exists_of_forM_error unchecked
          exact checkComponent_error refused
        · rcases Except.bind_eq_error.mp unconverted with unread | ⟨_, _, failed⟩
          · obtain ⟨component, _, refused⟩ := Except.exists_of_mapM_error unread
            exact convertComponent_error refused
          · cases failed
  · cases failed
    exact ⟨_, rfl⟩

end SchemaVersion

namespace SchemaRegistry

variable {φ δ : Type}

/-- The registry some `register` calls leave, the refused ones included. -/
def reached (registrations : List (RouteKey × SchemaClass φ δ)) : SchemaRegistry φ δ :=
  registrations.foldl (fun registry entry =>
    match registry.register entry.1 entry.2 with
    | .error _ => registry
    | .ok registered => registered) .empty

theorem mem_keys_reached {registrations : List (RouteKey × SchemaClass φ δ)} {key : RouteKey} :
    key ∈ OrderedDict.keys (reached registrations) ↔ ∃ entry ∈ registrations, entry.1 = key := by
  induction registrations using List.reverseRecOn with
  | nil => simp [reached, OrderedDict.keys, OrderedDict.empty]
  | append_singleton registrations last ih =>
      rw [reached, List.foldl_append, ← reached]
      simp only [List.foldl_cons, List.foldl_nil, register, List.mem_append, List.mem_singleton,
        or_and_right, exists_or, exists_eq_left, ← ih]
      by_cases taken : (reached registrations).contains last.1
      · rw [if_pos taken]
        refine (or_iff_left_of_imp ?_).symm
        rintro rfl
        exact (OrderedDict.mem_keys_iff _ _).mpr taken
      · rw [if_neg taken]
        dsimp only
        rw [OrderedDict.mem_keys_set, or_comm, eq_comm]

/-- What a request is to come to, in a registry: the class of the pair itself, or else of the
lowest compatible version; `ValueError` only for a version that does not parse. -/
inductive Specified (digits : DecimalDigits) (registry : SchemaRegistry φ δ) (key : RouteKey) :
    Except Raised (SchemaClass φ δ) → Prop
  | exact {schema : SchemaClass φ δ} (found : registry.get? key = some schema) :
      Specified digits registry key (.ok schema)
  | unparsed (absent : registry.get? key = none)
      (refused : ∀ requested, SchemaVersion.parse digits key.schemaVersion ≠ .ok requested)
      (message : String) : Specified digits registry key (.error (.valueError message))
  | lowest {requested : SchemaVersion} {item : SchemaVersion × RouteKey}
      {schema : SchemaClass φ δ} (absent : registry.get? key = none)
      (parsed : SchemaVersion.parse digits key.schemaVersion = .ok requested)
      (compatible : Compatible digits key requested item)
      (found : registry.get? item.2 = some schema)
      (least : ∀ other, other.2 ∈ registry.keys → Compatible digits key requested other →
        item.1.le other.1 = true) : Specified digits registry key (.ok schema)
  | none {requested : SchemaVersion} (absent : registry.get? key = none)
      (parsed : SchemaVersion.parse digits key.schemaVersion = .ok requested)
      (incompatible : ∀ item : SchemaVersion × RouteKey, item.2 ∈ registry.keys →
        ¬ Compatible digits key requested item) : Specified digits registry key (.error .keyError)

section

variable {digits : DecimalDigits} {registry : SchemaRegistry φ δ} {key : RouteKey}
  {requested : SchemaVersion}

theorem compatible?_error {registered : RouteKey} {reason : Raised}
    (failed : compatible? digits key requested registered = .error reason) :
    registered.eventType = key.eventType ∧
      SchemaVersion.parse digits registered.schemaVersion = .error reason := by
  rw [compatible?] at failed
  split at failed
  · cases failed
  · rename_i sameType
    refine ⟨not_not.mp sameType, ?_⟩
    rcases Except.bind_eq_error.mp failed with unparsed | ⟨_, _, failed⟩
    · exact unparsed
    · split at failed
      · cases failed
      · split at failed <;> cases failed

theorem compatible?_of_unparsed {registered : RouteKey} {reason : Raised}
    (sameType : registered.eventType = key.eventType)
    (unparsed : SchemaVersion.parse digits registered.schemaVersion = .error reason) :
    compatible? digits key requested registered = .error reason := by
  rw [compatible?, if_neg (not_not.mpr sameType), unparsed]
  rfl

theorem compatibleVersions_error {keys : List RouteKey} {reason : Raised}
    (failed : compatibleVersions digits key requested keys = .error reason) :
    ∃ registered ∈ keys, registered.eventType = key.eventType ∧
      SchemaVersion.parse digits registered.schemaVersion = .error reason := by
  induction keys with
  | nil => cases failed
  | cons registered rest ih =>
      rcases Except.bind_eq_error.mp failed with here | ⟨_, _, after⟩
      · exact ⟨registered, List.mem_cons_self .., compatible?_error here⟩
      · rcases Except.bind_eq_error.mp after with later | ⟨_, _, joined⟩
        · obtain ⟨other, listed, unparsed⟩ := ih later
          exact ⟨other, List.mem_cons_of_mem _ listed, unparsed⟩
        · cases joined

/-- One version of the event type that does not parse stops the scan. -/
theorem compatibleVersions_unparsed {keys : List RouteKey} {registered : RouteKey}
    (listed : registered ∈ keys) (sameType : registered.eventType = key.eventType)
    (unparsed : ∀ candidate, SchemaVersion.parse digits registered.schemaVersion ≠ .ok candidate)
    (items : List (SchemaVersion × RouteKey)) :
    compatibleVersions digits key requested keys ≠ .ok items := by
  intro returned
  induction keys generalizing items with
  | nil => cases listed
  | cons first rest ih =>
      obtain ⟨here, looked, after⟩ := Except.bind_eq_ok.mp returned
      obtain ⟨later, scanned, _⟩ := Except.bind_eq_ok.mp after
      rcases List.mem_cons.mp listed with rfl | listed
      · rcases parsed : SchemaVersion.parse digits registered.schemaVersion with reason | candidate
        · rw [compatible?_of_unparsed sameType parsed] at looked
          cases looked
        · exact unparsed candidate parsed
      · exact ih listed later scanned

/-- All `get_schema` raises is `ValueError` or `KeyError`. -/
theorem getSchema_error {reason : Raised} (failed : getSchema digits registry key = .error reason) :
    (∃ message, reason = .valueError message) ∨ reason = .keyError := by
  rw [getSchema] at failed
  split at failed
  · cases failed
  · rcases Except.bind_eq_error.mp failed with unparsed | ⟨_, _, searched⟩
    · exact Or.inl (SchemaVersion.parse_error unparsed)
    · rcases Except.bind_eq_error.mp searched with scanned | ⟨_, _, chosen⟩
      · obtain ⟨_, _, _, unparsed⟩ := compatibleVersions_error scanned
        exact Or.inl (SchemaVersion.parse_error unparsed)
      · split at chosen
        · cases chosen
          exact Or.inr rfl
        · split at chosen <;> cases chosen
          exact Or.inr rfl

/-- The registered versions of the requested event type all parse. -/
def Parsable (digits : DecimalDigits) (registry : SchemaRegistry φ δ) (key : RouteKey) : Prop :=
  ∀ registered ∈ registry.keys, registered.eventType = key.eventType →
    ∃ candidate, SchemaVersion.parse digits registered.schemaVersion = .ok candidate

theorem specified_of_parsable (absent : registry.get? key = none)
    (parsed : SchemaVersion.parse digits key.schemaVersion = .ok requested)
    (parsable : Parsable digits registry key) :
    Specified digits registry key (getSchema digits registry key) := by
  rcases scanned : compatibleVersions digits key requested registry.keys with reason | items
  · obtain ⟨registered, listed, sameType, unparsed⟩ := compatibleVersions_error scanned
    obtain ⟨candidate, parses⟩ := parsable registered listed sameType
    rw [parses] at unparsed
    cases unparsed
  · have members := mem_compatibleVersions parsed scanned
    simp only [getSchema, absent, parsed, scanned, bind, Except.bind]
    rcases least : lowest items with _ | item
    · have empty : items = [] := by
        cases items with
        | nil => rfl
        | cons first rest => cases least
      refine Specified.none absent parsed fun item listed compatible => ?_
      have inItems := (members item).mpr ⟨listed, compatible⟩
      rw [empty] at inItems
      cases inItems
    · obtain ⟨inItems, below⟩ := lowest_le least
      obtain ⟨listed, compatible⟩ := (members item).mp inItems
      obtain ⟨schema, found⟩ := Option.isSome_iff_exists.mp ((OrderedDict.mem_keys_iff _ _).mp listed)
      simp only [found]
      exact Specified.lowest absent parsed compatible found fun other otherListed fits =>
        below other ((members other).mpr ⟨otherListed, fits⟩)

/-- A request of a version that parses comes to what it is to only where the scan ends. -/
theorem parsable_of_specified (absent : registry.get? key = none)
    (parsed : SchemaVersion.parse digits key.schemaVersion = .ok requested)
    (specified : Specified digits registry key (getSchema digits registry key)) :
    Parsable digits registry key := by
  intro registered listed sameType
  by_contra unparsed
  push Not at unparsed
  have stopped : ∀ items, compatibleVersions digits key requested registry.keys ≠ .ok items :=
    compatibleVersions_unparsed listed sameType unparsed
  rcases scanned : compatibleVersions digits key requested registry.keys with reason | items
  · obtain ⟨_, _, _, failed⟩ := compatibleVersions_error scanned
    obtain ⟨message, rfl⟩ := SchemaVersion.parse_error failed
    simp only [getSchema, absent, parsed, scanned, bind, Except.bind] at specified
    cases specified with
    | unparsed _ refused _ => exact refused requested parsed
  · exact stopped items scanned

/-- In any registry, a request comes to what it is to exactly where the pair is registered, or its
own version does not parse, or every registered version of the event type does. -/
theorem specified_iff : Specified digits registry key (getSchema digits registry key) ↔
    key ∈ registry.keys ∨
      (∀ requested, SchemaVersion.parse digits key.schemaVersion ≠ .ok requested) ∨
      Parsable digits registry key := by
  rcases found : registry.get? key with _ | schema
  · have absent : key ∉ registry.keys := (OrderedDict.get?_eq_none_iff _ _).mp found
    rw [or_iff_right absent]
    rcases parsed : SchemaVersion.parse digits key.schemaVersion with reason | requested
    · refine iff_of_true ?_ (Or.inl fun _ impossible => by cases impossible)
      obtain ⟨message, rfl⟩ := SchemaVersion.parse_error parsed
      simp only [getSchema, found, parsed, bind, Except.bind]
      refine Specified.unparsed found (fun requested returned => ?_) message
      rw [parsed] at returned
      cases returned
    · constructor
      · exact fun specified => Or.inr (parsable_of_specified found parsed specified)
      · rintro (refused | parsable)
        · exact absurd rfl (refused requested)
        · exact specified_of_parsable found parsed parsable
  · refine iff_of_true ?_ (Or.inl ((OrderedDict.mem_keys_iff _ _).mpr (found ▸ rfl)))
    simp only [getSchema, found]
    exact Specified.exact found

end

/-- After any registrations, a request comes to what it is to exactly where its pair was registered,
or its own version does not parse, or every version registered for its event type does. -/
theorem getSchema_specified_iff (digits : DecimalDigits)
    (registrations : List (RouteKey × SchemaClass φ δ)) (key : RouteKey) :
    Specified digits (reached registrations) key (getSchema digits (reached registrations) key) ↔
      (∃ entry ∈ registrations, entry.1 = key) ∨
        (∀ requested, SchemaVersion.parse digits key.schemaVersion ≠ .ok requested) ∨
        ∀ entry ∈ registrations, entry.1.eventType = key.eventType →
          ∃ candidate, SchemaVersion.parse digits entry.1.schemaVersion = .ok candidate := by
  rw [specified_iff, mem_keys_reached, Parsable]
  refine or_congr Iff.rfl (or_congr Iff.rfl ?_)
  constructor
  · exact fun parsable entry member => parsable entry.1 (mem_keys_reached.mpr ⟨entry, member, rfl⟩)
  · intro each registered listed
    obtain ⟨entry, member, rfl⟩ := mem_keys_reached.mp listed
    exact each entry member

section Sample

open RealtimePipeline (sampleDigits)

def sampleVersions : List (RouteKey × SchemaClass Unit Unit) :=
  [(⟨"session.telemetry", "v1.01"⟩, sessionSchema "v1.01"),
    (⟨"session.telemetry", "v1.2"⟩, sessionSchema "v1.2")]

/-- A registered version with a leading zero keeps v1.1 from resolving to v1.2. -/
theorem unparsed_version_stops_resolution :
    ¬ Specified sampleDigits (reached sampleVersions) ⟨"session.telemetry", "v1.1"⟩
      (getSchema sampleDigits (reached sampleVersions) ⟨"session.telemetry", "v1.1"⟩) := by
  have raised : getSchema sampleDigits (reached sampleVersions) ⟨"session.telemetry", "v1.1"⟩ =
      .error (.valueError "Invalid schema version (leading zero): v1.01") := by rfl
  rw [raised]
  intro specified
  cases specified with
  | unparsed _ refused _ => exact refused ⟨1, 1, 0⟩ (by rfl)

end Sample

end SchemaRegistry

end SignalForge
