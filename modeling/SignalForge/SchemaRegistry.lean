import SignalForge.Detections
import SignalForge.RealtimePipelineIsolation

/-! The registry that resolves an event's type and version to a schema class, and when the class
it resolves takes the event. -/

set_option autoImplicit false

namespace SignalForge

/-- A `BaseEvent` subclass: its identity, and what it makes of the fields of an event beside the
event type and version, or which of them it refuses. -/
structure SchemaClass (φ δ : Type) where
  name : String
  eventType : String
  schemaVersion : String
  fields : φ → Except (List String) δ

namespace SchemaClass

variable {φ δ : Type}

def key (schema : SchemaClass φ δ) : RouteKey := ⟨schema.eventType, schema.schemaVersion⟩

end SchemaClass

/-- An event of a schema class. -/
structure SchemaInstance (φ δ : Type) where
  schema : SchemaClass φ δ
  eventType : String
  schemaVersion : String
  fields : δ

namespace EventMetadata

/-- `pattern.match(text)` for a pattern that ends in `$`, which also matches before a final newline. -/
def matchesToEnd (pattern : Str → Bool) (text : Str) : Bool :=
  pattern text || (text.getLast? = some (Char.ofNat 10) && pattern text.dropLast)

/-- `^v\d+(\.\d+)*$`. -/
def isSchemaVersion (digits : DecimalDigits) (version : String) : Bool :=
  matchesToEnd (fun text =>
    match text with
    | 'v' :: components => (Text.split ['.'] components).all fun component =>
        component ≠ [] && component.all fun c => (digits.value? c).isSome
    | _ => false) version.toList

/-- `^[a-z0-9]+(\.[a-z0-9]+)+$`. -/
def isEventType (eventType : String) : Bool :=
  matchesToEnd (fun text => Detections.isDottedName (String.ofList text)) eventType.toList

/-- The fields of the metadata the schema refuses, among those that identify it. -/
def refusedFields (digits : DecimalDigits) (eventType schemaVersion : String) : List String :=
  (if isSchemaVersion digits schemaVersion then [] else ["metadata.schema_version"]) ++
  (if isEventType eventType then [] else ["metadata.event_type"])

theorem refusedFields_eq_nil {digits : DecimalDigits} {eventType schemaVersion : String} :
    refusedFields digits eventType schemaVersion = [] ↔
      isSchemaVersion digits schemaVersion = true ∧ isEventType eventType = true := by
  simp only [refusedFields, List.append_eq_nil_iff, ite_eq_left_iff, List.cons_ne_nil, imp_false,
    not_not]

end EventMetadata

namespace SchemaVersion

/-- `ensure_compatibility`. -/
def ensureCompatibility (digits : DecimalDigits) (sourceVersion targetVersion : String) :
    Except Raised Unit := do
  let source ← parse digits sourceVersion
  let target ← parse digits targetVersion
  if source.major ≠ target.major then
    .error (.valueError
      ("Incompatible schema versions: " ++ sourceVersion ++ " -> " ++ targetVersion))
  else if ¬ source.le target then
    .error (.valueError
      ("Backward upgrade not allowed: " ++ sourceVersion ++ " -> " ++ targetVersion))
  else .ok ()

/-- Between versions of one major, only a step back raises. -/
theorem ensureCompatibility_sameMajor {digits : DecimalDigits}
    {sourceVersion targetVersion : String} {source target : SchemaVersion} (sourceParsed : parse digits sourceVersion = .ok source)
    (targetParsed : parse digits targetVersion = .ok target)
    (sameMajor : source.major = target.major) :
    ensureCompatibility digits sourceVersion targetVersion =
      if source.le target then .ok () else .error (.valueError
        ("Backward upgrade not allowed: " ++ sourceVersion ++ " -> " ++ targetVersion)) := by
  rw [ensureCompatibility, sourceParsed, targetParsed]
  have majors : ¬ source.major ≠ target.major := fun apart => apart sameMajor
  simp only [bind, Except.bind, if_neg majors]
  cases source.le target <;> rfl

end SchemaVersion

/-- The schema classes by event type and version, in order of registration. -/
abbrev SchemaRegistry (φ δ : Type) : Type := OrderedDict RouteKey (SchemaClass φ δ)

namespace SchemaRegistry

variable {φ δ : Type}

def register (registry : SchemaRegistry φ δ) (key : RouteKey) (schema : SchemaClass φ δ) :
    Except Raised (SchemaRegistry φ δ) :=
  if registry.contains key then
    .error (.valueError ("Schema already registered for " ++ key.eventType ++ " " ++
      key.schemaVersion))
  else .ok (registry.set key schema)

/-- `BaseEvent.__init_subclass__`. -/
def initSubclass (registry : SchemaRegistry φ δ) (schema : SchemaClass φ δ) :
    Except Raised (SchemaRegistry φ δ) :=
  match registry.register schema.key schema with
  | .error _ => .error (.typeError (schema.name ++ " duplicates schema identity " ++
      schema.eventType ++ " " ++ schema.schemaVersion))
  | .ok registered => .ok registered

/-- What the definitions of some subclasses leave registered, the refused ones included. -/
def defined (schemas : List (SchemaClass φ δ)) : SchemaRegistry φ δ :=
  schemas.foldl (fun registry schema =>
    match registry.initSubclass schema with
    | .error _ => registry
    | .ok registered => registered) .empty

/-- One turn of the loop over the registered versions: the version where it is compatible. -/
def compatible? (digits : DecimalDigits) (key : RouteKey) (requested : SchemaVersion)
    (registered : RouteKey) : Except Raised (Option (SchemaVersion × RouteKey)) :=
  if registered.eventType ≠ key.eventType then .ok none
  else do
    let candidate ← SchemaVersion.parse digits registered.schemaVersion
    if candidate.major ≠ requested.major then pure none
    else
      match SchemaVersion.ensureCompatibility digits key.schemaVersion registered.schemaVersion with
      | .error _ => pure none
      | .ok _ => pure (if requested.le candidate then some (candidate, registered) else none)

def compatibleVersions (digits : DecimalDigits) (key : RouteKey) (requested : SchemaVersion) :
    List RouteKey → Except Raised (List (SchemaVersion × RouteKey))
  | [] => pure []
  | registered :: rest => do
      let here ← compatible? digits key requested registered
      let later ← compatibleVersions digits key requested rest
      pure (here.toList ++ later)

/-- `min(compatible_versions, key=version)`: the first of the lowest. -/
def lowest : List (SchemaVersion × RouteKey) → Option (SchemaVersion × RouteKey)
  | [] => none
  | item :: rest =>
      some (rest.foldl (fun kept other => if kept.1.le other.1 then kept else other) item)

def getSchema (digits : DecimalDigits) (registry : SchemaRegistry φ δ) (key : RouteKey) :
    Except Raised (SchemaClass φ δ) :=
  match registry.get? key with
  | some schema => .ok schema
  | none => do
      let requested ← SchemaVersion.parse digits key.schemaVersion
      let compatible ← compatibleVersions digits key requested registry.keys
      match lowest compatible with
      | none => .error .keyError
      | some (_, closest) =>
          match registry.get? closest with
          | none => .error .keyError
          | some schema => .ok schema

/-- `schema.model_validate(event)`: the fields one by one, then the event's identity against the
class's own. -/
def modelValidate (digits : DecimalDigits) (schema : SchemaClass φ δ)
    (eventType schemaVersion : String) (fields : φ) : Except Raised (SchemaInstance φ δ) :=
  match EventMetadata.refusedFields digits eventType schemaVersion, schema.fields fields with
  | [], .ok kept =>
      if eventType ≠ schema.eventType then .error (.validationError [])
      else if schemaVersion ≠ schema.schemaVersion then .error (.validationError [])
      else .ok ⟨schema, eventType, schemaVersion, kept⟩
  | refused, .ok _ => .error (.validationError refused)
  | refused, .error others => .error (.validationError (refused ++ others))

/-- A raw event: its metadata, where that is a dictionary, with the event type and version where
these are there, and its other fields. -/
structure RawEvent (φ : Type) where
  metadata : Option (Option String × Option String)
  fields : φ

/-- `SchemaRegistry.validate`; the event is `none` where it is no dictionary. -/
def validate (digits : DecimalDigits) (registry : SchemaRegistry φ δ) :
    Option (RawEvent φ) → Except Raised (SchemaInstance φ δ)
  | none => .error (.valueError "Event must be a dictionary")
  | some event =>
      match event.metadata with
      | none => .error (.valueError "Event metadata must be a dictionary")
      | some (eventType?, schemaVersion?) =>
          let eventType := eventType?.getD ""
          let schemaVersion := schemaVersion?.getD ""
          if eventType = "" ∨ schemaVersion = "" then .error (.valueError
            "Event missing metadata.event_type or metadata.schema_version fields")
          else do
            let schema ← getSchema digits registry ⟨eventType, schemaVersion⟩
            match modelValidate digits schema eventType schemaVersion event.fields with
            | .error _ => .error (.valueError
                ("Schema validation failed for " ++ eventType ++ " " ++ schemaVersion))
            | .ok validated => .ok validated

/-- Every class is registered under its own identity. -/
def OwnKeys (registry : SchemaRegistry φ δ) : Prop :=
  ∀ key schema, registry.get? key = some schema → schema.key = key

theorem ownKeys_defined (schemas : List (SchemaClass φ δ)) : OwnKeys (defined schemas) := by
  induction schemas using List.reverseRecOn with
  | nil =>
      intro key schema found
      cases found
  | append_singleton schemas schema ih =>
      rw [defined, List.foldl_append, ← defined]
      simp only [List.foldl_cons, List.foldl_nil, initSubclass, register]
      by_cases taken : (defined schemas).contains schema.key
      · simp only [taken, ↓reduceIte]
        exact ih
      · simp only [taken, Bool.false_eq_true, ↓reduceIte]
        intro key other found
        rw [OrderedDict.get?_set] at found
        split at found
        · rename_i same
          cases found
          exact same.symm
        · exact ih key other found

/-- A version the fallback may resolve to. -/
structure Compatible (digits : DecimalDigits) (key : RouteKey) (requested : SchemaVersion)
    (item : SchemaVersion × RouteKey) : Prop where
  sameType : item.2.eventType = key.eventType
  parsed : SchemaVersion.parse digits item.2.schemaVersion = .ok item.1
  sameMajor : item.1.major = requested.major
  notEarlier : requested.le item.1 = true

theorem compatible?_ok {digits : DecimalDigits} {key registered : RouteKey}
    {requested : SchemaVersion} {found : Option (SchemaVersion × RouteKey)}
    (parsed : SchemaVersion.parse digits key.schemaVersion = .ok requested)
    (returned : compatible? digits key requested registered = .ok found)
    (item : SchemaVersion × RouteKey) :
    found = some item ↔ item.2 = registered ∧ Compatible digits key requested item := by
  rw [compatible?] at returned
  split at returned
  · rename_i otherType
    cases returned
    refine iff_of_false (fun none => by cases none) ?_
    rintro ⟨rfl, compatible⟩
    exact otherType compatible.sameType
  · rename_i sameType
    obtain ⟨candidate, candidateParsed, checked⟩ := Except.bind_eq_ok.mp returned
    have only : ∀ {item : SchemaVersion × RouteKey}, item.2 = registered →
        Compatible digits key requested item → item.1 = candidate := by
      rintro item rfl compatible
      exact Except.ok.inj (compatible.parsed.symm.trans candidateParsed)
    split at checked
    · rename_i otherMajor
      cases checked
      refine iff_of_false (fun none => by cases none) ?_
      rintro ⟨same, compatible⟩
      exact otherMajor (only same compatible ▸ compatible.sameMajor)
    · rename_i sameMajor
      have ensured := SchemaVersion.ensureCompatibility_sameMajor parsed candidateParsed
        (not_not.mp sameMajor).symm
      rw [ensured] at checked
      by_cases notEarlier : requested.le candidate
      · simp only [notEarlier, ↓reduceIte] at checked
        cases checked
        constructor
        · rintro ⟨⟩
          exact ⟨rfl, not_not.mp sameType, candidateParsed, not_not.mp sameMajor, notEarlier⟩
        · rintro ⟨same, compatible⟩
          exact congrArg some (Prod.ext (only same compatible).symm same.symm)
      · simp only [notEarlier, Bool.false_eq_true, ↓reduceIte] at checked
        cases checked
        refine iff_of_false (fun none => by cases none) ?_
        rintro ⟨same, compatible⟩
        exact notEarlier (only same compatible ▸ compatible.notEarlier)

theorem mem_compatibleVersions {digits : DecimalDigits} {key : RouteKey}
    {requested : SchemaVersion} {keys : List RouteKey} {items : List (SchemaVersion × RouteKey)}
    (parsed : SchemaVersion.parse digits key.schemaVersion = .ok requested)
    (returned : compatibleVersions digits key requested keys = .ok items)
    (item : SchemaVersion × RouteKey) :
    item ∈ items ↔ item.2 ∈ keys ∧ Compatible digits key requested item := by
  induction keys generalizing items with
  | nil =>
      cases returned
      simp only [List.not_mem_nil, false_and]
  | cons registered rest ih =>
      obtain ⟨here, first, others⟩ := Except.bind_eq_ok.mp returned
      obtain ⟨later, tail, joined⟩ := Except.bind_eq_ok.mp others
      cases joined
      rw [List.mem_append, Option.mem_toList, compatible?_ok parsed first, ih tail,
        List.mem_cons, or_and_right]

theorem lowest_le {items : List (SchemaVersion × RouteKey)} {least : SchemaVersion × RouteKey}
    (found : lowest items = some least) :
    least ∈ items ∧ ∀ item ∈ items, least.1.le item.1 = true := by
  cases items with
  | nil => cases found
  | cons first rest =>
      obtain rfl := Option.some.inj found
      clear found
      induction rest using List.reverseRecOn with
      | nil =>
          refine ⟨List.mem_singleton_self _, fun item member => ?_⟩
          rw [List.mem_singleton.mp member]
          exact SchemaVersion.le_refl _
      | append_singleton rest last ih =>
          obtain ⟨listed, least⟩ := ih
          rw [List.foldl_append, List.foldl_cons, List.foldl_nil, ← List.cons_append]
          split
          · rename_i kept
            refine ⟨List.mem_append_left _ listed, fun item member => ?_⟩
            rcases List.mem_append.mp member with earlier | here
            · exact least item earlier
            · rwa [List.mem_singleton.mp here]
          · rename_i lower
            have below := (SchemaVersion.le_total _ _).resolve_left lower
            refine ⟨List.mem_append_right _ (List.mem_singleton_self _), fun item member => ?_⟩
            rcases List.mem_append.mp member with earlier | here
            · exact SchemaVersion.le_trans below (least item earlier)
            · rw [List.mem_singleton.mp here]
              exact SchemaVersion.le_refl _

/-- What is resolved is registered under the pair itself, or else under the lowest compatible
version of the event type. -/
theorem getSchema_ok {digits : DecimalDigits} {registry : SchemaRegistry φ δ} {key : RouteKey}
    {schema : SchemaClass φ δ} (resolved : getSchema digits registry key = .ok schema) :
    registry.get? key = some schema ∨ registry.get? key = none ∧ ∃ requested item,
      Compatible digits key requested item ∧ registry.get? item.2 = some schema ∧
        ∀ other, other.2 ∈ registry.keys → Compatible digits key requested other →
          item.1.le other.1 = true := by
  rw [getSchema] at resolved
  rcases exactly : registry.get? key with _ | registered
  · rw [exactly] at resolved
    obtain ⟨requested, parsed, searched⟩ := Except.bind_eq_ok.mp resolved
    obtain ⟨compatible, listed, chosen⟩ := Except.bind_eq_ok.mp searched
    have members := mem_compatibleVersions parsed listed
    rcases least : lowest compatible with _ | item
    · rw [least] at chosen
      cases chosen
    · obtain ⟨candidate, closest⟩ := item
      rw [least] at chosen
      obtain ⟨inList, below⟩ := lowest_le least
      dsimp only at chosen
      rcases found : registry.get? closest with _ | other
      · rw [found] at chosen
        cases chosen
      · rw [found] at chosen
        cases chosen
        refine Or.inr ⟨rfl, requested, (candidate, closest), ((members _).mp inList).2, found, ?_⟩
        exact fun other listedOther fits => below other ((members other).mpr ⟨listedOther, fits⟩)
  · rw [exactly] at resolved
    cases resolved
    exact Or.inl rfl

theorem modelValidate_eq_ok {digits : DecimalDigits} {schema : SchemaClass φ δ}
    {eventType schemaVersion : String} {fields : φ} {kept : δ}
    (satisfied : schema.fields fields = .ok kept)
    {validated : SchemaInstance φ δ} :
    modelValidate digits schema eventType schemaVersion fields = .ok validated ↔
      EventMetadata.refusedFields digits eventType schemaVersion = [] ∧
        schema.key = ⟨eventType, schemaVersion⟩ ∧
        validated = ⟨schema, eventType, schemaVersion, kept⟩ := by
  rw [modelValidate, satisfied, SchemaClass.key, RouteKey.mk.injEq]
  rcases EventMetadata.refusedFields digits eventType schemaVersion with _ | ⟨field, others⟩
  · by_cases sameType : eventType = schema.eventType
    · by_cases sameVersion : schemaVersion = schema.schemaVersion
      · simp only [sameType, sameVersion, ne_eq, not_true_eq_false, ↓reduceIte, Except.ok.injEq,
          and_self, true_and, eq_comm]
      · simp only [sameType, sameVersion, Ne.symm sameVersion, ne_eq, not_true_eq_false,
          not_false_eq_true, ↓reduceIte, reduceCtorEq, and_false, false_and]
    · simp only [sameType, Ne.symm sameType, ne_eq, not_false_eq_true, ↓reduceIte, reduceCtorEq,
        false_and, and_false]
  · simp only [reduceCtorEq, false_and]

/-- The event names its type and version, and its other fields satisfy the class its registry
resolves. -/
structure Resolves (digits : DecimalDigits) (registry : SchemaRegistry φ δ) (event : RawEvent φ)
    (key : RouteKey) (schema : SchemaClass φ δ) : Prop where
  names : event.metadata = some (some key.eventType, some key.schemaVersion)
  resolved : getSchema digits registry key = .ok schema
  satisfied : ∃ kept, schema.fields event.fields = .ok kept

/-- The class resolved is the pair's own exactly where the pair is registered. -/
theorem key_eq_iff {digits : DecimalDigits} {registry : SchemaRegistry φ δ} (own : OwnKeys registry)
    {key : RouteKey} {schema : SchemaClass φ δ}
    (resolved : getSchema digits registry key = .ok schema) :
    schema.key = key ↔ registry.contains key = true := by
  rw [OrderedDict.contains, Option.isSome_iff_exists]
  rcases getSchema_ok resolved with exactly | ⟨absent, _, item, _, found, _⟩
  · exact iff_of_true (own key schema exactly) ⟨schema, exactly⟩
  · rw [absent]
    refine iff_of_false (fun same => ?_) (fun ⟨_, present⟩ => by cases present)
    rw [← own item.2 schema found, same, absent] at found
    cases found

theorem validate_named {digits : DecimalDigits} {registry : SchemaRegistry φ δ}
    {event : RawEvent φ} {key : RouteKey} {schema : SchemaClass φ δ}
    (resolves : Resolves digits registry event key schema) {validated : SchemaInstance φ δ} :
    validate digits registry (some event) = .ok validated ↔
      ¬ (key.eventType = "" ∨ key.schemaVersion = "") ∧
        modelValidate digits schema key.eventType key.schemaVersion event.fields =
          .ok validated := by
  have chosen : getSchema digits registry ⟨key.eventType, key.schemaVersion⟩ = .ok schema :=
    resolves.resolved
  simp only [validate, resolves.names, Option.getD_some]
  by_cases missing : key.eventType = "" ∨ key.schemaVersion = ""
  · simp only [missing, ↓reduceIte, reduceCtorEq, not_true_eq_false, false_and]
  · simp only [missing, ↓reduceIte, not_false_eq_true, true_and, chosen, bind, Except.bind]
    cases modelValidate digits schema key.eventType key.schemaVersion event.fields <;>
      simp only [reduceCtorEq, Except.ok.injEq]

/-- A resolved event validates exactly where the pair it names is itself registered and is one the
metadata admits. -/
theorem validate_returns_iff (digits : DecimalDigits) (schemas : List (SchemaClass φ δ))
    (event : RawEvent φ) (key : RouteKey) (schema : SchemaClass φ δ)
    (resolves : Resolves digits (defined schemas) event key schema) :
    (∃ validated, validate digits (defined schemas) (some event) = .ok validated ∧
        validated.schema = schema) ↔
      (defined schemas).contains key = true ∧
        EventMetadata.isSchemaVersion digits key.schemaVersion = true ∧
        EventMetadata.isEventType key.eventType = true := by
  obtain ⟨kept, satisfied⟩ := resolves.satisfied
  have ownKey := key_eq_iff (ownKeys_defined schemas) resolves.resolved
  simp only [validate_named resolves, modelValidate_eq_ok satisfied,
    EventMetadata.refusedFields_eq_nil, ← ownKey]
  constructor
  · rintro ⟨validated, ⟨_, admitted, same, rfl⟩, _⟩
    exact ⟨same, admitted⟩
  · rintro ⟨same, admitted⟩
    refine ⟨_, ⟨?_, admitted, same, rfl⟩, rfl⟩
    -- neither pattern matches an empty text
    rintro (noType | noVersion)
    · rw [noType] at admitted
      exact absurd admitted.2 (by decide)
    · rw [noVersion] at admitted
      cases admitted.1

section Sample

open RealtimePipeline (sampleDigits)

/-- The session schema at a version, taking any other fields. -/
def sessionSchema (schemaVersion : String) : SchemaClass Unit Unit where
  name := "SessionEvent"
  eventType := "session.telemetry"
  schemaVersion := schemaVersion
  fields := .ok

def sessionEvent : RawEvent Unit where
  metadata := some (some "session.telemetry", some "v1")
  fields := ()

theorem validate_returns_iff_sample :
    (∃ validated, validate sampleDigits (defined [sessionSchema "v1"]) (some sessionEvent) =
        .ok validated ∧ validated.schema = sessionSchema "v1") ↔
      (defined [sessionSchema "v1"]).contains ⟨"session.telemetry", "v1"⟩ = true ∧
        EventMetadata.isSchemaVersion sampleDigits "v1" = true ∧
        EventMetadata.isEventType "session.telemetry" = true :=
  validate_returns_iff sampleDigits [sessionSchema "v1"] sessionEvent ⟨"session.telemetry", "v1"⟩
    (sessionSchema "v1") ⟨rfl, rfl, (), rfl⟩

/-- An event of v1 resolves to the schema of v1.1 and is then refused for its version. -/
theorem fallback_never_validates :
    Resolves sampleDigits (defined [sessionSchema "v1.1"]) sessionEvent
        ⟨"session.telemetry", "v1"⟩ (sessionSchema "v1.1") ∧
      ¬ ∃ validated, validate sampleDigits (defined [sessionSchema "v1.1"]) (some sessionEvent) =
        .ok validated := by
  have resolves : Resolves sampleDigits (defined [sessionSchema "v1.1"]) sessionEvent
      ⟨"session.telemetry", "v1"⟩ (sessionSchema "v1.1") := ⟨rfl, by rfl, (), rfl⟩
  refine ⟨resolves, ?_⟩
  rintro ⟨validated, returned⟩
  obtain ⟨_, returned⟩ := (validate_named resolves).mp returned
  have same := ((modelValidate_eq_ok rfl).mp returned).2.1
  exact absurd same (by decide)

end Sample

end SchemaRegistry

end SignalForge
