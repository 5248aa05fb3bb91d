import SignalForge.BaseEvent
import SignalForge.Call
import SignalForge.StreamRecords

/-! Bundling the emissions of one call into feature events, one for each partition and
window start. -/

set_option autoImplicit false

namespace SignalForge

/-- What building a feature event rests on outside this code: the clock, the schema's rule
for feature values, and UUIDs parsed from text and derived from names. -/
structure FeatureRules (ω ρ : Type) where
  now : ω → Instant × ω
  featureValue : ρ → Option ρ
  parseUuid : String → Option Uuid
  uuid5 : String → Uuid

namespace FeatureBundling

def featureSchemaVersion : String := "v1"

def isPartitionKey (key : String) : Bool := Text.isIdentifier key.toList

section

variable {ω ρ : Type}

abbrev Group (ρ : Type) : Type := (String × Int) × List (WindowEmission ρ)

def groupKey (emission : WindowEmission ρ) : String × Int :=
  (emission.partitionKey, emission.windowStart.micros)

/-- Emissions grouped by partition key and window start, in first-seen order. Datetimes
that denote the same instant are the same key. -/
def groups (emissions : List (WindowEmission ρ)) :
    OrderedDict (String × Int) (List (WindowEmission ρ)) :=
  emissions.foldl (fun grouped emission =>
    grouped.modify (groupKey emission) [] (· ++ [emission])) .empty

/-- `{emission.aggregation_name: emission.value for emission in group}`. -/
def featureValues (group : List (WindowEmission ρ)) : OrderedDict String ρ :=
  group.foldl (fun values emission => values.set emission.aggregationName emission.value) .empty

/-- The fields of the payload the schema refuses. -/
def refusedFields (rules : FeatureRules ω ρ) (payload : WindowedFeatureVectorPayload ρ) :
    List String :=
  (if isPartitionKey payload.partitionKey then [] else ["partition_key"]) ++
  (if payload.windowStart.offset = 0 then [] else ["window_start"]) ++
  (if payload.windowEnd.offset = 0 then [] else ["window_end"]) ++
  (if payload.featureValues.values.all fun value => (rules.featureValue value).isSome then []
    else ["feature_values"])

/-- The payload the schema accepts, its values as the schema converts them. -/
def validatePayload (rules : FeatureRules ω ρ) (payload : WindowedFeatureVectorPayload ρ) :
    Except Raised (WindowedFeatureVectorPayload ρ) :=
  match refusedFields rules payload with
  | [] => .ok { payload with
      featureValues := payload.featureValues.mapValues fun value =>
        (rules.featureValue value).getD value }
  | fields => .error (.validationError fields)

/-- `TraceContext(trace_id=UUID(text))`, a fresh context where there is no text. -/
def traceContext (rules : FeatureRules ω ρ) : Option String → Except Raised (Option Uuid)
  | none => .ok none
  | some text =>
      match rules.parseUuid text with
      | none => .error (.valueError "badly formed hexadecimal UUID string")
      | some uuid => .ok (some uuid)

def payloadOf (first : WindowEmission ρ) (group : List (WindowEmission ρ)) :
    WindowedFeatureVectorPayload ρ where
  partitionKey := first.partitionKey
  windowStart := first.windowStart
  windowEnd := first.windowEnd
  featureValues := featureValues group
  featureVersion := featureSchemaVersion

def bundleGroup (rules : FeatureRules ω ρ) (group : Group ρ) :
    Call Raised ω (List (WindowedFeatureVectorEvent ρ)) :=
  match group.2 with
  -- no group is empty: it is made when its first emission is met
  | [] => pure []
  | first :: _ => do
      let partitionKey := first.partitionKey
      let windowStart := first.windowStart
      let trace ← Call.lift (traceContext rules (group.2.findSome?
        WindowEmission.lastContributingTraceId))
      let payload ← Call.lift (validatePayload rules (payloadOf first group.2))
      let ingested ← Call.total rules.now
      Call.lift (BaseEvent.checkClockSkew first.windowEnd ingested)
      pure [{
        eventId := rules.uuid5 ("|".intercalate ["event.feature", partitionKey, windowStart.str,
          first.windowEnd.str, featureSchemaVersion])
        eventTimestamp := first.windowEnd
        traceId := trace
        payload := payload }]

def bundleGroups (rules : FeatureRules ω ρ) :
    List (Group ρ) → Call Raised ω (List (WindowedFeatureVectorEvent ρ))
  | [] => pure []
  | group :: rest => do
      let events ← bundleGroup rules group
      let later ← bundleGroups rules rest
      pure (events ++ later)

/-- `_bundle_feature_events`. -/
def bundleFeatureEvents (rules : FeatureRules ω ρ) (emissions : List (WindowEmission ρ)) :
    Call Raised ω (List (WindowedFeatureVectorEvent ρ)) :=
  bundleGroups rules (groups emissions).entries

theorem groups_get? (emissions : List (WindowEmission ρ)) (key : String × Int) :
    ((groups emissions).get? key).getD [] =
      emissions.filter fun emission => groupKey emission = key :=
  OrderedDict.getD_foldl_append groupKey emissions .empty key

/-- A group holds exactly the emissions with its key, in order. -/
theorem group_eq {emissions : List (WindowEmission ρ)} {group : Group ρ}
    (member : group ∈ (groups emissions).entries) :
    group.2 = emissions.filter fun emission => groupKey emission = group.1 := by
  have found := ((groups emissions).get?_eq_some_iff group.1 group.2).mpr member
  rw [← groups_get?, found]
  rfl

theorem validatePayload_ok {rules : FeatureRules ω ρ} {payload valid :
    WindowedFeatureVectorPayload ρ} (accepted : validatePayload rules payload = .ok valid) :
    valid.partitionKey = payload.partitionKey ∧ valid.windowStart = payload.windowStart := by
  unfold validatePayload at accepted
  split at accepted
  · cases accepted
    exact ⟨rfl, rfl⟩
  · cases accepted

/-- The event of a group describes the partition and the window of its first emission. -/
theorem bundleGroup_ok {rules : FeatureRules ω ρ} {group : Group ρ} {before after : ω}
    {events : List (WindowedFeatureVectorEvent ρ)}
    (returned : bundleGroup rules group before = (.ok events, after))
    {feature : WindowedFeatureVectorEvent ρ} (member : feature ∈ events) :
    ∃ first ∈ group.2, feature.payload.partitionKey = first.partitionKey ∧
      feature.payload.windowStart = first.windowStart := by
  obtain ⟨key, records⟩ := group
  cases records with
  | nil =>
      simp only [bundleGroup, Call.pure_apply, Prod.mk.injEq, Except.ok.injEq] at returned
      rw [← returned.1] at member
      cases member
  | cons first rest =>
      simp only [bundleGroup, Call.bind_eq_ok, Call.lift_apply, Call.total_apply,
        Call.pure_apply, Prod.mk.injEq] at returned
      obtain ⟨_, _, _, valid, _, ⟨accepted, _⟩, _, _, _, _, _, _, bundled, _⟩ := returned
      cases bundled
      rw [List.mem_singleton] at member
      subst member
      exact ⟨first, List.mem_cons_self .., validatePayload_ok accepted⟩

theorem bundleGroups_ok {rules : FeatureRules ω ρ} {listed : List (Group ρ)} {before after : ω}
    {events : List (WindowedFeatureVectorEvent ρ)}
    (returned : bundleGroups rules listed before = (.ok events, after))
    {feature : WindowedFeatureVectorEvent ρ} (member : feature ∈ events) :
    ∃ group ∈ listed, ∃ first ∈ group.2, feature.payload.partitionKey = first.partitionKey ∧
      feature.payload.windowStart = first.windowStart := by
  induction listed generalizing before events with
  | nil =>
      simp only [bundleGroups, Call.pure_apply, Prod.mk.injEq, Except.ok.injEq] at returned
      rw [← returned.1] at member
      cases member
  | cons group rest ih =>
      simp only [bundleGroups, Call.bind_eq_ok, Call.pure_apply, Prod.mk.injEq,
        Except.ok.injEq] at returned
      obtain ⟨here, between, bundled, later, final, others, rfl, rfl⟩ := returned
      rcases List.mem_append.mp member with inGroup | inRest
      · exact ⟨group, List.mem_cons_self .., bundleGroup_ok bundled inGroup⟩
      · obtain ⟨other, listed, found⟩ := ih others inRest
        exact ⟨other, List.mem_cons_of_mem _ listed, found⟩

theorem groups_nonempty {emissions : List (WindowEmission ρ)} {group : Group ρ}
    (member : group ∈ (groups emissions).entries) : group.2 ≠ [] := by
  have keyed : group.1 ∈ (groups emissions).keys := List.mem_map_of_mem member
  rw [groups, OrderedDict.mem_keys_foldl_modify groupKey [] fun group record => group ++ [record]]
    at keyed
  rcases keyed with inEmpty | ⟨emission, listed, keys⟩
  · cases inEmpty
  · rw [group_eq member]
    exact List.ne_nil_of_mem (List.mem_filter.mpr ⟨listed, decide_eq_true keys⟩)

/-- The schemas take the feature event of a group at a reading of the clock. -/
structure Bundleable (rules : FeatureRules ω ρ) (ingested : Instant)
    (group : List (WindowEmission ρ)) : Prop where
  trace : ∀ text, group.findSome? WindowEmission.lastContributingTraceId = some text →
    (rules.parseUuid text).isSome
  payload : ∀ first, group.head? = some first → refusedFields rules (payloadOf first group) = []
  timely : ∀ first, group.head? = some first →
    BaseEvent.checkClockSkew first.windowEnd ingested = .ok ()

/-- The schemas take the feature event of every group, the clock read once for each. -/
def AllBundleable (rules : FeatureRules ω ρ) : List (Group ρ) → ω → Prop
  | [], _ => True
  | group :: rest, world =>
      Bundleable rules (rules.now world).1 group.2 ∧ AllBundleable rules rest (rules.now world).2

theorem traceContext_returns {rules : FeatureRules ω ρ} {found : Option String} :
    (∃ trace, traceContext rules found = .ok trace) ↔
      ∀ text, found = some text → (rules.parseUuid text).isSome := by
  cases found with
  | none =>
      simp only [traceContext, Except.ok.injEq, exists_eq', reduceCtorEq, IsEmpty.forall_iff,
        implies_true]
  | some text =>
      rw [traceContext]
      cases parsed : rules.parseUuid text <;> simp [parsed]

theorem validatePayload_returns {rules : FeatureRules ω ρ}
    {payload : WindowedFeatureVectorPayload ρ} :
    (∃ valid, validatePayload rules payload = .ok valid) ↔ refusedFields rules payload = [] := by
  rw [validatePayload]
  cases refusedFields rules payload <;> simp

theorem bundleGroup_returns {rules : FeatureRules ω ρ} {group : Group ρ} (nonempty : group.2 ≠ [])
    {world : ω} :
    (bundleGroup rules group).Returns world ↔ Bundleable rules (rules.now world).1 group.2 := by
  obtain ⟨key, records⟩ := group
  cases records with
  | nil => exact absurd rfl nonempty
  | cons first rest =>
      simp only [bundleGroup, Call.returns_lift_bind]
      constructor
      · rintro ⟨trace, traced, payload, validated, timely⟩
        rw [Call.returns_bind_of_ok (Call.total_apply _ _), Call.returns_lift_bind] at timely
        obtain ⟨_, timely, _⟩ := timely
        refine ⟨traceContext_returns.mp ⟨trace, traced⟩, ?_, ?_⟩
        · rintro _ ⟨⟩
          exact validatePayload_returns.mp ⟨payload, validated⟩
        · rintro _ ⟨⟩
          exact timely
      · intro bundleable
        obtain ⟨trace, traced⟩ := traceContext_returns.mpr bundleable.trace
        obtain ⟨payload, validated⟩ := validatePayload_returns.mpr (bundleable.payload first rfl)
        refine ⟨trace, traced, payload, validated, ?_⟩
        rw [Call.returns_bind_of_ok (Call.total_apply _ _), Call.returns_lift_bind]
        exact ⟨(), bundleable.timely first rfl, Call.returns_pure _ _⟩

/-- A group that is bundled reads the clock once. -/
theorem bundleGroup_world {rules : FeatureRules ω ρ} {group : Group ρ} (nonempty : group.2 ≠ [])
    {world after : ω} {events : List (WindowedFeatureVectorEvent ρ)}
    (returned : bundleGroup rules group world = (.ok events, after)) :
    after = (rules.now world).2 := by
  obtain ⟨key, records⟩ := group
  cases records with
  | nil => exact absurd rfl nonempty
  | cons first rest =>
      simp only [bundleGroup, Call.bind_eq_ok, Call.lift_apply, Call.total_apply, Call.pure_apply,
        Prod.mk.injEq] at returned
      obtain ⟨_, _, ⟨_, rfl⟩, _, _, ⟨_, rfl⟩, _, _, ⟨_, rfl⟩, _, _, ⟨_, rfl⟩, _, rfl⟩ := returned
      rfl

theorem bundleGroups_returns {rules : FeatureRules ω ρ} {listed : List (Group ρ)}
    (nonempty : ∀ group ∈ listed, group.2 ≠ []) {world : ω} :
    (bundleGroups rules listed).Returns world ↔ AllBundleable rules listed world := by
  induction listed generalizing world with
  | nil => exact ⟨fun _ => trivial, fun _ => Call.returns_pure _ _⟩
  | cons group rest ih =>
      obtain ⟨here, later⟩ := List.forall_mem_cons.mp nonempty
      have last : ∀ events between, (bundleGroups rules rest >>= fun later =>
          (pure (events ++ later) : Call Raised ω (List (WindowedFeatureVectorEvent ρ)))).Returns
            between ↔ AllBundleable rules rest between := by
        intro events between
        rw [Call.returns_bind_of_total fun _ _ => Call.returns_pure _ _, ih later]
      rw [bundleGroups, AllBundleable, ← bundleGroup_returns here, Call.returns_bind]
      constructor
      · rintro ⟨events, between, returned, others⟩
        rw [← bundleGroup_world here returned]
        exact ⟨⟨events, between, returned⟩, (last events between).mp others⟩
      · rintro ⟨⟨events, between, returned⟩, others⟩
        rw [← bundleGroup_world here returned] at others
        exact ⟨events, between, returned, (last events between).mpr others⟩

theorem bundleFeatureEvents_returns {rules : FeatureRules ω ρ}
    {emissions : List (WindowEmission ρ)} {world : ω} :
    (bundleFeatureEvents rules emissions).Returns world ↔
      AllBundleable rules (groups emissions).entries world :=
  bundleGroups_returns fun _ member => groups_nonempty member

/-- Every bundled feature describes the partition and the window of one of the emissions. -/
theorem bundleFeatureEvents_ok {rules : FeatureRules ω ρ} {emissions : List (WindowEmission ρ)}
    {before after : ω} {events : List (WindowedFeatureVectorEvent ρ)}
    (returned : bundleFeatureEvents rules emissions before = (.ok events, after))
    {feature : WindowedFeatureVectorEvent ρ} (member : feature ∈ events) :
    ∃ emission ∈ emissions, feature.payload.partitionKey = emission.partitionKey ∧
      feature.payload.windowStart = emission.windowStart := by
  obtain ⟨group, listed, first, inGroup, same⟩ := bundleGroups_ok returned member
  rw [group_eq listed] at inGroup
  exact ⟨first, List.mem_of_mem_filter inGroup, same⟩

end

end FeatureBundling

end SignalForge
