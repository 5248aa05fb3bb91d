import SignalForge.Aggregations
import SignalForge.DetectionIdentity
import SignalForge.FeatureBundling
import SignalForge.Sha1

/-! When the feature events of one call hold every emission of the call under its own window. -/

set_option autoImplicit false

/-! Records made one for each key of a list. -/
namespace List.Forall₂

variable {α β κ ι : Type} {made : α → β → Prop} {items : List α} {records : List β}

theorem made_of_mem (each : Forall₂ made items records) {record : β} (member : record ∈ records) :
    ∃ item ∈ items, made item record := by
  induction each with
  | nil => cases member
  | cons here _ ih =>
      rcases List.mem_cons.mp member with rfl | later
      · exact ⟨_, List.mem_cons_self, here⟩
      · obtain ⟨item, listed, makes⟩ := ih later
        exact ⟨item, List.mem_cons_of_mem _ listed, makes⟩

/-- Records that answer to one key are the one made for it. -/
theorem filter_of_key (each : Forall₂ made items records) {key : α → κ}
    (distinct : (items.map key).Nodup)
    {answers : β → Prop} [DecidablePred answers] {wanted : κ}
    (tells : ∀ item ∈ items, ∀ record, made item record → (answers record ↔ key item = wanted))
    {item : α} (listed : item ∈ items) (keyed : key item = wanted) :
    ∃ record, made item record ∧ records.filter (answers ·) = [record] := by
  induction each with
  | nil => cases listed
  | @cons first record rest later here others ih =>
      obtain ⟨apart, distinct⟩ := List.nodup_cons.mp distinct
      obtain ⟨tellsHere, tellsLater⟩ := List.forall_mem_cons.mp tells
      rcases List.mem_cons.mp listed with rfl | inRest
      · refine ⟨record, here, ?_⟩
        have none : later.filter (answers ·) = [] := by
          rw [List.filter_eq_nil_iff]
          intro other member yes
          obtain ⟨origin, originListed, makes⟩ := made_of_mem others member
          have same := (tellsLater origin originListed other makes).mp (of_decide_eq_true yes)
          exact apart (keyed.trans same.symm ▸ List.mem_map_of_mem originListed)
        rw [List.filter_cons_of_pos (by simpa using (tellsHere record here).mpr keyed), none]
      · obtain ⟨found, makes, single⟩ := ih distinct tellsLater inRest
        have quiet : ¬ answers record := fun yes =>
          apart (((tellsHere record here).mp yes).trans keyed.symm ▸ List.mem_map_of_mem inRest)
        exact ⟨found, makes, by rw [List.filter_cons_of_neg (by simpa using quiet), single]⟩

/-- Names that tell the keys apart are distinct. -/
theorem nodup_names (each : Forall₂ made items records) {key : α → κ} {name : β → ι}
    (distinct : (items.map key).Nodup) (tells : ∀ first ∈ items, ∀ second ∈ items, ∀ record other,
      made first record → made second other → name record = name other → key first = key second) :
    (records.map name).Nodup := by
  induction each with
  | nil => exact List.nodup_nil
  | @cons first record rest later here others ih =>
      obtain ⟨apart, distinct⟩ := List.nodup_cons.mp distinct
      refine List.nodup_cons.mpr ⟨?_, ih distinct fun one listed two other =>
        tells one (List.mem_cons_of_mem _ listed) two (List.mem_cons_of_mem _ other)⟩
      intro repeated
      obtain ⟨other, member, same⟩ := List.mem_map.mp repeated
      obtain ⟨origin, listed, makes⟩ := made_of_mem others member
      have keys := tells first List.mem_cons_self origin (List.mem_cons_of_mem _ listed) record
        other here makes same.symm
      exact apart (keys ▸ List.mem_map_of_mem listed)

end List.Forall₂

namespace SignalForge

namespace FeatureBundling

variable {ω ρ : Type}

/-- The two emissions are of one window and one aggregation. -/
def SameFeature (first second : WindowEmission ρ) : Prop :=
  groupKey first = groupKey second ∧ first.windowEnd.micros = second.windowEnd.micros ∧
    first.aggregationName = second.aggregationName

instance (first second : WindowEmission ρ) : Decidable (SameFeature first second) :=
  inferInstanceAs (Decidable (_ ∧ _))

/-- The event is of the emission's partition and window. -/
def Describes (event : WindowedFeatureVectorEvent ρ) (emission : WindowEmission ρ) : Prop :=
  event.payload.partitionKey = emission.partitionKey ∧
    event.payload.windowStart.micros = emission.windowStart.micros ∧
    event.payload.windowEnd.micros = emission.windowEnd.micros

instance (event : WindowedFeatureVectorEvent ρ) (emission : WindowEmission ρ) :
    Decidable (Describes event emission) := inferInstanceAs (Decidable (_ ∧ _))

/-- Nothing of the emissions is lost or relabelled: each is in the one event of its window under
its name, unless a later one of the same window and name is, and nothing else is in any. -/
structure Snapshots (emissions : List (WindowEmission ρ))
    (events : List (WindowedFeatureVectorEvent ρ)) : Prop where
  held : ∀ emission ∈ emissions, ∃ event, events.filter (Describes · emission) = [event] ∧
    event.payload.featureValues.get? emission.aggregationName =
      (emissions.filter (SameFeature emission)).getLast?.map WindowEmission.value
  sourced : ∀ event ∈ events, ∀ name value, event.payload.featureValues.get? name = some value →
    ∃ emission ∈ emissions, Describes event emission ∧ emission.aggregationName = name ∧
      emission.value = value
  distinct : (events.map WindowedFeatureVectorEvent.eventId).Nodup

/-- Emissions of one partition and window start are of one window. -/
def SharedEnds (emissions : List (WindowEmission ρ)) : Prop :=
  ∀ first ∈ emissions, ∀ second ∈ emissions, groupKey first = groupKey second →
    first.windowEnd.micros = second.windowEnd.micros

instance (emissions : List (WindowEmission ρ)) : Decidable (SharedEnds emissions) :=
  inferInstanceAs (Decidable (∀ first ∈ emissions, ∀ second ∈ emissions, _ → _))

/-- The text the id of the emission's event is derived from. -/
def featureName (emission : WindowEmission ρ) : String :=
  "|".intercalate ["event.feature", emission.partitionKey, emission.windowStart.str,
    emission.windowEnd.str, featureSchemaVersion]

theorem featureValues_concat (group : List (WindowEmission ρ)) (emission : WindowEmission ρ) :
    featureValues (group ++ [emission]) =
      (featureValues group).set emission.aggregationName emission.value := by
  rw [featureValues, List.foldl_append]
  rfl

/-- The last value under a name is the one kept. -/
theorem featureValues_get? (group : List (WindowEmission ρ)) (name : String) :
    (featureValues group).get? name =
      (group.filter fun emission => emission.aggregationName = name).getLast?.map
        WindowEmission.value := by
  induction group using List.reverseRecOn with
  | nil => rfl
  | append_singleton group emission ih =>
      rw [featureValues_concat, OrderedDict.get?_set, List.filter_append]
      by_cases here : emission.aggregationName = name
      · rw [if_pos here.symm, List.filter_cons_of_pos (by simpa using here), List.filter_nil,
          List.getLast?_concat, Option.map_some]
      · rw [if_neg fun same => here same.symm, List.filter_cons_of_neg (by simpa using here),
          List.filter_nil, List.append_nil, ih]

/-- What the event of a group holds. -/
structure EventOf (rules : FeatureRules ω ρ) (group : Group ρ) (first : WindowEmission ρ)
    (event : WindowedFeatureVectorEvent ρ) : Prop where
  head : group.2.head? = some first
  partitionKey : event.payload.partitionKey = first.partitionKey
  windowStart : event.payload.windowStart = first.windowStart
  windowEnd : event.payload.windowEnd = first.windowEnd
  utc : first.windowStart.offset = 0 ∧ first.windowEnd.offset = 0
  values : event.payload.featureValues =
    (featureValues group.2).mapValues fun value => (rules.featureValue value).getD value
  eventId : event.eventId = rules.uuid5 (featureName first)

theorem bundleGroup_eventOf {rules : FeatureRules ω ρ} {group : Group ρ} (nonempty : group.2 ≠ [])
    {before after : ω} {events : List (WindowedFeatureVectorEvent ρ)}
    (returned : bundleGroup rules group before = (.ok events, after)) :
    ∃ event, events = [event] ∧ ∃ first, EventOf rules group first event := by
  obtain ⟨key, records⟩ := group
  cases records with
  | nil => exact absurd rfl nonempty
  | cons first rest =>
      simp only [bundleGroup, Call.bind_eq_ok, Call.lift_apply, Call.total_apply, Call.pure_apply,
        Prod.mk.injEq, Except.ok.injEq] at returned
      obtain ⟨trace, _, _, payload, _, ⟨validated, _⟩, _, _, _, _, _, _, rfl, _⟩ := returned
      have accepted := validatePayload_returns.mp ⟨payload, validated⟩
      rw [validatePayload, accepted] at validated
      cases validated
      simp only [refusedFields, List.append_eq_nil_iff, payloadOf] at accepted
      obtain ⟨⟨⟨_, starts⟩, ends⟩, _⟩ := accepted
      refine ⟨_, rfl, first, rfl, rfl, rfl, rfl, ⟨?_, ?_⟩, rfl, rfl⟩
      · by_contra elsewhere
        exact List.cons_ne_nil _ _ (ite_eq_left_iff.mp starts elsewhere)
      · by_contra elsewhere
        exact List.cons_ne_nil _ _ (ite_eq_left_iff.mp ends elsewhere)

theorem bundleGroups_eventOf {rules : FeatureRules ω ρ} {listed : List (Group ρ)}
    (nonempty : ∀ group ∈ listed, group.2 ≠ []) {before after : ω}
    {events : List (WindowedFeatureVectorEvent ρ)}
    (returned : bundleGroups rules listed before = (.ok events, after)) :
    List.Forall₂ (fun group event => ∃ first, EventOf rules group first event) listed events := by
  induction listed generalizing before events with
  | nil =>
      cases returned
      exact List.Forall₂.nil
  | cons group rest ih =>
      obtain ⟨here, later⟩ := List.forall_mem_cons.mp nonempty
      simp only [bundleGroups, Call.bind_eq_ok, Call.pure_apply, Prod.mk.injEq,
        Except.ok.injEq] at returned
      obtain ⟨bundled, between, first, others, final, tail, rfl, rfl⟩ := returned
      obtain ⟨event, rfl, made⟩ := bundleGroup_eventOf here first
      exact List.Forall₂.cons made (ih later tail)

section Bundled

variable {rules : FeatureRules ω ρ} {emissions : List (WindowEmission ρ)}

/-- A group is known by its first emission. -/
theorem EventOf.keyed {group : Group ρ} {first : WindowEmission ρ}
    {event : WindowedFeatureVectorEvent ρ} (listed : group ∈ (groups emissions).entries)
    (made : EventOf rules group first event) : first ∈ emissions ∧ groupKey first = group.1 := by
  have inGroup := List.mem_of_head? made.head
  rw [group_eq listed] at inGroup
  obtain ⟨member, same⟩ := List.mem_filter.mp inGroup
  exact ⟨member, of_decide_eq_true same⟩

/-- The event of a group describes the emissions of the group that end where its first does. -/
theorem EventOf.describes {group : Group ρ} {first : WindowEmission ρ}
    {event : WindowedFeatureVectorEvent ρ} (listed : group ∈ (groups emissions).entries)
    (made : EventOf rules group first event) (emission : WindowEmission ρ) :
    Describes event emission ↔
      group.1 = groupKey emission ∧ first.windowEnd.micros = emission.windowEnd.micros := by
  rw [Describes, made.partitionKey, made.windowStart, made.windowEnd, ← (made.keyed listed).2,
    groupKey, groupKey, Prod.mk.injEq, and_assoc]

theorem group_of_emission {emission : WindowEmission ρ} (member : emission ∈ emissions) :
    ∃ group ∈ (groups emissions).entries, group.1 = groupKey emission := by
  have keyed : groupKey emission ∈ (groups emissions).keys := by
    rw [groups, OrderedDict.mem_keys_foldl_modify groupKey [] fun group record => group ++ [record]]
    exact Or.inr ⟨emission, member, rfl⟩
  exact List.mem_map.mp keyed

theorem inUtc_of_offset {emission : WindowEmission ρ}
    (utc : emission.windowStart.offset = 0 ∧ emission.windowEnd.offset = 0) :
    WindowAggregator.InUtc emission := by
  have instants : ∀ t : Datetime, t.offset = 0 → ∃ instant, t = .utc instant := by
    rintro ⟨wall, offset, lower, upper⟩ rfl
    exact ⟨⟨wall, lower, upper⟩, rfl⟩
  obtain ⟨start, starts⟩ := instants _ utc.1
  obtain ⟨finish, ends⟩ := instants _ utc.2
  exact ⟨start, finish, starts, ends⟩

/-- A name tells the partition and the window. -/
theorem featureName_tells {first second : WindowEmission ρ} (utc : WindowAggregator.InUtc first)
    (otherUtc : WindowAggregator.InUtc second) (same : featureName first = featureName second) :
    groupKey first = groupKey second := by
  have bounded : ∀ emission : WindowEmission ρ, (featureName emission).toList =
      ("event.feature|".toList ++ emission.partitionKey.toList) ++
        '|' :: (emission.windowStart.str.toList ++ '|' :: emission.windowEnd.str.toList) ++
          "|v1".toList := by
    intro emission
    simp [featureName, featureSchemaVersion]
  have lists := congrArg String.toList same
  rw [bounded, bounded] at lists
  obtain ⟨keys, starts, _⟩ :=
    (bounds_tell utc otherUtc).mp (List.append_cancel_right lists)
  rw [groupKey, groupKey, String.toList_inj.mp (List.append_cancel_left keys), starts]

/-- The events of a call, one for each group. -/
theorem bundled_eventOf {before after : ω} {events : List (WindowedFeatureVectorEvent ρ)}
    (returned : bundleFeatureEvents rules emissions before = (.ok events, after)) :
    List.Forall₂ (fun group event => ∃ first, EventOf rules group first event)
      (groups emissions).entries events :=
  bundleGroups_eventOf (fun _ member => groups_nonempty member) returned

/-- Events that hold every emission under its window are of windows that share no start. -/
theorem sharedEnds_of_snapshots {before after : ω} {events : List (WindowedFeatureVectorEvent ρ)}
    (returned : bundleFeatureEvents rules emissions before = (.ok events, after))
    (snapshots : Snapshots emissions events) : SharedEnds emissions := by
  have each := bundled_eventOf returned
  have ends : ∀ emission ∈ emissions, ∃ group ∈ (groups emissions).entries, ∃ first,
      group.2.head? = some first ∧ group.1 = groupKey emission ∧
        first.windowEnd.micros = emission.windowEnd.micros := by
    intro emission member
    obtain ⟨event, single, _⟩ := snapshots.held emission member
    have found : event ∈ events.filter (Describes · emission) := by
      rw [single]
      exact List.mem_singleton_self event
    obtain ⟨listed, describes⟩ := List.mem_filter.mp found
    obtain ⟨group, inGroups, first, made⟩ := each.made_of_mem listed
    have told := (made.describes inGroups emission).mp (of_decide_eq_true describes)
    exact ⟨group, inGroups, first, made.head, told⟩
  intro first member second other same
  obtain ⟨group, listed, head, heads, keyed, finish⟩ := ends first member
  obtain ⟨otherGroup, otherListed, otherHead, otherHeads, otherKeyed, otherFinish⟩ :=
    ends second other
  have sameGroup : group = otherGroup :=
    List.inj_on_of_nodup_map (groups emissions).nodup listed otherListed
      (keyed.trans (same.trans otherKeyed.symm))
  subst sameGroup
  obtain rfl := Option.some.inj (heads.symm.trans otherHeads)
  exact finish.symm.trans otherFinish

/-- Values the schema accepts are kept as they are. -/
def KeepsValues (rules : FeatureRules ω ρ) : Prop :=
  ∀ value kept, rules.featureValue value = some kept → kept = value

/-- No two of the windows' names are derived to one id. -/
def NamesApart (rules : FeatureRules ω ρ) (emissions : List (WindowEmission ρ)) : Prop :=
  ∀ left ∈ emissions, ∀ right ∈ emissions,
    rules.uuid5 (featureName left) = rules.uuid5 (featureName right) →
      featureName left = featureName right

theorem EventOf.get? (keeps : KeepsValues rules) {group : Group ρ} {first : WindowEmission ρ}
    {event : WindowedFeatureVectorEvent ρ} (made : EventOf rules group first event)
    (name : String) :
    event.payload.featureValues.get? name =
      (group.2.filter fun emission => emission.aggregationName = name).getLast?.map
        WindowEmission.value := by
  have unchanged : (fun value => (rules.featureValue value).getD value) = (id : ρ → ρ) := by
    funext value
    rcases accepted : rules.featureValue value with _ | kept
    · rfl
    · rw [Option.getD_some, keeps value kept accepted, id]
  rw [made.values, OrderedDict.get?_mapValues, unchanged, Option.map_id, id, featureValues_get?]

/-- With windows that share no start, an event is of the windows of its group alone. -/
theorem EventOf.describes_iff (shared : SharedEnds emissions) {group : Group ρ}
    {first : WindowEmission ρ} {event : WindowedFeatureVectorEvent ρ}
    (made : EventOf rules group first event) (listed : group ∈ (groups emissions).entries)
    {emission : WindowEmission ρ} (member : emission ∈ emissions) :
    Describes event emission ↔ group.1 = groupKey emission := by
  rw [made.describes listed, and_iff_left_iff_imp]
  obtain ⟨firstMember, keyed⟩ := made.keyed listed
  exact fun same => shared first firstMember emission member (keyed.trans same)

theorem SharedEnds.filter_eq (shared : SharedEnds emissions) {emission : WindowEmission ρ}
    (member : emission ∈ emissions) :
    ((emissions.filter fun other => groupKey other = groupKey emission).filter
      fun other => other.aggregationName = emission.aggregationName) =
      emissions.filter (SameFeature emission) := by
  rw [List.filter_filter]
  refine List.filter_congr fun other otherMember => ?_
  have sameFeature : other.aggregationName = emission.aggregationName ∧
      groupKey other = groupKey emission ↔ SameFeature emission other := by
    constructor
    · exact fun ⟨named, same⟩ =>
        ⟨same.symm, shared emission member other otherMember same.symm, named.symm⟩
    · exact fun same => ⟨same.2.2.symm, same.1.symm⟩
  rw [← Bool.decide_and]
  exact decide_eq_decide.mpr sameFeature

/-- With windows that share no start, nothing is lost or relabelled. -/
theorem snapshots_of_sharedEnds (keeps : KeepsValues rules) (apart : NamesApart rules emissions)
    (shared : SharedEnds emissions) {before after : ω}
    {events : List (WindowedFeatureVectorEvent ρ)}
    (returned : bundleFeatureEvents rules emissions before = (.ok events, after)) :
    Snapshots emissions events := by
  have each := bundled_eventOf returned
  refine ⟨?_, ?_, ?_⟩
  · intro emission member
    obtain ⟨group, listed, keyed⟩ := group_of_emission member
    obtain ⟨event, ⟨first, made⟩, single⟩ := each.filter_of_key (groups emissions).nodup
      (fun group listed event ⟨_, made⟩ => made.describes_iff shared listed member) listed keyed
    refine ⟨event, single, ?_⟩
    rw [made.get? keeps, group_eq listed, keyed, shared.filter_eq member]
  · intro event member name value found
    obtain ⟨group, listed, first, made⟩ := each.made_of_mem member
    rw [made.get? keeps] at found
    obtain ⟨emission, last, rfl⟩ := Option.map_eq_some_iff.mp found
    obtain ⟨inGroup, named⟩ := List.mem_filter.mp (List.mem_of_getLast? last)
    rw [group_eq listed] at inGroup
    obtain ⟨emitted, keyed⟩ := List.mem_filter.mp inGroup
    refine ⟨emission, emitted, ?_, of_decide_eq_true named, rfl⟩
    exact (made.describes_iff shared listed emitted).mpr (of_decide_eq_true keyed).symm
  · refine each.nodup_names (groups emissions).nodup ?_
    rintro group listed other otherListed event otherEvent ⟨first, made⟩ ⟨second, otherMade⟩ same
    rw [made.eventId, otherMade.eventId] at same
    obtain ⟨member, keyed⟩ := made.keyed listed
    obtain ⟨otherMember, otherKeyed⟩ := otherMade.keyed otherListed
    have names := apart first member second otherMember same
    rw [← keyed, ← otherKeyed]
    exact featureName_tells (inUtc_of_offset made.utc) (inUtc_of_offset otherMade.utc) names

end Bundled

/-- The events of a call hold every emission under its own window exactly where the schemas take
them all and no two windows of a partition share a start. -/
theorem bundled_snapshots_iff (rules : FeatureRules ω ρ) (emissions : List (WindowEmission ρ))
    (world : ω) (keeps : KeepsValues rules) (apart : NamesApart rules emissions) :
    (∃ events after, bundleFeatureEvents rules emissions world = (.ok events, after) ∧
        Snapshots emissions events) ↔
      AllBundleable rules (groups emissions).entries world ∧ SharedEnds emissions := by
  rw [← bundleFeatureEvents_returns]
  constructor
  · rintro ⟨events, after, returned, snapshots⟩
    exact ⟨⟨events, after, returned⟩, sharedEnds_of_snapshots returned snapshots⟩
  · rintro ⟨⟨events, after, returned⟩, shared⟩
    exact ⟨events, after, returned, snapshots_of_sharedEnds keeps apart shared returned⟩

section Sample

open WindowAggregator

/-- A clock at the epoch, and ids derived as the schemas derive them. -/
def epochRules : FeatureRules Unit Nat where
  now _ := (.epoch, ())
  featureValue := some
  parseUuid _ := none
  uuid5 name := Uuid.uuid5 Sha1.digest (Identity.rootNamespace Sha1.digest) name.toList

/-- Events of the first second counted, and their distinct devices. -/
def sampleEmission (name : String) (value : Nat) : WindowEmission Nat where
  partitionKey := "store-1"
  aggregationName := name
  windowStart := .utc .epoch
  windowEnd := .utc ⟨microsPerSecond, by decide, by decide⟩
  value := value
  eventCount := 2
  isRepair := false
  lastContributingTraceId := none

theorem bundled_snapshots_iff_sample :
    let emissions := [sampleEmission "count" 2, sampleEmission "distinct_count" 1]
    (∃ events after, bundleFeatureEvents epochRules emissions () = (.ok events, after) ∧
        Snapshots emissions events) ↔
      AllBundleable epochRules (groups emissions).entries () ∧ SharedEnds emissions := by
  refine bundled_snapshots_iff epochRules _ () ?_ ?_
  · rintro value kept ⟨⟩
    rfl
  · intro left member right other _
    rw [List.mem_pair] at member other
    rcases member with rfl | rfl <;> rcases other with rfl | rfl <;> rfl

/-- Events counted over windows of a second. -/
def secondCounts : WindowAggregator Nat String Nat where
  spec := .perSecond
  aggregation := countAggregation String
  latenessSeconds := 0

/-- Distinct devices over windows of two seconds. -/
def twoSecondDevices : WindowAggregator (Finset String) String Nat where
  spec := ⟨2, 2, by decide, by decide, by decide⟩
  aggregation := distinctCount .ok "distinct_count"
  latenessSeconds := 0

/-- What the two aggregators return for an event of a store's third second, the store heard once
before, in its first second. -/
def mixedEmissions : List (WindowEmission Nat) :=
  let earlier : Observation String := ⟨"store-1", .epoch, "device-1", .onTime, .epoch, none⟩
  let given : Observation String := ⟨"store-1", .second 2, "device-1", .onTime, .second 2, none⟩
  Call.answered (secondCounts.observe given) (secondCounts.observe earlier {}).2 ++
    Call.answered (twoSecondDevices.observe given) (twoSecondDevices.observe earlier {}).2

/-- Windows of a second and of two seconds with one start become one event of a second. -/
theorem two_sizes_collapse : ¬ ∃ events after,
    bundleFeatureEvents epochRules mixedEmissions () = (.ok events, after) ∧
      Snapshots mixedEmissions events := by
  rintro ⟨events, after, returned, snapshots⟩
  have shared := sharedEnds_of_snapshots returned snapshots
  exact absurd shared (by decide +kernel)

end Sample

end FeatureBundling

end SignalForge
