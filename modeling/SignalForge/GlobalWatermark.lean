import SignalForge.WatermarkManager

/-! The global watermark, and when historical partitions may be sealed by it. -/

set_option autoImplicit false

namespace SignalForge

namespace WatermarkManager

section Least

variable {τ : Type} [Timestamp τ] {manager : WatermarkManager τ}

/-- The least of the watermarks listed is one of them, and none is below it. -/
theorem leastWatermark_ok {least result : τ} {highs : List τ}
    (found : manager.leastWatermark least highs = .ok result) :
    (result = least ∨ ∃ high ∈ highs, manager.deriveWatermark high = .ok result) ∧
      Timestamp.micros result ≤ Timestamp.micros least ∧
      ∀ high ∈ highs, ∃ watermark, manager.deriveWatermark high = .ok watermark ∧
        Timestamp.micros result ≤ Timestamp.micros watermark := by
  induction highs generalizing least with
  | nil =>
      cases found
      exact ⟨Or.inl rfl, Int.le_refl _, List.forall_mem_nil _⟩
  | cons high rest ih =>
      obtain ⟨watermark, derived, later⟩ := Except.bind_eq_ok.mp found
      obtain ⟨attained, below, others⟩ := ih later
      have smaller : Timestamp.micros result ≤ Timestamp.micros watermark ∧
          Timestamp.micros result ≤ Timestamp.micros least := by
        split at below <;> omega
      refine ⟨?_, smaller.2, List.forall_mem_cons.mpr ⟨⟨watermark, derived, smaller.1⟩, others⟩⟩
      rcases attained with rfl | ⟨other, member, same⟩
      · split
        · exact Or.inr ⟨high, List.mem_cons_self .., derived⟩
        · exact Or.inl rfl
      · exact Or.inr ⟨other, List.mem_cons_of_mem _ member, same⟩

/-- The global watermark is the baseline or the watermark of a key, and no key's is below it. -/
theorem globalWatermark_ok {least : τ} (found : manager.globalWatermark = .ok least) :
    ((∀ key, manager.highEventTs.get? key = none) ∧ least = Timestamp.baseline ∨
        ∃ key high, manager.highEventTs.get? key = some high ∧
          manager.deriveWatermark high = .ok least) ∧
      ∀ key high, manager.highEventTs.get? key = some high → ∃ watermark,
        manager.deriveWatermark high = .ok watermark ∧
          Timestamp.micros least ≤ Timestamp.micros watermark := by
  have values := manager.highEventTs.mem_values_iff
  rw [globalWatermark] at found
  cases listed : manager.highEventTs.values with
  | nil =>
      rw [listed] at found
      cases found
      have absent : ∀ key high, manager.highEventTs.get? key ≠ some high := by
        intro key high present
        have member := (values high).mpr ⟨key, present⟩
        rw [listed] at member
        cases member
      exact ⟨Or.inl ⟨fun key => Option.eq_none_iff_forall_ne_some.mpr (absent key), rfl⟩,
        fun key high present => absurd present (absent key high)⟩
  | cons high rest =>
      rw [listed] at found
      obtain ⟨watermark, derived, later⟩ := Except.bind_eq_ok.mp found
      obtain ⟨attained, below, others⟩ := leastWatermark_ok later
      have all : ∀ other ∈ high :: rest, ∃ watermark,
          manager.deriveWatermark other = .ok watermark ∧
            Timestamp.micros least ≤ Timestamp.micros watermark :=
        List.forall_mem_cons.mpr ⟨⟨watermark, derived, below⟩, others⟩
      have some : ∃ other ∈ high :: rest, manager.deriveWatermark other = .ok least := by
        rcases attained with rfl | ⟨other, member, same⟩
        · exact ⟨high, List.mem_cons_self .., derived⟩
        · exact ⟨other, List.mem_cons_of_mem _ member, same⟩
      rw [← listed] at all some
      obtain ⟨other, member, same⟩ := some
      obtain ⟨key, present⟩ := (values other).mp member
      exact ⟨Or.inr ⟨key, other, present, same⟩,
        fun key high present => all high ((values high).mpr ⟨key, present⟩)⟩

theorem leastWatermark_returns {least : τ} {highs : List τ} :
    (∃ result, manager.leastWatermark least highs = .ok result) ↔
      ∀ high ∈ highs, ∃ watermark, manager.deriveWatermark high = .ok watermark := by
  induction highs generalizing least with
  | nil => exact ⟨fun _ => List.forall_mem_nil _, fun _ => ⟨least, rfl⟩⟩
  | cons high rest ih =>
      rw [List.forall_mem_cons]
      constructor
      · rintro ⟨result, found⟩
        obtain ⟨watermark, derived, later⟩ := Except.bind_eq_ok.mp found
        exact ⟨⟨watermark, derived⟩, ih.mp ⟨result, later⟩⟩
      · rintro ⟨⟨watermark, derived⟩, others⟩
        obtain ⟨result, later⟩ := ih.mpr others
        exact ⟨result, Except.bind_eq_ok.mpr ⟨watermark, derived, later⟩⟩

/-- There is a global watermark where every key has a watermark. -/
theorem globalWatermark_returns :
    (∃ least, manager.globalWatermark = .ok least) ↔
      ∀ key high, manager.highEventTs.get? key = some high → ∃ watermark,
        manager.deriveWatermark high = .ok watermark := by
  have values := manager.highEventTs.mem_values_iff
  constructor
  · rintro ⟨least, found⟩ key high present
    obtain ⟨watermark, derived, _⟩ := (globalWatermark_ok found).2 key high present
    exact ⟨watermark, derived⟩
  · intro each
    have all : ∀ high ∈ manager.highEventTs.values, ∃ watermark,
        manager.deriveWatermark high = .ok watermark := by
      intro high member
      obtain ⟨key, present⟩ := (values high).mp member
      exact each key high present
    rw [globalWatermark]
    cases listed : manager.highEventTs.values with
    | nil => exact ⟨_, rfl⟩
    | cons high rest =>
        rw [listed, List.forall_mem_cons] at all
        obtain ⟨⟨watermark, derived⟩, others⟩ := all
        obtain ⟨least, later⟩ := leastWatermark_returns.mpr others
        exact ⟨least, Except.bind_eq_ok.mpr ⟨watermark, derived, later⟩⟩

end Least

/-- No key has been observed. -/
def fresh (latenessSeconds : Nat) : WatermarkManager Datetime := ⟨latenessSeconds, .empty⟩

/-- What a derived watermark is: `datetime.min`, or the high less the lateness. -/
theorem derived_micros {manager : WatermarkManager Datetime} {high watermark : Datetime}
    (derived : manager.deriveWatermark high = .ok watermark) :
    high.micros = minMicros ∧ watermark.micros = minMicros ∨
      high.micros ≠ minMicros ∧ watermark.micros = high.micros - manager.lateness := by
  unfold deriveWatermark at derived
  split at derived
  · rename_i unseen
    cases derived
    exact Or.inl ⟨unseen, rfl⟩
  · rename_i seen
    refine Or.inr ⟨seen, ?_⟩
    have moved : high.sub manager.lateness = .ok watermark := derived
    rw [Datetime.sub] at moved
    split at moved
    · cases moved
      simp only [Datetime.micros]
      omega
    · cases moved

/-- The high the event leaves its key has a watermark, and one not below the global watermark. -/
def KeepsUp (manager : WatermarkManager Datetime) (key : String) (t : Datetime) : Prop :=
  key = "" ∨ manager.InReach (Timestamp.later (manager.highFor key) t) ∧
    ∀ least, manager.globalWatermark = .ok least →
      (Timestamp.later (manager.highFor key) t).micros = minMicros ∧ least.micros ≤ minMicros ∨
        (Timestamp.later (manager.highFor key) t).micros ≠ minMicros ∧
          least.micros + manager.lateness ≤ (Timestamp.later (manager.highFor key) t).micros

/-- Sealing a partition on the global watermark is sound in a run: the watermark never goes
back, and once it is past a partition's right edge by the lateness, no event of the partition is
taken. -/
structure SealsSoundly (manager : WatermarkManager Datetime) (arrivals : List (String × Datetime)) :
    Prop where
  monotone : ∀ before arrival, before ++ [arrival] <+: arrivals → ∃ earlier later,
    (manager.observeAll before).globalWatermark = .ok earlier ∧
      (manager.observeAll (before ++ [arrival])).globalWatermark = .ok later ∧
      earlier.micros ≤ later.micros
  late : ∀ before between arrival, before ++ between ++ [arrival] <+: arrivals →
    ∀ least rightEdge, (manager.observeAll before).globalWatermark = .ok least →
      rightEdge + manager.lateness ≤ least.micros → arrival.2.micros < rightEdge →
      ∀ observation after, observe arrival.1 arrival.2 (manager.observeAll (before ++ between)) =
        (.ok observation, after) → observation.classification = .lateDropped

section Step

variable {manager : WatermarkManager Datetime} {key : String} {t : Datetime}

theorem observeAll_concat (manager : WatermarkManager Datetime)
    (arrivals : List (String × Datetime)) (arrival : String × Datetime) :
    manager.observeAll (arrivals ++ [arrival]) =
      (observe arrival.1 arrival.2 (manager.observeAll arrivals)).2 := by
  rw [observeAll, List.foldl_concat, observeAll]

theorem observe_nameless (manager : WatermarkManager Datetime) (t : Datetime) :
    observe "" t manager = (.error (.valueError "key must be non-empty"), manager) := rfl

/-- Where there is a global watermark, every key has one, unseen keys included. -/
theorem watermarkFor_of_global {least : Datetime} (found : manager.globalWatermark = .ok least)
    (key : String) : ∃ watermark, manager.watermarkFor key = .ok watermark := by
  rw [watermarkFor, highFor]
  cases present : manager.highEventTs.get? key with
  | none => exact ⟨_, rfl⟩
  | some high =>
      obtain ⟨watermark, derived, _⟩ := (globalWatermark_ok found).2 key high present
      exact ⟨watermark, derived⟩

/-- With a key observed whose watermarks all lie at or past a time, so does the least of them. -/
theorem globalWatermark_past {least : Datetime} {key : String} {high : Datetime}
    (stored : manager.highEventTs.get? key = some high)
    (each : ∀ other high, manager.highEventTs.get? other = some high → ∃ watermark,
      manager.deriveWatermark high = .ok watermark ∧ least.micros ≤ watermark.micros) :
    ∃ later, manager.globalWatermark = .ok later ∧ least.micros ≤ later.micros := by
  obtain ⟨later, global⟩ := globalWatermark_returns.mpr fun other high present => by
    obtain ⟨watermark, derived, _⟩ := each other high present
    exact ⟨watermark, derived⟩
  refine ⟨later, global, ?_⟩
  rcases (globalWatermark_ok global).1 with ⟨absent, _⟩ | ⟨other, high, present, attained⟩
  · rw [absent key] at stored
    cases stored
  · obtain ⟨watermark, derived, above⟩ := each other high present
    rw [attained] at derived
    cases derived
    exact above

/-- A call moves the global watermark back just where its event does not keep up with it. -/
theorem keepsUp_iff {least : Datetime} (found : manager.globalWatermark = .ok least) :
    manager.KeepsUp key t ↔ ∃ later, (observe key t manager).2.globalWatermark = .ok later ∧
      least.micros ≤ later.micros := by
  by_cases nameless : key = ""
  · rw [nameless, observe_nameless]
    exact iff_of_true (Or.inl rfl) ⟨least, found, Int.le_refl _⟩
  obtain ⟨previous, before⟩ := watermarkFor_of_global found key
  rw [observe_leaves nameless before t, KeepsUp]
  generalize Timestamp.later (manager.highFor key) t = newHigh
  let after : WatermarkManager Datetime :=
    ⟨manager.latenessSeconds, manager.highEventTs.set key newHigh⟩
  change _ ↔ ∃ later, after.globalWatermark = .ok later ∧ least.micros ≤ later.micros
  have stored : after.highEventTs.get? key = some newHigh := OrderedDict.get?_set_self _ _ _
  constructor
  · rintro (same | ⟨reach, keepsUp⟩)
    · exact absurd same nameless
    refine globalWatermark_past stored fun other high present => ?_
    rw [OrderedDict.get?_set] at present
    split at present
    · cases present
      obtain ⟨watermark, derived⟩ := deriveWatermark_returns.mpr reach
      refine ⟨watermark, derived, ?_⟩
      rcases keepsUp least found with ⟨first, below⟩ | ⟨seen, ahead⟩ <;>
        rcases derived_micros derived with ⟨isFirst, same⟩ | ⟨isSeen, same⟩ <;> omega
    · exact (globalWatermark_ok found).2 other high present
  · rintro ⟨later, global, above⟩
    obtain ⟨watermark, derived, below⟩ := (globalWatermark_ok global).2 key newHigh stored
    have notBelow : later.micros ≤ watermark.micros := below
    refine Or.inr ⟨deriveWatermark_returns.mp ⟨watermark, derived⟩, fun other same => ?_⟩
    rw [found] at same
    cases same
    rcases derived_micros derived with ⟨first, same⟩ | ⟨seen, same⟩
    · exact Or.inl ⟨first, by omega⟩
    · refine Or.inr ⟨seen, ?_⟩
      have sameLateness : after.lateness = manager.lateness := rfl
      rw [sameLateness] at same
      omega

theorem classify_of_past {previous : Datetime}
    (past : t.micros + manager.lateness < previous.micros) :
    manager.classify t previous = .lateDropped := by
  have nonneg := manager.lateness_nonneg
  have early : ¬ Timestamp.micros previous ≤ Timestamp.micros t :=
    Int.not_le.mpr (by change t.micros < previous.micros; omega)
  have overdue : ¬ (Timestamp.micros previous - Timestamp.micros t ≤ manager.lateness ∧
      0 < manager.lateness) := by
    rintro ⟨tolerated, _⟩
    change previous.micros - t.micros ≤ _ at tolerated
    omega
  rw [classify, if_neg early, if_neg overdue]

/-- An event that keeps up with a watermark already past its partition is dropped. -/
theorem dropped_of_sealed {least : Datetime} {rightEdge : Int}
    (found : manager.globalWatermark = .ok least) (keepsUp : manager.KeepsUp key t)
    (passed : rightEdge + manager.lateness ≤ least.micros) (inside : t.micros < rightEdge)
    {observation : WatermarkObservation Datetime} {after : WatermarkManager Datetime}
    (returned : observe key t manager = (.ok observation, after)) :
    observation.classification = .lateDropped := by
  have nonneg := manager.lateness_nonneg
  obtain ⟨previous, observed⟩ := observe_ok returned
  rw [observed.classified]
  apply classify_of_past
  have before := observed.before
  rw [watermarkFor] at before
  cases present : manager.highEventTs.get? key with
  | some high =>
      have isHigh : manager.highFor key = high := by rw [highFor, present, Option.getD_some]
      obtain ⟨watermark, derived, above⟩ := (globalWatermark_ok found).2 key high present
      rw [isHigh, derived] at before
      cases before
      change least.micros ≤ previous.micros at above
      omega
  | none =>
      -- a key not seen before is classified against `datetime.min`
      have isHigh : manager.highFor key = Timestamp.baseline := by
        rw [highFor, present, Option.getD_none]
      rw [isHigh] at before
      cases before
      have lowest : (Timestamp.baseline : Datetime).micros = minMicros := rfl
      obtain ⟨_, ahead⟩ := keepsUp.resolve_left observed.nonempty
      rw [isHigh] at ahead
      rcases ahead least found with ⟨_, below⟩ | ⟨seen, ahead⟩
      · omega
      · rw [Timestamp.later] at seen ahead
        split at ahead
        · omega
        · rename_i notLater
          rw [if_neg notLater] at seen
          exact absurd lowest seen

end Step

theorem observeAll_lateness (manager : WatermarkManager Datetime)
    (arrivals : List (String × Datetime)) :
    (manager.observeAll arrivals).lateness = manager.lateness := by
  induction arrivals using List.reverseRecOn with
  | nil => rfl
  | append_singleton arrivals arrival ih =>
      rw [observeAll_concat, ← ih]
      by_cases nameless : arrival.1 = ""
      · rw [nameless, observe_nameless]
      · rcases watermark : (manager.observeAll arrivals).watermarkFor arrival.1 with
          reason | previous
        · rw [observe_raises nameless watermark]
        · rw [observe_leaves nameless watermark]
          rfl

section Run

variable {manager : WatermarkManager Datetime} {arrivals : List (String × Datetime)}

/-- Along a run that keeps up, the global watermark only advances. -/
theorem global_advances
    (keepsUp : ∀ before arrival, before ++ [arrival] <+: arrivals →
      (manager.observeAll before).KeepsUp arrival.1 arrival.2)
    (before between : List (String × Datetime)) (prefixed : before ++ between <+: arrivals)
    {least : Datetime} (found : (manager.observeAll before).globalWatermark = .ok least) :
    ∃ later, (manager.observeAll (before ++ between)).globalWatermark = .ok later ∧
      least.micros ≤ later.micros := by
  induction between using List.reverseRecOn with
  | nil =>
      rw [List.append_nil]
      exact ⟨least, found, Int.le_refl _⟩
  | append_singleton between arrival ih =>
      rw [← List.append_assoc] at prefixed ⊢
      obtain ⟨middle, reached, above⟩ := ih ((List.prefix_append _ _).trans prefixed)
      obtain ⟨later, global, advanced⟩ := (keepsUp_iff reached).mp (keepsUp _ arrival prefixed)
      rw [observeAll_concat]
      exact ⟨later, global, above.trans advanced⟩

end Run

/-- Sealing by the global watermark is sound exactly in the runs in which every event keeps up
with it. -/
theorem sealsSoundly_iff_keepsUp (latenessSeconds : Nat) (arrivals : List (String × Datetime)) :
    (fresh latenessSeconds).SealsSoundly arrivals ↔
      ∀ before arrival, before ++ [arrival] <+: arrivals →
        ((fresh latenessSeconds).observeAll before).KeepsUp arrival.1 arrival.2 := by
  have start : ((fresh latenessSeconds).observeAll []).globalWatermark =
      .ok Timestamp.baseline := rfl
  constructor
  · intro sound before arrival prefixed
    obtain ⟨earlier, later, found, global, above⟩ := sound.monotone before arrival prefixed
    rw [observeAll_concat] at global
    exact (keepsUp_iff found).mpr ⟨later, global, above⟩
  · intro keepsUp
    refine ⟨?_, ?_⟩
    · intro before arrival prefixed
      have reached : [] ++ before <+: arrivals := (List.prefix_append _ _).trans prefixed
      obtain ⟨earlier, found, _⟩ := global_advances keepsUp [] before reached start
      obtain ⟨later, global, above⟩ := global_advances keepsUp before [arrival] prefixed found
      exact ⟨earlier, later, found, global, above⟩
    · intro before between arrival prefixed least rightEdge found passed inside observation after
        returned
      have step := keepsUp (before ++ between) arrival prefixed
      obtain ⟨later, global, above⟩ := global_advances keepsUp before between
        ((List.prefix_append _ _).trans prefixed) found
      refine dropped_of_sealed global step ?_ inside returned
      rw [observeAll_lateness]
      exact passed.trans above

/-- A key first seen late takes the global watermark back, into a partition already sealed. -/
theorem late_key_unseals : ¬ ∀ latenessSeconds arrivals,
    (fresh latenessSeconds).SealsSoundly arrivals := by
  intro sound
  have run := sound 60 [("store-1", .utc ⟨1000000000, by decide, by decide⟩),
    ("store-2", .utc ⟨300000000, by decide, by decide⟩)]
  obtain ⟨earlier, later, found, global, above⟩ := run.monotone
    [("store-1", .utc ⟨1000000000, by decide, by decide⟩)]
    ("store-2", .utc ⟨300000000, by decide, by decide⟩) (List.prefix_refl _)
  cases found
  cases global
  exact absurd above (by decide)

end WatermarkManager

end SignalForge
