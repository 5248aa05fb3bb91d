import SignalForge.WindowAssignment

/-! Window assignment with the division of the timestamp by the slide exact, for timestamps on any
clock. -/

set_option autoImplicit false

namespace SignalForge

namespace WindowAggregator

/-- `math.floor(offset_seconds / slide) * slide`, the quotients those of rationals. -/
def exactNewestStartSeconds (spec : WindowSpec) (eventTimestamp : Datetime) : Int :=
  let offsetSeconds : ℚ := eventTimestamp.micros / microsPerSecond
  ⌊offsetSeconds / spec.slideSeconds⌋ * spec.slideSeconds

/-- The start stepped back `k` slides, where its window contains the timestamp. -/
def exactContainingStart (spec : WindowSpec) (eventTimestamp : Datetime) (newest : Int) (k : Nat) :
    Except Raised (List Instant) := do
  let start ← Instant.epoch.add ((newest - k * spec.slideSeconds) * microsPerSecond)
  if start.micros ≤ eventTimestamp.micros then
    let windowEnd ← start.add spec.size
    pure (if eventTimestamp.micros < windowEnd.micros then [start] else [])
  else pure []

def exactContainingStarts (spec : WindowSpec) (eventTimestamp : Datetime) (newest : Int) :
    List Nat → Except Raised (List Instant)
  | [] => pure []
  | k :: rest => do
      let here ← exactContainingStart spec eventTimestamp newest k
      let later ← exactContainingStarts spec eventTimestamp newest rest
      pure (here ++ later)

/-- `_windows_containing`. -/
def exactWindowsContaining (spec : WindowSpec) (eventTimestamp : Datetime) :
    Except Raised (List Instant) := do
  let starts ← exactContainingStarts spec eventTimestamp
    (exactNewestStartSeconds spec eventTimestamp) (List.range (spec.sizeSeconds / spec.slideSeconds))
  pure (starts.insertionSort (· ≤ ·))

/-- A multiple of the slide whose window holds the timestamp. -/
def Covers (spec : WindowSpec) (eventTimestamp : Datetime) (start : Int) : Prop :=
  spec.slide ∣ start ∧ start ≤ eventTimestamp.micros ∧ eventTimestamp.micros < start + spec.size

/-- A window starts and ends within the datetimes of UTC. -/
def InRange (spec : WindowSpec) (start : Int) : Prop :=
  minMicros ≤ start ∧ start + spec.size ≤ maxMicros

instance (spec : WindowSpec) (start : Int) : Decidable (InRange spec start) :=
  inferInstanceAs (Decidable (_ ∧ _))

/-- The starts assigned are, in order, those of the windows that hold the timestamp. -/
structure AssignsThese (spec : WindowSpec) (eventTimestamp : Datetime) (starts : List Instant) :
    Prop where
  ascending : starts.Pairwise (· < ·)
  count : starts.length = spec.sizeSeconds / spec.slideSeconds
  covers : ∀ start : Int, start ∈ starts.map Instant.micros ↔ Covers spec eventTimestamp start

theorem exactNewestStartSeconds_eq (spec : WindowSpec) (t : Datetime) :
    exactNewestStartSeconds spec t = t.micros / spec.slide * spec.slideSeconds := by
  have quotient : (t.micros : ℚ) / (microsPerSecond : ℚ) / (spec.slideSeconds : ℚ) =
      (t.micros : ℚ) / ((spec.slideSeconds * 1000000 : Nat) : ℚ) := by
    rw [div_div, mul_comm]
    norm_num [microsPerSecond]
  rw [exactNewestStartSeconds, quotient, Rat.floor_intCast_div_natCast]
  rfl

theorem exactContainingStarts_utc (spec : WindowSpec) (timestamp : Instant) (newest : Int)
    (steps : List Nat) : containingStarts spec timestamp newest steps =
      exactContainingStarts spec (.utc timestamp) newest steps := by
  induction steps with
  | nil => rfl
  | cons k rest ih =>
      rw [containingStarts, exactContainingStarts, ih, containingStart, exactContainingStart,
        Datetime.utc_micros]
      rfl

/-- Where the floats do not round up to the next slide, they assign what the rationals do. -/
theorem windowsContaining_eq_exact {spec : WindowSpec} {timestamp : Instant}
    (precise : spec.AssignsExactly timestamp) :
    windowsContaining spec timestamp = exactWindowsContaining spec (.utc timestamp) := by
  rw [windowsContaining, exactWindowsContaining, exactNewestStartSeconds_eq, Datetime.utc_micros,
    ← precise, exactContainingStarts_utc]

section Steps

variable {spec : WindowSpec} {t : Datetime}

/-- The start `k` slides back, in microseconds. -/
def stepBack (spec : WindowSpec) (t : Datetime) (k : Nat) : Int :=
  (t.micros / spec.slide - k) * spec.slide

theorem stepBack_eq (spec : WindowSpec) (t : Datetime) (k : Nat) :
    (exactNewestStartSeconds spec t - k * spec.slideSeconds) * microsPerSecond =
      stepBack spec t k := by
  rw [exactNewestStartSeconds_eq, ← Int.sub_mul, Int.mul_assoc]
  rfl

theorem covers_iff (start : Int) : Covers spec t start ↔
    ∃ k < spec.sizeSeconds / spec.slideSeconds, start = stepBack spec t k := by
  rw [Covers, spec.size_eq]
  exact (Int.multiples_iff spec.slide_micros_pos _ t.micros start).symm

theorem stepBack_strictAnti {k further : Nat} (before : k < further) :
    stepBack spec t further < stepBack spec t k := by
  have steps : t.micros / spec.slide - (further : Int) < t.micros / spec.slide - k := by omega
  exact Int.mul_lt_mul_of_pos_right steps spec.slide_micros_pos

/-- The filter drops no start stepped back to. -/
theorem exactContainingStart_ok {k : Nat} (fewer : k < spec.sizeSeconds / spec.slideSeconds)
    (inRange : InRange spec (stepBack spec t k)) :
    ∃ start, exactContainingStart spec t (exactNewestStartSeconds spec t) k = .ok [start] ∧
      start.micros = stepBack spec t k := by
  obtain ⟨_, before, inside⟩ := (covers_iff (stepBack spec t k)).mpr ⟨k, fewer, rfl⟩
  have positive := spec.size_micros_pos
  have epochZero : Instant.epoch.micros = 0 := rfl
  obtain ⟨lower, upper⟩ := inRange
  obtain ⟨start, stepped, atStart⟩ := Instant.add_of_range .epoch (stepBack spec t k)
    (by omega) (by omega)
  rw [epochZero, Int.zero_add] at atStart
  obtain ⟨windowEnd, added, atEnd⟩ := Instant.add_of_range start spec.size (by omega) (by omega)
  refine ⟨start, ?_, atStart⟩
  rw [exactContainingStart, stepBack_eq]
  refine Except.bind_eq_ok.mpr ⟨start, stepped, ?_⟩
  rw [if_pos (by omega)]
  refine Except.bind_eq_ok.mpr ⟨windowEnd, added, ?_⟩
  rw [if_pos (by omega)]
  rfl

theorem exactContainingStart_overflows {k : Nat}
    (fewer : k < spec.sizeSeconds / spec.slideSeconds)
    (outside : ¬ InRange spec (stepBack spec t k)) :
    exactContainingStart spec t (exactNewestStartSeconds spec t) k = .error .overflowError := by
  obtain ⟨_, before, _⟩ := (covers_iff (stepBack spec t k)).mpr ⟨k, fewer, rfl⟩
  have epochZero : Instant.epoch.micros = 0 := rfl
  rw [exactContainingStart, stepBack_eq]
  by_cases started : minMicros ≤ stepBack spec t k ∧ stepBack spec t k ≤ maxMicros
  · obtain ⟨start, stepped, atStart⟩ := Instant.add_of_range .epoch (stepBack spec t k)
      (by omega) (by omega)
    rw [epochZero, Int.zero_add] at atStart
    have noEnd : start.add spec.size = .error .overflowError := by
      apply Instant.add_outside
      rw [atStart]
      exact fun ends => outside ⟨started.1, ends.2⟩
    rw [stepped]
    change (if start.micros ≤ t.micros then _ else _) = _
    rw [if_pos (by omega), noEnd]
    rfl
  · have noStart : Instant.epoch.add (stepBack spec t k) = .error .overflowError := by
      apply Instant.add_outside
      rwa [epochZero, Int.zero_add]
    rw [noStart]
    rfl

/-- Stepping back through starts that are all in range lists each of them. -/
theorem exactContainingStarts_ok {steps : List Nat}
    (fewer : ∀ k ∈ steps, k < spec.sizeSeconds / spec.slideSeconds)
    (inRange : ∀ k ∈ steps, InRange spec (stepBack spec t k)) :
    ∃ starts, exactContainingStarts spec t (exactNewestStartSeconds spec t) steps = .ok starts ∧
      starts.map Instant.micros = steps.map (stepBack spec t) := by
  induction steps with
  | nil => exact ⟨[], rfl, rfl⟩
  | cons k rest ih =>
      obtain ⟨nearer, fewer⟩ := List.forall_mem_cons.mp fewer
      obtain ⟨near, others⟩ := List.forall_mem_cons.mp inRange
      obtain ⟨start, first, atStart⟩ := exactContainingStart_ok nearer near
      obtain ⟨later, tail, atLater⟩ := ih fewer others
      refine ⟨start :: later, ?_, ?_⟩
      · exact Except.bind_eq_ok.mpr ⟨[start], first, Except.bind_eq_ok.mpr ⟨later, tail, rfl⟩⟩
      · rw [List.map_cons, List.map_cons, atStart, atLater]

theorem exactContainingStarts_overflows {steps : List Nat}
    (fewer : ∀ k ∈ steps, k < spec.sizeSeconds / spec.slideSeconds)
    (outside : ∃ k ∈ steps, ¬ InRange spec (stepBack spec t k)) :
    exactContainingStarts spec t (exactNewestStartSeconds spec t) steps = .error .overflowError := by
  induction steps with
  | nil =>
      obtain ⟨k, member, _⟩ := outside
      cases member
  | cons k rest ih =>
      obtain ⟨nearer, fewer⟩ := List.forall_mem_cons.mp fewer
      rw [exactContainingStarts]
      by_cases near : InRange spec (stepBack spec t k)
      · obtain ⟨start, first, _⟩ := exactContainingStart_ok nearer near
        obtain ⟨other, member, away⟩ := outside
        have later : other ∈ rest := by
          rcases List.mem_cons.mp member with rfl | later
          · exact absurd near away
          · exact later
        rw [first, ih fewer ⟨other, later, away⟩]
        rfl
      · rw [exactContainingStart_overflows nearer near]
        rfl

end Steps

/-- Every window that holds the timestamp lies within the datetimes of UTC. -/
def WindowsInRange (spec : WindowSpec) (t : Datetime) : Prop :=
  ∀ start, Covers spec t start → InRange spec start

theorem windowsInRange_iff (spec : WindowSpec) (t : Datetime) : WindowsInRange spec t ↔
    ∀ k ∈ List.range (spec.sizeSeconds / spec.slideSeconds), InRange spec (stepBack spec t k) := by
  simp only [WindowsInRange, covers_iff, List.mem_range]
  constructor
  · exact fun inRange k fewer => inRange _ ⟨k, fewer, rfl⟩
  · rintro inRange _ ⟨k, fewer, rfl⟩
    exact inRange k fewer

/-- Where every window that holds the timestamp is in range, the starts assigned are exactly
theirs; elsewhere the assignment raises. -/
theorem exactWindowsContaining_exact (spec : WindowSpec) (t : Datetime) :
    (WindowsInRange spec t ∧
      ∃ starts, exactWindowsContaining spec t = .ok starts ∧ AssignsThese spec t starts) ∨
    (¬ WindowsInRange spec t ∧ exactWindowsContaining spec t = .error .overflowError) := by
  have fewer : ∀ k ∈ List.range (spec.sizeSeconds / spec.slideSeconds),
      k < spec.sizeSeconds / spec.slideSeconds := fun k => List.mem_range.mp
  by_cases inRange : WindowsInRange spec t
  · refine Or.inl ⟨inRange, ?_⟩
    rw [windowsInRange_iff] at inRange
    obtain ⟨listed, found, micros⟩ := exactContainingStarts_ok fewer inRange
    have descending : listed.Pairwise (fun later earlier => earlier < later) := by
      have steps : (listed.map Instant.micros).Pairwise (fun later earlier => earlier < later) := by
        rw [micros, List.pairwise_map]
        exact List.pairwise_lt_range.imp stepBack_strictAnti
      exact List.pairwise_map.mp steps
    refine ⟨_, Except.bind_eq_ok.mpr ⟨listed, found, rfl⟩, ?_, ?_, fun start => ?_⟩
    · have ordered := List.pairwise_insertionSort (· ≤ ·) listed
      have distinct : (listed.insertionSort (· ≤ ·)).Nodup :=
        (List.perm_insertionSort (· ≤ ·) listed).nodup_iff.mpr
          (descending.imp fun before => before.ne')
      exact (ordered.and distinct).imp fun both => lt_of_le_of_ne both.1 both.2
    · rw [List.length_insertionSort, ← List.length_map Instant.micros, micros, List.length_map,
        List.length_range]
    · rw [((List.perm_insertionSort (· ≤ ·) listed).map Instant.micros).mem_iff, micros,
        covers_iff]
      simp only [List.mem_map, List.mem_range, eq_comm]
  · refine Or.inr ⟨inRange, ?_⟩
    simp only [windowsInRange_iff, not_forall] at inRange
    obtain ⟨k, member, away⟩ := inRange
    rw [exactWindowsContaining, exactContainingStarts_overflows fewer ⟨k, member, away⟩]
    rfl

/-- The last minute of the year 9999 ends with no datetime. -/
theorem last_minute_unassigned : ¬ ∀ (spec : WindowSpec) (t : Datetime),
    ∃ starts, exactWindowsContaining spec t = .ok starts ∧ AssignsThese spec t starts := by
  intro assigned
  have raises : exactWindowsContaining .perMinute (.utc ⟨maxMicros, by decide, by decide⟩) =
      .error .overflowError := by decide +kernel
  obtain ⟨starts, returned, _⟩ :=
    assigned .perMinute (.utc ⟨maxMicros, by decide, by decide⟩)
  rw [raises] at returned
  cases returned

end WindowAggregator

end SignalForge
