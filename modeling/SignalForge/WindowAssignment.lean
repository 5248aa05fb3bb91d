import SignalForge.WindowAggregator

/-! Which windows an event is assigned to, and when these are exactly the windows that
contain it. -/

set_option autoImplicit false

/-- The last multiples of a width at or before a point, as many as there are widths in a span, are
those that the span reaches from beyond the point. -/
theorem Int.multiples_iff {width : Int} (positive : 0 < width) (count : Nat) (point multiple : Int) :
    (∃ k < count, multiple = (point / width - k) * width) ↔
      width ∣ multiple ∧ multiple ≤ point ∧ point < multiple + count * width := by
  constructor
  · rintro ⟨k, fewer, rfl⟩
    have last : point / width * width ≤ point := Int.ediv_mul_le point positive.ne'
    have next : point < point / width * width + width := by
      have above := Int.lt_ediv_add_one_mul_self point positive
      rwa [Int.add_mul, Int.one_mul] at above
    have nonneg : 0 ≤ k * width := Int.mul_nonneg (Int.natCast_nonneg k) positive.le
    have further : ((k : Int) + 1) * width ≤ count * width :=
      Int.mul_le_mul_of_nonneg_right (by exact_mod_cast fewer) positive.le
    rw [Int.add_mul, Int.one_mul] at further
    refine ⟨Int.dvd_mul_left _ _, ?_, ?_⟩
    · rw [Int.sub_mul]
      omega
    · rw [Int.sub_mul]
      omega
  · rintro ⟨⟨factor, rfl⟩, before, inside⟩
    have newest : factor ≤ point / width := by
      apply (Int.le_ediv_iff_mul_le positive).mpr
      rwa [Int.mul_comm]
    have oldest : point / width < factor + count := by
      apply (Int.ediv_lt_iff_lt_mul positive).mpr
      rwa [Int.add_mul, Int.mul_comm factor]
    refine ⟨(point / width - factor).toNat, by omega, ?_⟩
    rw [Int.toNat_of_nonneg (by omega), Int.mul_comm]
    congr 1
    omega

namespace SignalForge

namespace WindowSpec

theorem slide_micros_pos (spec : WindowSpec) : 0 < spec.slide := by
  have positive := spec.slide_pos
  simp only [slide, microsPerSecond]
  omega

/-- A size is a whole number of slides. -/
theorem size_eq (spec : WindowSpec) :
    spec.size = (spec.sizeSeconds / spec.slideSeconds : Nat) * spec.slide := by
  have whole := Nat.div_mul_cancel spec.slide_dvd
  rw [size, slide, ← Int.mul_assoc]
  congr 1
  exact_mod_cast whole.symm

theorem size_micros_pos (spec : WindowSpec) : 0 < spec.size := by
  have positive := spec.size_pos
  simp only [size, microsPerSecond]
  omega

/-- A grid window holds the timestamps from its start up to its end, the end excluded. -/
def Contains (spec : WindowSpec) (start timestamp : Instant) : Prop :=
  spec.slide ∣ start.micros ∧ start ≤ timestamp ∧
    timestamp.micros < start.micros + spec.size

instance (spec : WindowSpec) (start timestamp : Instant) :
    Decidable (spec.Contains start timestamp) :=
  inferInstanceAs (Decidable (_ ∧ _))

/-- The quotient of the timestamp's seconds by the slide does not round up to the next
whole number. -/
def AssignsExactly (spec : WindowSpec) (timestamp : Instant) : Prop :=
  WindowAggregator.newestStartSeconds spec timestamp =
    timestamp.micros / spec.slide * spec.slideSeconds

instance (spec : WindowSpec) (timestamp : Instant) : Decidable (spec.AssignsExactly timestamp) :=
  inferInstanceAs (Decidable (_ = _))

end WindowSpec

theorem WindowSpec.AssignsExactly.step {spec : WindowSpec} {timestamp : Instant}
    (precise : spec.AssignsExactly timestamp) (k : Nat) :
    (WindowAggregator.newestStartSeconds spec timestamp - k * spec.slideSeconds) *
        microsPerSecond =
      (timestamp.micros / spec.slide - k) * spec.slide := by
  rw [precise, ← Int.sub_mul, Int.mul_assoc]
  rfl

namespace WindowAggregator

/-- The start `k` slides before the newest, and whether its window holds the timestamp. -/
def Steps (spec : WindowSpec) (timestamp : Instant) (newest : Int) (k : Nat) (start : Instant) :
    Prop :=
  start.micros = (newest - k * spec.slideSeconds) * microsPerSecond ∧ start ≤ timestamp ∧
    timestamp.micros < start.micros + spec.size

theorem containingStart_ok {spec : WindowSpec} {timestamp : Instant} {newest : Int} {k : Nat}
    {starts : List Instant}
    (returned : containingStart spec timestamp newest k = .ok starts) :
    starts = [] ∧ (∀ start, ¬ Steps spec timestamp newest k start) ∨
      ∃ start, starts = [start] ∧ Steps spec timestamp newest k start := by
  obtain ⟨start, stepped, checked⟩ := Except.bind_eq_ok.mp returned
  rw [Instant.add_eq_ok] at stepped
  have only : ∀ other, Steps spec timestamp newest k other → other = start := by
    intro other steps
    have epochZero : Instant.epoch.micros = 0 := rfl
    exact Instant.ext (by rw [steps.1, stepped, epochZero, Int.zero_add])
  split at checked
  · rename_i before
    obtain ⟨windowEnd, added, kept⟩ := Except.bind_eq_ok.mp checked
    rw [Instant.add_eq_ok] at added
    cases kept
    split
    · rename_i inside
      refine Or.inr ⟨start, rfl, ?_, before, ?_⟩
      · rw [stepped, show Instant.epoch.micros = 0 from rfl, Int.zero_add]
      · rwa [← added, ← Instant.lt_def]
    · rename_i outside
      refine Or.inl ⟨rfl, ?_⟩
      rintro other steps
      obtain rfl := only other steps
      exact outside (by rw [Instant.lt_def, added]; exact steps.2.2)
  · rename_i after
    cases checked
    refine Or.inl ⟨rfl, ?_⟩
    rintro other steps
    obtain rfl := only other steps
    exact after steps.2.1

theorem Steps.lt_of_lt {spec : WindowSpec} {timestamp : Instant} {newest : Int} {k other : Nat}
    {start otherStart : Instant} (steps : Steps spec timestamp newest k start)
    (otherSteps : Steps spec timestamp newest other otherStart) (further : k < other) :
    otherStart < start := by
  have positive := spec.slide_pos
  have slides : (k * spec.slideSeconds : Int) < other * spec.slideSeconds :=
    Int.mul_lt_mul_of_pos_right (by exact_mod_cast further) (by exact_mod_cast positive)
  have here := steps.1
  have there := otherSteps.1
  rw [Instant.lt_def]
  simp only [microsPerSecond] at here there
  omega

/-- Stepping back through ascending `k` lists the starts in descending order. -/
theorem containingStarts_ok {spec : WindowSpec} {timestamp : Instant} {newest : Int}
    {steps : List Nat} {starts : List Instant} (ascending : steps.Pairwise (· < ·))
    (returned : containingStarts spec timestamp newest steps = .ok starts) :
    starts.Pairwise (fun later earlier => earlier < later) ∧
      ∀ start, start ∈ starts ↔ ∃ k ∈ steps, Steps spec timestamp newest k start := by
  induction steps generalizing starts with
  | nil =>
      cases returned
      exact ⟨List.Pairwise.nil, by simp⟩
  | cons k rest ih =>
      obtain ⟨here, first, others⟩ := Except.bind_eq_ok.mp returned
      obtain ⟨later, tail, joined⟩ := Except.bind_eq_ok.mp others
      cases joined
      obtain ⟨smallest, ascending⟩ := List.pairwise_cons.mp ascending
      obtain ⟨descending, members⟩ := ih ascending tail
      rcases containingStart_ok first with ⟨rfl, none⟩ | ⟨start, rfl, found⟩
      · refine ⟨descending, fun start => ?_⟩
        simp only [List.nil_append, members, List.mem_cons, exists_eq_or_imp, none, false_or]
      · constructor
        · refine List.pairwise_cons.mpr ⟨?_, descending⟩
          intro other member
          obtain ⟨otherK, listed, otherSteps⟩ := (members other).mp member
          exact found.lt_of_lt otherSteps (smallest otherK listed)
        · intro other
          simp only [List.cons_append, List.nil_append, List.mem_cons, members, exists_eq_or_imp]
          constructor
          · rintro (rfl | listed)
            · exact Or.inl found
            · exact Or.inr listed
          · rintro (stepped | listed)
            · exact Or.inl (Instant.ext (by rw [stepped.1, found.1]))
            · exact Or.inr listed

theorem windowsContaining_ok {spec : WindowSpec} {timestamp : Instant} {starts : List Instant}
    (returned : windowsContaining spec timestamp = .ok starts) :
    starts.Pairwise (· < ·) ∧ ∀ start, start ∈ starts ↔
      ∃ k < spec.sizeSeconds / spec.slideSeconds,
        Steps spec timestamp (newestStartSeconds spec timestamp) k start := by
  obtain ⟨listed, found, sorted⟩ := Except.bind_eq_ok.mp returned
  cases sorted
  obtain ⟨descending, members⟩ := containingStarts_ok List.pairwise_lt_range found
  constructor
  · have ordered := List.pairwise_insertionSort (· ≤ ·) listed
    have distinct : (listed.insertionSort (· ≤ ·)).Nodup :=
      (List.perm_insertionSort (· ≤ ·) listed).nodup_iff.mpr
        (descending.imp fun before => before.ne')
    exact (ordered.and distinct).imp fun both => lt_of_le_of_ne both.1 both.2
  · intro start
    rw [List.mem_insertionSort, members]
    simp only [List.mem_range]

/-- Every window assigned holds the timestamp. -/
theorem windowsContaining_covers {spec : WindowSpec} {timestamp : Instant} {starts : List Instant}
    (returned : windowsContaining spec timestamp = .ok starts) {start : Instant}
    (member : start ∈ starts) :
    start ≤ timestamp ∧ timestamp.micros < start.micros + spec.size := by
  obtain ⟨_, _, _, covers⟩ := ((windowsContaining_ok returned).2 start).mp member
  exact covers

/-- Every window assigned starts on the grid. -/
theorem windowsContaining_aligned {spec : WindowSpec} {timestamp : Instant} {starts : List Instant}
    (returned : windowsContaining spec timestamp = .ok starts) {start : Instant}
    (member : start ∈ starts) : spec.slide ∣ start.micros := by
  obtain ⟨k, _, aligned, _⟩ := ((windowsContaining_ok returned).2 start).mp member
  rw [newestStartSeconds, ← Int.sub_mul, Int.mul_assoc] at aligned
  exact ⟨_, aligned.trans (Int.mul_comm _ _)⟩

theorem steps_of_precise {spec : WindowSpec} {timestamp : Instant}
    (precise : spec.AssignsExactly timestamp) (k : Nat) (start : Instant) :
    Steps spec timestamp (newestStartSeconds spec timestamp) k start ↔
      start.micros = (timestamp.micros / spec.slide - k) * spec.slide ∧ start ≤ timestamp ∧
        timestamp.micros < start.micros + spec.size := by
  rw [Steps, precise.step]

/-- Without rounding up, the windows assigned are those that contain the timestamp. -/
theorem mem_windowsContaining {spec : WindowSpec} {timestamp : Instant} {starts : List Instant}
    (precise : spec.AssignsExactly timestamp)
    (returned : windowsContaining spec timestamp = .ok starts) (start : Instant) :
    start ∈ starts ↔ spec.Contains start timestamp := by
  have multiples := Int.multiples_iff spec.slide_micros_pos (spec.sizeSeconds / spec.slideSeconds)
    timestamp.micros start.micros
  rw [← spec.size_eq] at multiples
  rw [(windowsContaining_ok returned).2]
  simp only [steps_of_precise precise]
  constructor
  · rintro ⟨k, fewer, aligned, _⟩
    exact multiples.mp ⟨k, fewer, aligned⟩
  · intro contains
    obtain ⟨k, fewer, aligned⟩ := multiples.mpr contains
    exact ⟨k, fewer, aligned, contains.2⟩

theorem containingStart_total {spec : WindowSpec} {timestamp : Instant} {newest : Int} {k : Nat}
    (lower : minMicros ≤ (newest - k * spec.slideSeconds) * microsPerSecond)
    (upper : (newest - k * spec.slideSeconds) * microsPerSecond ≤ timestamp.micros)
    (below : timestamp.micros + spec.size ≤ maxMicros) :
    ∃ starts, containingStart spec timestamp newest k = .ok starts := by
  have positive := spec.size_micros_pos
  have epochZero : Instant.epoch.micros = 0 := rfl
  obtain ⟨start, stepped, atStep⟩ := Instant.add_of_range Instant.epoch
    ((newest - k * spec.slideSeconds) * microsPerSecond) (by omega) (by omega)
  obtain ⟨windowEnd, added, _⟩ := Instant.add_of_range start spec.size (by omega) (by omega)
  have before : start ≤ timestamp := by
    rw [Instant.le_def]
    omega
  exact ⟨_, Except.bind_eq_ok.mpr ⟨start, stepped, by
    rw [if_pos before]
    exact Except.bind_eq_ok.mpr ⟨windowEnd, added, rfl⟩⟩⟩

theorem containingStarts_total {spec : WindowSpec} {timestamp : Instant} {newest : Int}
    {steps : List Nat}
    (each : ∀ k ∈ steps, ∃ starts, containingStart spec timestamp newest k = .ok starts) :
    ∃ starts, containingStarts spec timestamp newest steps = .ok starts := by
  induction steps with
  | nil => exact ⟨[], rfl⟩
  | cons k rest ih =>
      obtain ⟨here, first⟩ := each k (List.mem_cons_self ..)
      obtain ⟨later, others⟩ := ih fun other member => each other (List.mem_cons_of_mem _ member)
      exact ⟨here ++ later, Except.bind_eq_ok.mpr ⟨here, first,
        Except.bind_eq_ok.mpr ⟨later, others, rfl⟩⟩⟩

/-- With room for a window before and after it, a timestamp is assigned its windows. -/
theorem windowsContaining_total {spec : WindowSpec} {timestamp : Instant}
    (precise : spec.AssignsExactly timestamp)
    (above : minMicros + spec.size ≤ timestamp.micros)
    (below : timestamp.micros + spec.size ≤ maxMicros) :
    ∃ starts, windowsContaining spec timestamp = .ok starts := by
  have positive := spec.slide_micros_pos
  have newest : timestamp.micros / spec.slide * spec.slide ≤ timestamp.micros :=
    Int.ediv_mul_le _ positive.ne'
  have next : timestamp.micros < timestamp.micros / spec.slide * spec.slide + spec.slide := by
    have above := Int.lt_ediv_add_one_mul_self timestamp.micros positive
    rwa [Int.add_mul, Int.one_mul] at above
  have each : ∀ k ∈ List.range (spec.sizeSeconds / spec.slideSeconds), ∃ starts,
      containingStart spec timestamp (newestStartSeconds spec timestamp) k = .ok starts := by
    intro k member
    have fewer := List.mem_range.mp member
    have stepped := precise.step k
    have back : k * spec.slide + spec.slide ≤ spec.size := by
      have slides : ((k : Int) + 1) * spec.slide ≤ spec.size := by
        rw [spec.size_eq]
        exact Int.mul_le_mul_of_nonneg_right (by exact_mod_cast fewer) positive.le
      rwa [Int.add_mul, Int.one_mul] at slides
    have nonneg : 0 ≤ k * spec.slide := Int.mul_nonneg (Int.natCast_nonneg k) positive.le
    rw [Int.sub_mul (timestamp.micros / spec.slide)] at stepped
    exact containingStart_total (by omega) (by omega) below
  obtain ⟨starts, found⟩ := containingStarts_total each
  exact ⟨_, Except.bind_eq_ok.mpr ⟨starts, found, rfl⟩⟩

end WindowAggregator

end SignalForge
