import SignalForge.GlobalWatermark

/-! When a timestamp the manager rejects leaves its key as it was. -/

set_option autoImplicit false

namespace SignalForge

namespace WatermarkManager

/-- Nothing was written, and no call raises that would have returned. -/
structure LeavesAlone (manager after : WatermarkManager Datetime) (key : String) : Prop where
  state : after = manager
  observes : ∀ t, (observe key t).Returns manager → (observe key t).Returns after
  watermark : (∃ watermark, manager.watermarkFor key = .ok watermark) →
    ∃ watermark, after.watermarkFor key = .ok watermark
  global : (∃ least, manager.globalWatermark = .ok least) →
    ∃ least, after.globalWatermark = .ok least

/-- The call leaves the key alone where it raises. -/
def RejectsCleanly (manager : WatermarkManager Datetime) (key : String) (t : Datetime) : Prop :=
  ∀ reason after, observe key t manager = (.error reason, after) → manager.LeavesAlone after key

theorem leavesAlone_refl (manager : WatermarkManager Datetime) (key : String) :
    manager.LeavesAlone manager key := ⟨rfl, fun _ => id, id, id⟩

/-- The high is stored before its watermark is derived, so a timestamp later than the high and
without a watermark stays, and nothing else that is rejected does. -/
theorem rejectsCleanly_iff (manager : WatermarkManager Datetime) (key : String) (t : Datetime) :
    manager.RejectsCleanly key t ↔
      (key ≠ "" → manager.InReach (manager.highFor key) →
        t.micros ≤ (manager.highFor key).micros ∨ manager.InReach t) := by
  constructor
  · intro clean named reach
    by_contra outside
    rw [not_or, Int.not_le] at outside
    obtain ⟨later, unreached⟩ := outside
    obtain ⟨previous, before⟩ := deriveWatermark_returns.mpr reach
    have newHigh : Timestamp.later (manager.highFor key) t = t := if_pos later
    have leaves : (observe key t manager).2 = ⟨manager.latenessSeconds,
        manager.highEventTs.set key t⟩ := by
      rw [observe_leaves named before t, newHigh]
    rcases outcome : observe key t manager with ⟨reason | observation, after⟩
    · have same := (clean reason after outcome).state
      rw [outcome] at leaves
      have moved : manager.highFor key = t := by
        rw [← same, show after = _ from leaves, highFor, OrderedDict.get?_set_self,
          Option.getD_some]
      rw [moved] at later
      exact absurd later (Int.lt_irrefl _)
    · have observable := (observe_returns_iff named).mp ⟨observation, after, outcome⟩
      exact observable.2.elim (Int.not_le.mpr later) unreached
  · intro safe reason after raised
    by_cases nameless : key = ""
    · rw [nameless, observe_nameless] at raised
      cases raised
      exact leavesAlone_refl manager key
    by_cases reach : manager.InReach (manager.highFor key)
    · obtain ⟨observation, left, returned⟩ :=
        (observe_returns_iff nameless).mpr ⟨reach, safe nameless reach⟩
      rw [raised] at returned
      cases returned
    · rcases watermark : manager.watermarkFor key with cause | previous
      · rw [observe_raises nameless watermark] at raised
        cases raised
        exact leavesAlone_refl manager key
      · exact absurd (deriveWatermark_returns.mp ⟨previous, watermark⟩) reach

/-- A first timestamp within the lateness of `datetime.min` is rejected and stays: from then on
there is no global watermark. -/
theorem rejected_timestamp_poisons : ¬ ∀ latenessSeconds arrivals key t,
    ((fresh latenessSeconds).observeAll arrivals).RejectsCleanly key t := by
  intro clean
  obtain ⟨least, found⟩ := (clean 60 [] "store-1"
    (.utc ⟨minMicros + 1000000, by decide, by decide⟩) _ _ rfl).global ⟨_, rfl⟩
  cases found

end WatermarkManager

end SignalForge
