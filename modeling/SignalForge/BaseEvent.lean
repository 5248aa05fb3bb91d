import SignalForge.Datetime

/-! What the envelope of every event checks. -/

set_option autoImplicit false

namespace SignalForge.BaseEvent

/-- `MAX_CLOCK_SKEW`, five minutes. -/
def maxClockSkew : Int := 300 * microsPerSecond

/-- The envelope's check of the event's timestamp against the ingest clock. -/
def checkClockSkew (eventTimestamp : Datetime) (ingested : Instant) : Except Raised Unit :=
  match ingested.add maxClockSkew with
  | .error reason => .error reason
  | .ok latest =>
      if latest.micros < eventTimestamp.micros then .error (.validationError [])
      else .ok ()

/-- The timestamp leads the clock by no more than the skew allowed, and the clock is not at
the end of time. -/
theorem checkClockSkew_eq_ok {eventTimestamp : Datetime} {ingested : Instant} :
    checkClockSkew eventTimestamp ingested = .ok () ↔
      ingested.micros + maxClockSkew ≤ maxMicros ∧
        eventTimestamp.micros ≤ ingested.micros + maxClockSkew := by
  rw [checkClockSkew]
  rcases added : ingested.add maxClockSkew with _ | latest
  · simp only [reduceCtorEq, false_iff, not_and]
    intro inRange
    have lower : minMicros ≤ ingested.micros + maxClockSkew := by
      have := ingested.min_le
      simp only [maxClockSkew, microsPerSecond]
      omega
    rw [Instant.add, Instant.ofMicros_of_range lower inRange] at added
    cases added
  · have same := Instant.add_eq_ok.mp added
    have upper := latest.le_max
    rw [same] at upper
    simp only [same]
    constructor
    · intro passes
      refine ⟨upper, ?_⟩
      by_contra ahead
      rw [if_pos (by omega)] at passes
      cases passes
    · rintro ⟨_, notAhead⟩
      rw [if_neg (by omega)]

end SignalForge.BaseEvent
