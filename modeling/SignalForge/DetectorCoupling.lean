import SignalForge.Coupling
import SignalForge.OfflineDetector

/-! Two offline detectors side by side, under clocks of their own: neither clock shows in what
they detect while both pass the check of the envelope. -/

set_option autoImplicit false

namespace SignalForge

variable {ω ω' π : Type}

/-- The rules differ in the clock alone, and no reading of either clock is so far behind the
moment that the envelope refuses it. -/
structure ClocksCoupled (worlds : ω → ω' → Prop) (moment : Datetime) (rules : DetectionRules ω)
    (others : DetectionRules ω') : Prop where
  sha1 : rules.sha1 = others.sha1
  parseUuid : rules.parseUuid = others.parseUuid
  formatReal : rules.formatReal = others.formatReal
  advanced : ∀ here there, worlds here there → worlds (rules.now here).2 (others.now there).2
  timely : ∀ here there, worlds here there →
    BaseEvent.checkClockSkew moment (rules.now here).1 = .ok () ∧
      BaseEvent.checkClockSkew moment (others.now there).1 = .ok ()

namespace Detections

variable {worlds : ω → ω' → Prop} {rules : DetectionRules ω} {others : DetectionRules ω'}
  {moment : Datetime}

theorem couples_makeDetection (clocks : ClocksCoupled worlds moment rules others)
    (payload : DetectionEventPayload) (trace : Except Raised (Option Uuid)) :
    Call.Couples worlds Eq (makeDetection rules payload moment trace)
      (makeDetection others payload moment trace) := by
  have eventId : detectionEventId rules = detectionEventId others := by
    funext detectionId
    rw [detectionEventId, detectionEventId, clocks.sha1]
  have read : Call.Couples worlds
      (fun one other => BaseEvent.checkClockSkew moment one = .ok () ∧
        BaseEvent.checkClockSkew moment other = .ok ())
      (Call.total rules.now : Call Raised ω Instant)
      (Call.total others.now : Call Raised ω' Instant) :=
    Call.couples_total fun here there related =>
      ⟨clocks.timely here there related, clocks.advanced here there related⟩
  rw [makeDetection, makeDetection, eventId]
  refine (Call.couples_lift (Call.matched_eq.mpr rfl)).bind fun _ _ _ => ?_
  refine (Call.couples_lift (Call.matched_eq.mpr rfl)).bind ?_
  rintro traceId _ rfl
  refine read.bind ?_
  rintro one other ⟨here, there⟩
  rw [here, there]
  exact (Call.couples_lift (Call.matched_eq.mpr rfl)).bind fun _ _ _ => Call.couples_pure rfl

end Detections

namespace OfflineDetector

/-- The detectors are configured alike, and their lookups match. -/
structure Coupled (worlds : ω → ω' → Prop) (detector : OfflineDetector ω π)
    (other : OfflineDetector ω' π) : Prop where
  thresholdSeconds : detector.thresholdSeconds = other.thresholdSeconds
  deviceIdExtractor : detector.deviceIdExtractor = other.deviceIdExtractor
  lookups : ∀ deviceId,
    Call.Couples worlds Eq (detector.storeLookup deviceId) (other.storeLookup deviceId)

/-- The detectors keep the same, in related worlds. -/
def RunningRelated (worlds : ω → ω' → Prop) (one : Running ω) (other : Running ω') : Prop :=
  one.detector = other.detector ∧ worlds one.world other.world

section

variable {worlds : ω → ω' → Prop} {detector : OfflineDetector ω π} {other : OfflineDetector ω' π}
  {rules : DetectionRules ω} {others : DetectionRules ω'} {event : TelemetryEvent π}

theorem couples_outside {α β : Type} {values : α → β → Prop} {call : Call Raised ω α}
    {another : Call Raised ω' β} (coupled : Call.Couples worlds values call another) :
    Call.Couples (RunningRelated worlds) values (outside call) (outside another) :=
  coupled.zoom (fun _ _ related => related.2) fun _ _ related _ _ after => ⟨related.1, after⟩

theorem couples_update (change : State → State) :
    Call.Couples (RunningRelated worlds) (fun _ _ => True) (update change : Call Raised _ Unit)
      (update change) :=
  Call.couples_write fun _ _ related => ⟨congrArg change related.1, related.2⟩

theorem couples_readDetector {α : Type} (view : State → α) :
    Call.Couples (RunningRelated worlds) Eq
      (Call.read fun running => view running.detector : Call Raised (Running ω) α)
      (Call.read fun running => view running.detector : Call Raised (Running ω') α) :=
  Call.couples_read fun _ _ related => congrArg view related.1

theorem Coupled.offlinePayload (coupled : Coupled worlds detector other)
    (sha1 : List UInt8 → BitVec 160) (deviceId : Uuid) (storeId : String) (silentFor : Int)
    (event : TelemetryEvent π) :
    detector.offlinePayload sha1 deviceId storeId silentFor event =
      other.offlinePayload sha1 deviceId storeId silentFor event := by
  rw [OfflineDetector.offlinePayload, OfflineDetector.offlinePayload, coupled.thresholdSeconds]

theorem couples_build (clocks : ClocksCoupled worlds event.eventTimestamp rules others)
    (payload : DetectionEventPayload) :
    Call.Couples (RunningRelated worlds) Eq (outside (build rules payload event))
      (outside (build others payload event)) :=
  couples_outside (Detections.couples_makeDetection clocks payload _)

theorem Coupled.recover (coupled : Coupled worlds detector other)
    (clocks : ClocksCoupled worlds event.eventTimestamp rules others) (deviceId : Uuid)
    (previous : Option DeviceState) :
    Call.Couples (RunningRelated worlds) Eq (recover detector rules deviceId previous event)
      (recover other others deviceId previous event) := by
  rw [OfflineDetector.recover, OfflineDetector.recover]
  split
  · refine (couples_outside (coupled.lookups deviceId)).bind ?_
    rintro store _ rfl
    cases registered store with
    | none => exact Call.couples_pure rfl
    | some storeId =>
        rw [clocks.sha1]
        refine (couples_build clocks _).bind ?_
        rintro detection _ rfl
        exact Call.couples_pure rfl
  · exact Call.couples_pure rfl

theorem Coupled.scanSilent (coupled : Coupled worlds detector other)
    (clocks : ClocksCoupled worlds event.eventTimestamp rules others) (deviceId : Uuid)
    (last : Datetime) :
    Call.Couples (RunningRelated worlds) Eq (scanSilent detector rules event deviceId last)
      (scanSilent other others event deviceId last) := by
  rw [OfflineDetector.scanSilent, OfflineDetector.scanSilent]
  refine (couples_outside (coupled.lookups deviceId)).bind ?_
  rintro store _ rfl
  cases registered store with
  | none => exact Call.couples_pure rfl
  | some storeId =>
      refine (couples_update _).bind fun _ _ _ => ?_
      simp only [clocks.sha1, coupled.offlinePayload]
      refine (couples_build clocks _).bind ?_
      rintro detection _ rfl
      exact Call.couples_pure rfl

theorem Coupled.scanDevice (coupled : Coupled worlds detector other)
    (clocks : ClocksCoupled worlds event.eventTimestamp rules others) (threshold : Int)
    (deviceId : Uuid) (last : Datetime) :
    Call.Couples (RunningRelated worlds) Eq
      (scanDevice detector rules threshold event deviceId last)
      (scanDevice other others threshold event deviceId last) := by
  rw [OfflineDetector.scanDevice, OfflineDetector.scanDevice]
  refine (couples_readDetector fun state => state.state.get? deviceId).bind ?_
  rintro state _ rfl
  match state with
  | none => exact Call.couples_raise _
  | some .offline => exact Call.couples_pure rfl
  | some .seen =>
      dsimp only
      split
      · exact Call.couples_pure rfl
      · exact coupled.scanSilent clocks deviceId last

theorem Coupled.scan (coupled : Coupled worlds detector other)
    (clocks : ClocksCoupled worlds event.eventTimestamp rules others) (threshold : Int)
    (known : List (Uuid × Datetime)) :
    Call.Couples (RunningRelated worlds) Eq (scan detector rules threshold event known)
      (scan other others threshold event known) := by
  induction known with
  | nil => exact Call.couples_pure rfl
  | cons entry rest ih =>
      rw [OfflineDetector.scan, OfflineDetector.scan]
      refine (coupled.scanDevice clocks threshold entry.1 entry.2).bind ?_
      rintro detected _ rfl
      refine ih.bind ?_
      rintro later _ rfl
      exact Call.couples_pure rfl

/-- The detectors return the same detections, or raise the same. -/
theorem Coupled.observeEvent (coupled : Coupled worlds detector other)
    (clocks : ClocksCoupled worlds event.eventTimestamp rules others) :
    Call.Couples (RunningRelated worlds) Eq (observeEvent detector rules event)
      (observeEvent other others event) := by
  rw [OfflineDetector.observeEvent, OfflineDetector.observeEvent, coupled.deviceIdExtractor]
  refine (Call.couples_lift (Call.matched_eq.mpr rfl)).bind ?_
  rintro extracted _ rfl
  cases extracted with
  | none => exact Call.couples_pure rfl
  | some deviceId =>
      dsimp only
      rw [observeDevice, observeDevice, coupled.thresholdSeconds]
      refine (couples_readDetector fun state => state.state.get? deviceId).bind ?_
      rintro previous _ rfl
      refine (couples_update _).bind fun _ _ _ => ?_
      refine (coupled.recover clocks deviceId previous).bind ?_
      rintro recovery _ rfl
      refine (Call.couples_lift (Call.matched_eq.mpr rfl)).bind ?_
      rintro threshold _ rfl
      refine (couples_readDetector fun state => state.lastSeen.entries).bind ?_
      rintro known _ rfl
      refine (coupled.scan clocks threshold known).bind ?_
      rintro detections _ rfl
      exact Call.couples_pure rfl

end

end OfflineDetector

end SignalForge
