import SignalForge.BatchRuns
import SignalForge.DetectorCoupling
import SignalForge.OfflineDetectionExactness
import SignalForge.PipelineCoupling
import SignalForge.ReplayIsolation

/-! A replay of archived events against the live run that first saw them: another clock, other
batches and the replay's settings, and still the same results. -/

set_option autoImplicit false

namespace SignalForge

variable {κ κ' ρ : Type}

/-- The same rules under another clock. -/
def DetectionRules.withClock (rules : DetectionRules κ) (now : κ' → Instant × κ') :
    DetectionRules κ' where
  sha1 := rules.sha1
  now := now
  parseUuid := rules.parseUuid
  formatReal := rules.formatReal

/-- A clock that is timely for a moment is timely for those before it. -/
theorem BaseEvent.checkClockSkew_mono {earlier latest : Datetime} {ingested : Instant}
    (notLater : earlier.micros ≤ latest.micros)
    (passes : BaseEvent.checkClockSkew latest ingested = .ok ()) :
    BaseEvent.checkClockSkew earlier ingested = .ok () := by
  rw [BaseEvent.checkClockSkew_eq_ok] at *
  exact ⟨passes.1, notLater.trans passes.2⟩

namespace ProductionPipeline

open OfflineDetector (RunningRelated)

variable {rules : DetectionRules κ} {now : κ' → Instant × κ'} {latest : Datetime}

/-- The same registry, and clocks that are not too far behind the moment from now on. -/
structure FleetsRelated (rules : DetectionRules κ) (now : κ' → Instant × κ') (latest : Datetime)
    (one : Fleet κ) (other : Fleet κ') : Prop where
  registry : one.registry = other.registry
  timely : rules.Timely one.clock latest
  otherTimely : (rules.withClock now).Timely other.clock latest

abbrev ComponentsRelated (rules : DetectionRules κ) (now : κ' → Instant × κ') (latest : Datetime) :
    Components κ → Components κ' → Prop :=
  RunningRelated (FleetsRelated rules now latest)

theorem clocksCoupled {moment : Datetime} (notLater : moment.micros ≤ latest.micros) :
    ClocksCoupled (FleetsRelated rules now latest) moment (Fleet.rules rules)
      (Fleet.rules (rules.withClock now)) where
  sha1 := rfl
  parseUuid := rfl
  formatReal := rfl
  advanced _ _ related := ⟨related.registry, related.timely.advance, related.otherTimely.advance⟩
  timely _ _ related := ⟨BaseEvent.checkClockSkew_mono notLater (related.timely 0),
    BaseEvent.checkClockSkew_mono notLater (related.otherTimely 0)⟩

theorem couples_observeRegistration (event : TelemetryEvent RegistrationPayload) :
    Call.Couples (ComponentsRelated rules now latest) (fun _ _ => True)
      (observeRegistration event) (observeRegistration event) := by
  have registering : Call.Couples (FleetsRelated rules now latest) Eq
      (Call.zoom Fleet.registry (fun fleet registry => { fleet with registry })
        (DeviceRegistry.observeRegistration event.payload))
      (Call.zoom Fleet.registry (fun fleet registry => { fleet with registry })
        (DeviceRegistry.observeRegistration event.payload)) := by
    intro here there related
    simp only [Call.zoom, related.registry]
    exact ⟨Call.matched_eq.mpr rfl, rfl, related.timely, related.otherTimely⟩
  exact (OfflineDetector.couples_outside registering).mono fun _ _ _ => trivial

theorem routerCoupled (digits : DecimalDigits) (admitted : TelemetryEvent RegistrationPayload → Prop) :
    EventRouter.Coupled (ComponentsRelated rules now latest) admitted (router digits)
      (router digits) where
  strict := rfl
  digits := rfl
  keys := rfl
  contains key := by
    simp only [OrderedDict.contains, router, EventRouter.register, OrderedDict.get?_modify,
      OrderedDict.get?_empty]
    split <;> [rfl; split <;> rfl]
  handlers key := by
    have matching : List.Forall₂ (fun one other => ∀ event, admitted event →
        Call.Couples (ComponentsRelated rules now latest) (fun _ _ => True) (one event) (other event))
        [observeRegistration] [observeRegistration] :=
      .cons (fun event _ => couples_observeRegistration event) .nil
    have apart : sipRegistration ≠ deviceRegistration := by decide
    simp only [router, EventRouter.register, OrderedDict.get?_modify, OrderedDict.get?_empty,
      apart, ↓reduceIte, Option.getD_none, List.nil_append]
    by_cases sip : key = sipRegistration
    · rw [if_pos sip, if_pos sip]
      exact matching
    · rw [if_neg sip, if_neg sip]
      by_cases device : key = deviceRegistration
      · rw [if_pos device, if_pos device]
        exact matching
      · rw [if_neg device, if_neg device]
        exact .nil

theorem detectorsCoupled (settings : PlatformSettings) :
    OfflineDetector.Coupled (FleetsRelated rules now latest) (offlineDetector settings)
      (offlineDetector settings) where
  thresholdSeconds := rfl
  deviceIdExtractor := rfl
  lookups _ := Call.couples_read fun _ _ related => by rw [related.registry]

/-- The pipelines built over two clocks match on the events no later than the moment. -/
theorem coupled_build (settings : PlatformSettings) (features : FeatureRules (Components κ) ρ)
    (otherFeatures : FeatureRules (Components κ') ρ) (digits : DecimalDigits) :
    RealtimePipeline.Coupled (ComponentsRelated rules now latest) Eq
      (fun event => event.eventTimestamp.micros ≤ latest.micros) (fun _ => False) (fun _ => True)
      (build settings rules features digits)
      (build settings (rules.withClock now) otherFeatures digits) where
  extracts _ := by
    refine Call.Couples.guarded ?_ false rfl
    refine (Call.couples_pure rfl).bind ?_
    rintro partitionKey _ rfl
    split
    · exact Call.couples_raise _
    · exact Call.couples_pure rfl
  aggregates _ _ _ := RealtimePipeline.couples_collect false .nil
  dispatches notLater := (routerCoupled digits
    fun event => event.eventTimestamp.micros ≤ latest.micros).dispatch notLater
  detects {event emissions} notLater none := by
    obtain rfl : emissions = [] := List.eq_nil_iff_forall_not_mem.mpr none
    have clocks : ClocksCoupled (FleetsRelated rules now latest) _ _ _ := clocksCoupled notLater
    have observed := ((detectorsCoupled settings).observeEvent clocks).mono
      fun one other (same : one = other) =>
        (⟨same, fun _ _ => trivial⟩ : SameItems (fun _ => True) one other)
    have nothing : Call.Couples (ComponentsRelated rules now latest)
        (SameItems fun _ : DetectionEvent => True) (RealtimePipeline.collect false [])
        (RealtimePipeline.collect false []) := RealtimePipeline.couples_collect false .nil
    refine (RealtimePipeline.couples_collect false (.cons observed .nil)).bind ?_
    rintro fromEvent _ fromEvents
    refine nothing.bind fun _ _ fromEmissions => ?_
    exact Call.couples_pure (fromEvents.append fromEmissions)
  routes _ := Call.couples_pure rfl
  bundles {emissions} none := by
    obtain rfl : emissions = [] := List.eq_nil_iff_forall_not_mem.mpr none
    exact Call.couples_pure rfl
  writes _ := Call.couples_pure trivial

/-- The builder, handed the settings of a deployment: the watermarks and the detector are checked
as they are made. -/
def builder (rules : DetectionRules κ) (features : FeatureRules (Components κ) ρ)
    (digits : DecimalDigits) (clock : κ) :
    Replay.PipelineBuilder (Components κ) RegistrationPayload ρ := fun settings =>
  if settings.lateEventToleranceSeconds < 0 then
    .error (.valueError "lateness_tolerance_seconds must be >= 0")
  else match timedeltaSeconds settings.lateEventToleranceSeconds with
    | .error reason => .error reason
    | .ok _ =>
        if positive : 0 < settings.offlineThresholdSeconds then
          let checked : PlatformSettings := ⟨settings.offlineThresholdSeconds,
            settings.lateEventToleranceSeconds.toNat, positive⟩
          .ok (build checked rules features digits, start checked clock)
        else .error (.valueError "threshold_seconds must be > 0")

/-- What the builder makes of settings it takes. -/
theorem builder_ok {features : FeatureRules (Components κ) ρ} {digits : DecimalDigits} {clock : κ}
    {settings : Config.PlatformSettings}
    {made : RealtimePipeline (Components κ) RegistrationPayload ρ ×
      RealtimePipeline.State (Components κ)}
    (built : builder rules features digits clock settings = .ok made) :
    ∃ checked, made = (build checked rules features digits, start checked clock) ∧
      ∀ {κ' : Type} (others : DetectionRules κ') (otherFeatures : FeatureRules (Components κ') ρ)
        (otherClock : κ') (replaySettings : Config.PlatformSettings),
        replaySettings.lateEventToleranceSeconds = settings.lateEventToleranceSeconds →
        replaySettings.offlineThresholdSeconds = settings.offlineThresholdSeconds →
        builder others otherFeatures digits otherClock replaySettings =
          .ok (build checked others otherFeatures digits, start checked otherClock) := by
  rw [builder] at built
  by_cases negative : settings.lateEventToleranceSeconds < 0
  · rw [if_pos negative] at built
    cases built
  · rw [if_neg negative] at built
    rcases lateness : timedeltaSeconds settings.lateEventToleranceSeconds with reason | micros
    · rw [lateness] at built
      cases built
    · rw [lateness] at built
      by_cases positive : 0 < settings.offlineThresholdSeconds
      · simp only [positive, ↓reduceDIte, Except.ok.injEq] at built
        refine ⟨_, built.symm, ?_⟩
        intro κ' others otherFeatures otherClock replaySettings sameLateness sameThreshold
        simp only [builder, sameLateness, sameThreshold, negative, ↓reduceIte, lateness, positive,
          ↓reduceDIte]
      · simp only [positive, ↓reduceDIte] at built
        cases built

/-- What the driver logs of a replay that returns. -/
def lineage (environment : String) (events : Nat) (results : List (ProcessingResult ρ)) :
    Replay.Lineage where
  environment := environment
  events := events
  results := results.length
  detections := (results.map fun result => result.detections.length).sum
  emissions := (results.map fun result => result.emissions.length).sum

/-- The driver with the pipeline a builder makes of the replay's settings. -/
theorem runReplay_eq {ω π : Type} {repr : String → String}
    {settings replaySettings : Config.PlatformSettings}
    (swapped : settings.forReplay repr "replay" = .ok replaySettings)
    {buildPipeline : Replay.PipelineBuilder ω π ρ} {pipeline : RealtimePipeline ω π ρ}
    {start : RealtimePipeline.State ω}
    (built : buildPipeline replaySettings = .ok (pipeline, start))
    (events : List (TelemetryEvent π)) :
    Replay.runReplay repr settings events buildPipeline =
      (pipeline.processBatch events start).1.map fun processed =>
        (processed.1, lineage replaySettings.environment events.length processed.1) := by
  have driven : Replay.runReplay repr settings events buildPipeline =
      Replay.runWith replaySettings events buildPipeline := by
    rw [Replay.runReplay, swapped]
    rfl
  rw [driven]
  rcases outcome : (pipeline.processBatch events start).1 with reason | processed <;>
    simp only [Replay.runWith, built, bind, Except.bind, outcome, Except.map, pure, Except.pure,
      lineage]

/-- A live run over batches of events, and a replay of all of them: as long as neither clock falls
behind the events by more than the skew allowed, the replay returns the live run's results, but for
the time of ingestion each detection is stamped with, or raises what it raised, whatever the batches
and the clocks. -/
theorem replay_reproduces {envRules : Config.EnvRules} {env : OrderedDict String String}
    {settings : Config.PlatformSettings}
    (accepted : Config.PlatformSettings.fromEnv envRules env = .ok settings)
    {features : FeatureRules (Components κ) ρ} {digits : DecimalDigits} {clock : κ}
    {pipeline : RealtimePipeline (Components κ) RegistrationPayload ρ}
    {start : RealtimePipeline.State (Components κ)}
    (built : builder rules features digits clock settings = .ok (pipeline, start))
    (otherFeatures : FeatureRules (Components κ') ρ) {otherClock : κ'}
    {batches : List (List (TelemetryEvent RegistrationPayload))}
    (bounded : ∀ event ∈ batches.flatten, event.eventTimestamp.micros ≤ latest.micros)
    (timely : rules.Timely clock latest)
    (otherTimely : (rules.withClock now).Timely otherClock latest) :
    Replay.runReplay envRules.repr settings batches.flatten
        (builder (rules.withClock now) otherFeatures digits otherClock) =
      (pipeline.processBatches batches start).1.map fun processed =>
        let results := (RealtimePipeline.joined processed).1
        (results, lineage "replay" batches.flatten.length results) := by
  obtain ⟨valid, _⟩ := Config.PlatformSettings.of_fromEnv accepted
  obtain ⟨checked, made, rebuilt⟩ := builder_ok built
  obtain ⟨rfl, rfl⟩ := Prod.mk.inj made
  have named : "replay" ≠ "" := by decide
  have swapped : settings.forReplay envRules.repr "replay" = .ok _ :=
    Config.PlatformSettings.forReplay_eq valid named
  have started : RealtimePipeline.StatesRelated (ComponentsRelated rules now latest)
      (ProductionPipeline.start checked clock) (ProductionPipeline.start checked otherClock) :=
    ⟨rfl, rfl, rfl, timely, otherTimely⟩
  have coupled := ((coupled_build checked features otherFeatures digits).processBatch rfl bounded
    _ _ started).1
  rw [RealtimePipeline.processBatch_flatten] at coupled
  rw [runReplay_eq swapped (rebuilt _ _ _ _ rfl rfl)]
  rcases live : RealtimePipeline.processBatches (build checked rules features digits) batches
    (ProductionPipeline.start checked clock) with ⟨reason | processed, after⟩
  · rw [Call.bind_of_error live] at coupled
    rcases replayed : (RealtimePipeline.processBatch
      (build checked (rules.withClock now) otherFeatures digits) batches.flatten
        (ProductionPipeline.start checked otherClock)).1 with otherReason | results
    · rw [replayed] at coupled
      cases coupled
      rfl
    · rw [replayed] at coupled
      exact coupled.elim
  · rw [Call.bind_of_ok live] at coupled
    rcases replayed : (RealtimePipeline.processBatch
      (build checked (rules.withClock now) otherFeatures digits) batches.flatten
        (ProductionPipeline.start checked otherClock)).1 with otherReason | results
    · rw [replayed] at coupled
      exact coupled.elim
    · rw [replayed] at coupled
      have same : (RealtimePipeline.joined processed).1 = results.1 :=
        List.forall₂_eq_eq_eq ▸ coupled.1.imp fun _ _ => RealtimePipeline.agree_eq.mp
      rw [Except.map, Except.map, same]

section Samples

open Deployment (sampleDeployment sampleRegistration)
open OfflineDetector (sampleRules sampleInstant secondOfDay_lt firstDevice secondDevice)
open Replay (sampleSettings sampleEnv_accepted)

/-- A clock that stands at the last second of the day. -/
def sampleNow (world : Unit) : Instant × Unit :=
  (sampleInstant (86399 % 86400) (secondOfDay_lt 86399), world)

/-- Two batches; the second device finds the first silent. -/
def sampleBatches : List (List (TelemetryEvent RegistrationPayload)) :=
  [[sampleRegistration 1 firstDevice 0], [sampleRegistration 2 secondDevice 400]]

def sampleMoment (seconds : Nat) : Datetime :=
  .utc (sampleInstant (seconds % 86400) (secondOfDay_lt seconds))

def sampleLatest : Datetime := sampleMoment 400

/-- A live run at noon and its replay at midnight. -/
theorem replay_reproduces_sample :
    ∃ pipeline start,
      builder sampleRules sampleDeployment.features sampleDeployment.digits ()
          (sampleSettings "sf-replay-dataset") = .ok (pipeline, start) ∧
        Replay.runReplay Replay.sampleRules.repr (sampleSettings "sf-replay-dataset")
            sampleBatches.flatten (builder (sampleRules.withClock sampleNow)
              sampleDeployment.features sampleDeployment.digits ()) =
          (pipeline.processBatches sampleBatches start).1.map fun processed =>
            let results := (RealtimePipeline.joined processed).1
            (results, lineage "replay" sampleBatches.flatten.length results) := by
  have live : BaseEvent.checkClockSkew sampleLatest (sampleRules.now ()).1 = .ok () := by decide
  have later : BaseEvent.checkClockSkew sampleLatest (sampleNow ()).1 = .ok () := by decide
  have timely : sampleRules.Timely () sampleLatest := fun _ => live
  have otherTimely : (sampleRules.withClock sampleNow).Timely () sampleLatest := fun _ => later
  refine ⟨_, _, rfl, replay_reproduces sampleEnv_accepted rfl _ ?_ timely otherTimely⟩
  decide

end Samples

end ProductionPipeline

end SignalForge
