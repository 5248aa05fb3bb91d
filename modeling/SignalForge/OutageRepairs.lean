import SignalForge.OutageViewAgreement
import SignalForge.ProducedEmissions

/-! Which emission of a store its outage state goes by: the newest window's, or the one that
arrived last. Repairs of older windows set the two apart. -/

set_option autoImplicit false

namespace SignalForge

namespace OutageDetector

open EmissionDetector (Running observeAll)

variable {ω : Type}

/-- The store's emission that arrived last. -/
def latest (storeId : String) (emissions : List (WindowEmission Nat)) :
    Option (WindowEmission Nat) :=
  (emissions.filter fun emission => emission.partitionKey = storeId).getLast?

/-- The emission is of an older window than the one held. -/
def Older (emission held : WindowEmission Nat) : Prop :=
  emission.windowStart.micros < held.windowStart.micros

instance (emission held : WindowEmission Nat) : Decidable (Older emission held) :=
  inferInstanceAs (Decidable (_ < _))

/-- The last emission of the store's newest window. -/
def newest (storeId : String) (emissions : List (WindowEmission Nat)) :
    Option (WindowEmission Nat) :=
  (emissions.filter fun emission => emission.partitionKey = storeId).foldl (fun held emission =>
    if held.any (fun held => Older emission held) then held else some emission) none

/-- The threshold test of an emission, with the count its store has registered. -/
def test (detector : OutageDetector ω) (registered : String → Nat) (emission : WindowEmission Nat) :
    Bool :=
  detector.verdict (registered emission.partitionKey) emission

/-- Whether the detector holds the store in outage after some emissions. -/
def inOutage (detector : OutageDetector ω) (rules : DetectionRules ω) (world : ω)
    (emissions : List (WindowEmission Nat)) (storeId : String) : Bool :=
  (observeAll (detector.observeEmission rules) emissions ⟨.empty, world⟩).2.state.contains storeId

/-- Each store has a constant and positive count of devices registered. -/
structure Constant (detector : OutageDetector ω) (registered : String → Nat) : Prop where
  looks_up : ∀ storeId world,
    (detector.registeredCountLookup storeId world).1 = .ok (some (registered storeId))
  positive : ∀ storeId, 0 < registered storeId

variable {detector : OutageDetector ω} {rules : DetectionRules ω} {registered : String → Nat}

theorem latest_concat (storeId : String) (emissions : List (WindowEmission Nat))
    (emission : WindowEmission Nat) :
    latest storeId (emissions ++ [emission]) =
      if emission.partitionKey = storeId then some emission else latest storeId emissions := by
  rw [latest, List.filter_append]
  split
  · rename_i here
    rw [List.filter_cons_of_pos (by simpa using here), List.filter_nil, List.getLast?_concat]
  · rename_i apart
    rw [List.filter_cons_of_neg (by simpa using apart), List.filter_nil, List.append_nil, latest]

theorem newest_concat (storeId : String) (emissions : List (WindowEmission Nat))
    (emission : WindowEmission Nat) :
    newest storeId (emissions ++ [emission]) =
      if emission.partitionKey = storeId ∧
          ¬ (newest storeId emissions).any (fun held => Older emission held) then some emission
      else newest storeId emissions := by
  rw [newest, List.filter_append, List.foldl_append, ← newest]
  by_cases here : emission.partitionKey = storeId
  · rw [List.filter_cons_of_pos (by simpa using here), List.filter_nil, List.foldl_cons,
      List.foldl_nil]
    split
    · rename_i older
      rw [if_neg fun both => both.2 older]
    · rename_i notOlder
      rw [if_pos ⟨here, notOlder⟩]
  · rw [List.filter_cons_of_neg (by simpa using here), List.filter_nil, List.foldl_nil,
      if_neg fun both => here both.1]

/-- One emission leaves its store as the test says, whether or not the detection is built. -/
theorem inOutage_concat (constant : Constant detector registered) (world : ω)
    (emissions : List (WindowEmission Nat)) (emission : WindowEmission Nat) (storeId : String) :
    inOutage detector rules world (emissions ++ [emission]) storeId =
      if storeId = emission.partitionKey then detector.test registered emission
      else inOutage detector rules world emissions storeId := by
  rw [inOutage, EmissionDetector.observeAll_concat,
    observe_counted rules (constant.looks_up _ _) (constant.positive _).ne',
    EmissionDetector.contains_transition]
  rfl

/-- The state goes by the emission that arrived last. -/
theorem inOutage_latest (constant : Constant detector registered) (world : ω)
    (emissions : List (WindowEmission Nat)) (storeId : String) :
    inOutage detector rules world emissions storeId =
      (latest storeId emissions).any (detector.test registered) := by
  induction emissions using List.reverseRecOn with
  | nil => rfl
  | append_singleton emissions emission ih =>
      rw [inOutage_concat constant, latest_concat, ih]
      by_cases here : emission.partitionKey = storeId
      · rw [if_pos here.symm, if_pos here, Option.any_some]
      · rw [if_neg fun same => here same.symm, if_neg here]

/-- After every emission the state goes by the emission that arrived last, repairs included; and it
goes by the newest window after every emission exactly when every emission of an older window has
the outcome of the newest one. -/
theorem outage_goes_by_latest {σ κ : Type} (constant : Constant detector registered) (world : ω)
    (aggregator : WindowAggregator σ κ Nat) (events : List (StreamEvent κ)) :
    (∀ before after, Windowing.produced aggregator events = before ++ after → ∀ storeId,
      inOutage detector rules world before storeId =
        (latest storeId before).any (detector.test registered)) ∧
    ((∀ before after, Windowing.produced aggregator events = before ++ after → ∀ storeId,
        inOutage detector rules world before storeId =
          (newest storeId before).any (detector.test registered)) ↔
      ∀ before emission after, Windowing.produced aggregator events = before ++ emission :: after →
        ∀ held, newest emission.partitionKey before = some held → Older emission held →
          detector.test registered emission = detector.test registered held) := by
  refine ⟨fun before _ _ storeId => inOutage_latest constant world before storeId, ?_, ?_⟩
  · intro tracks before emission after split held found older
    have next := tracks (before ++ [emission]) after (by
      rw [split, List.append_assoc]
      rfl) emission.partitionKey
    have behind : (newest emission.partitionKey before).any (fun held => Older emission held) := by
      rw [found, Option.any_some, decide_eq_true_eq]
      exact older
    rw [inOutage_concat constant, if_pos rfl, newest_concat, if_neg fun both => both.2 behind,
      found, Option.any_some] at next
    exact next
  · intro agree before
    induction before using List.reverseRecOn with
    | nil => exact fun _ _ _ => rfl
    | append_singleton before emission ih =>
        intro after split storeId
        rw [List.append_assoc, List.singleton_append] at split
        rw [inOutage_concat constant, newest_concat, ih (emission :: after) split]
        by_cases here : emission.partitionKey = storeId
        · subst here
          rw [if_pos rfl]
          split
          · rw [Option.any_some]
          · rename_i behind
            have behind := not_not.mp fun ahead => behind ⟨rfl, ahead⟩
            obtain ⟨held, found, older⟩ := (Option.any_eq_true _ _).mp behind
            rw [found, Option.any_some]
            exact agree before emission after split held found (of_decide_eq_true older)
        · rw [if_neg fun same => here same.symm, if_neg fun both => here both.1]

section Samples

open OfflineDetector (sampleRules sampleInstant)

/-- Devices counted in windows of a minute, events up to two minutes late tolerated. -/
def distinctDevices : WindowAggregator (Finset Nat) Nat Nat where
  spec := .perMinute
  aggregation := distinctCount .ok aggregationName
  latenessSeconds := 120

def sampleDetector : OutageDetector Unit where
  thresholdRatio := 1 / 2
  registeredCountLookup _ := pure (some 4)
  ratio_pos := one_half_pos
  ratio_lt_one := one_half_lt_one

theorem sampleDetector_constant : Constant sampleDetector fun _ => 4 where
  looks_up _ _ := rfl
  positive _ := by decide

def sampleEvent (device seconds : Nat) (day : seconds < 86400) : StreamEvent Nat where
  key := "store-1"
  timestamp := sampleInstant seconds day
  contribution := device
  traceId := none

/-- One device is heard in each of the first two minutes, of four; once both are closed, a second
one turns up late in the first. -/
def sampleEvents : List (StreamEvent Nat) :=
  [sampleEvent 1 10 (by decide), sampleEvent 1 70 (by decide), sampleEvent 1 240 (by decide),
    sampleEvent 2 20 (by decide)]

theorem outage_goes_by_latest_sample :
    let emissions := Windowing.produced distinctDevices sampleEvents
    emissions.map (fun emission => (emission.value, emission.isRepair)) =
      [(1, false), (1, false), (2, true)] ∧
    (∀ before after, emissions = before ++ after → ∀ storeId,
      inOutage sampleDetector sampleRules () before storeId =
        (latest storeId before).any (sampleDetector.test fun _ => 4)) ∧
    ((∀ before after, emissions = before ++ after → ∀ storeId,
        inOutage sampleDetector sampleRules () before storeId =
          (newest storeId before).any (sampleDetector.test fun _ => 4)) ↔
      ∀ before emission after, emissions = before ++ emission :: after →
        ∀ held, newest emission.partitionKey before = some held → Older emission held →
          sampleDetector.test (fun _ => 4) emission = sampleDetector.test (fun _ => 4) held) :=
  ⟨by decide +kernel, outage_goes_by_latest sampleDetector_constant () distinctDevices sampleEvents⟩

/-- The repair of the first minute clears the outage that the second one still supports. -/
theorem repair_clears_newer_outage :
    ∃ before after, Windowing.produced distinctDevices sampleEvents = before ++ after ∧
      inOutage sampleDetector sampleRules () before "store-1" = false ∧
      (newest "store-1" before).any (sampleDetector.test fun _ => 4) = true :=
  ⟨_, [], (List.append_nil _).symm, by decide +kernel, by decide +kernel⟩

end Samples

end OutageDetector

end SignalForge
