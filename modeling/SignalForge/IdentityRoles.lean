import SignalForge.EventNormaliser
import SignalForge.FeatureSnapshots
import SignalForge.OfflineDetector
import SignalForge.TextSplitting

/-! Whether the ids derived across the platform tell what they are derived from: the role, and its
coordinates. -/

set_option autoImplicit false

namespace SignalForge

abbrev StoreId : Type := { text : Str // Text.isIdentifier text = true }

namespace AlertRouter

/-- `derive("alert", str(detection_id))`. -/
def alertId (sha1 : List UInt8 → BitVec 160) (detectionId : Uuid) : Uuid :=
  Identity.derive sha1 "alert" [detectionId.text]

/-- `derive("event.alert", str(alert_id))`. -/
def eventId (sha1 : List UInt8 → BitVec 160) (alertId : Uuid) : Uuid :=
  Identity.derive sha1 "event.alert" [alertId.text]

end AlertRouter

/-- What an id is derived for. -/
inductive IdentityRole where
  | device
  | sipRegistration
  | deviceOffline
  | deviceOnline
  | storeOutage
  | storeOutageSource
  | storeRecovered
  | storeRecoveredSource
  | signalAnomaly
  | signalAnomalySource
  | detectionEvent
  | featureEvent
  | alert
  | alertEvent
  deriving DecidableEq

namespace IdentityRole

def name : IdentityRole → String
  | device => "device"
  | sipRegistration => "event.sip_registration"
  | deviceOffline => "detection.device_offline"
  | deviceOnline => "detection.device_online"
  | storeOutage => "detection.store_outage"
  | storeOutageSource => "source.store_outage"
  | storeRecovered => "detection.store_recovered"
  | storeRecoveredSource => "source.store_recovered"
  | signalAnomaly => "detection.signal_anomaly"
  | signalAnomalySource => "source.signal_anomaly"
  | detectionEvent => "event.detection"
  | featureEvent => "event.feature"
  | alert => "alert"
  | alertEvent => "event.alert"

/-- A store and a label; a device, an instant and a Call-ID; a store, a device and an event; a
store and a window, with a signal or without; or one other id. -/
def Coordinates : IdentityRole → Type
  | device => StoreId × Str
  | sipRegistration => Uuid × Instant × Option Str
  | deviceOffline | deviceOnline => StoreId × Uuid × Uuid
  | storeOutage | storeOutageSource | storeRecovered | storeRecoveredSource | featureEvent =>
      StoreId × Instant × Instant
  | signalAnomaly | signalAnomalySource => StoreId × Str × Instant × Instant
  | detectionEvent | alert | alertEvent => Uuid

def str (instant : Instant) : Str := (Datetime.utc instant).str.toList

/-- The coordinates as they are joined. -/
def parts : (role : IdentityRole) → role.Coordinates → List Str
  | device, (store, label) => [store.val, label]
  | sipRegistration, (deviceId, observedAt, callId) =>
      [deviceId.text, ((Datetime.utc observedAt).isoformat "T").toList, callId.getD "None".toList]
  | deviceOffline, (store, deviceId, eventId) => [store.val, deviceId.text, eventId.text]
  | deviceOnline, (store, deviceId, eventId) => [store.val, deviceId.text, eventId.text]
  | storeOutage, (store, starts, ends) => [store.val, str starts, str ends]
  | storeOutageSource, (store, starts, ends) => [store.val, str starts, str ends]
  | storeRecovered, (store, starts, ends) => [store.val, str starts, str ends]
  | storeRecoveredSource, (store, starts, ends) => [store.val, str starts, str ends]
  | signalAnomaly, (store, signal, starts, ends) => [store.val, signal, str starts, str ends]
  | signalAnomalySource, (store, signal, starts, ends) => [store.val, signal, str starts, str ends]
  | detectionEvent, detectionId => [Uuid.text detectionId]
  | featureEvent, (store, starts, ends) =>
      [store.val, str starts, str ends, FeatureBundling.featureSchemaVersion.toList]
  | alert, detectionId => [Uuid.text detectionId]
  | alertEvent, alertId => [Uuid.text alertId]

end IdentityRole

/-- A call of `derive`. -/
structure Derivation where
  role : IdentityRole
  coordinates : role.Coordinates

namespace Derivation

def name (derivation : Derivation) : Str :=
  Identity.nameOf derivation.role.name (derivation.role.parts derivation.coordinates)

def id (derivation : Derivation) (sha1 : List UInt8 → BitVec 160) : Uuid :=
  Identity.derive sha1 derivation.role.name (derivation.role.parts derivation.coordinates)

/-- Registrations of one device at one instant, the first without a Call-ID and the second with the
Call-ID `None`. -/
def Confused (first second : Derivation) : Prop :=
  ∃ deviceId observedAt, first = ⟨.sipRegistration, deviceId, observedAt, none⟩ ∧
    second = ⟨.sipRegistration, deviceId, observedAt, some "None".toList⟩

end Derivation

namespace IdentityRole

def all : List IdentityRole :=
  [device, sipRegistration, deviceOffline, deviceOnline, storeOutage, storeOutageSource,
    storeRecovered, storeRecoveredSource, signalAnomaly, signalAnomalySource, detectionEvent,
    featureEvent, alert, alertEvent]

theorem mem_all (role : IdentityRole) : role ∈ all := by cases role <;> decide

theorem name_injective : Function.Injective name := by
  intro role other same
  have distinct : (all.map name).Nodup := by decide
  exact List.inj_on_of_nodup_map distinct role.mem_all other.mem_all same

theorem bar_not_mem_name (role : IdentityRole) : '|' ∉ role.name.toList := by
  cases role <;> decide

theorem bar_not_mem_store (store : StoreId) : '|' ∉ store.val :=
  Text.not_mem_identifier store.property (by decide) (by decide)

theorem bar_not_mem_uuid (id : Uuid) : '|' ∉ id.text := by
  intro member
  have noDigit : ∀ digit < 16, '|' ≠ Nat.digitChar digit := by decide
  rcases Uuid.mem_text member with dash | ⟨digit, hexadecimal, same⟩
  · exact absurd dash (by decide)
  · exact noDigit digit hexadecimal same

theorem bar_not_mem_isoformat (instant : Instant) :
    '|' ∉ ((Datetime.utc instant).isoformat "T").toList :=
  Datetime.not_mem_isoformat_utc (show '|'.isDigit = false by decide) (show '|' ≠ 'T' by decide)
    (by decide) instant

theorem str_injective : Function.Injective str := fun _ _ same =>
  Datetime.str_utc_injective (String.toList_inj.mp same)

theorem isoformat_injective {left right : Instant}
    (same : ((Datetime.utc left).isoformat "T").toList = ((Datetime.utc right).isoformat "T").toList) :
    left = right :=
  Datetime.isoformat_utc_injective (show 'T'.isDigit = false by decide) (String.toList_inj.mp same)

theorem bar_not_mem_str (instant : Instant) : '|' ∉ str instant := Identity.bar_not_mem_str instant

section

variable {store store' : StoreId} {free free' : Str} {starts starts' ends ends' : Instant}

/-- A store and any text. -/
theorem store_tells (same : ['|'].intercalate [store.val, free] =
    ['|'].intercalate [store'.val, free']) : store = store' ∧ free = free' := by
  obtain ⟨stores, texts⟩ :=
    Text.joined_pair (bar_not_mem_store store) (bar_not_mem_store store') same
  exact ⟨Subtype.ext stores, texts⟩

/-- A store, a device and an event. -/
theorem device_tells {deviceId deviceId' eventId eventId' : Uuid}
    (same : ['|'].intercalate [store.val, deviceId.text, eventId.text] =
      ['|'].intercalate [store'.val, deviceId'.text, eventId'.text]) :
    store = store' ∧ deviceId = deviceId' ∧ eventId = eventId' := by
  obtain ⟨stores, devices, events⟩ := Text.joined_triple (bar_not_mem_store store)
    (bar_not_mem_store store') (bar_not_mem_uuid deviceId) (bar_not_mem_uuid deviceId') same
  exact ⟨Subtype.ext stores, Uuid.text_injective devices, Uuid.text_injective events⟩

/-- A store and a window. -/
theorem window_tells (same : ['|'].intercalate [store.val, str starts, str ends] =
    ['|'].intercalate [store'.val, str starts', str ends']) :
    store = store' ∧ starts = starts' ∧ ends = ends' := by
  obtain ⟨stores, begins, finishes⟩ := Text.joined_triple (bar_not_mem_store store)
    (bar_not_mem_store store') (bar_not_mem_str starts) (bar_not_mem_str starts') same
  exact ⟨Subtype.ext stores, str_injective begins, str_injective finishes⟩

/-- A store, any text and a window. -/
theorem signal_tells (same : ['|'].intercalate [store.val, free, str starts, str ends] =
    ['|'].intercalate [store'.val, free', str starts', str ends']) :
    store = store' ∧ free = free' ∧ starts = starts' ∧ ends = ends' := by
  obtain ⟨stores, texts, begins, finishes⟩ := Text.joined_inside (bar_not_mem_store store)
    (bar_not_mem_store store') (bar_not_mem_str starts) (bar_not_mem_str starts')
    (bar_not_mem_str ends) (bar_not_mem_str ends') same
  exact ⟨Subtype.ext stores, texts, str_injective begins, str_injective finishes⟩

/-- A device, an instant and any text. -/
theorem registration_tells {deviceId deviceId' : Uuid}
    (same : ['|'].intercalate [deviceId.text, ((Datetime.utc starts).isoformat "T").toList, free] =
      ['|'].intercalate
        [deviceId'.text, ((Datetime.utc starts').isoformat "T").toList, free']) :
    deviceId = deviceId' ∧ starts = starts' ∧ free = free' := by
  obtain ⟨devices, instants, texts⟩ := Text.joined_triple (bar_not_mem_uuid deviceId)
    (bar_not_mem_uuid deviceId') (bar_not_mem_isoformat starts) (bar_not_mem_isoformat starts') same
  exact ⟨Uuid.text_injective devices, isoformat_injective instants, texts⟩

end

end IdentityRole

namespace Derivation

open IdentityRole

/-- An absent Call-ID is written as one that reads `None`. -/
theorem callId_tells {deviceId : Uuid} {observedAt : Instant} {left right : Option Str}
    (same : left.getD "None".toList = right.getD "None".toList) :
    left = right ∨ Confused ⟨.sipRegistration, deviceId, observedAt, left⟩
        ⟨.sipRegistration, deviceId, observedAt, right⟩ ∨
      Confused ⟨.sipRegistration, deviceId, observedAt, right⟩
        ⟨.sipRegistration, deviceId, observedAt, left⟩ := by
  rcases left with _ | left
  · rcases right with _ | right
    · exact Or.inl rfl
    · cases same
      exact Or.inr (Or.inl ⟨deviceId, observedAt, rfl, rfl⟩)
  · rcases right with _ | right
    · cases same
      exact Or.inr (Or.inr ⟨deviceId, observedAt, rfl, rfl⟩)
    · exact Or.inl (congrArg some same)

/-- Within one role the joined coordinates tell them, but for the Call-ID. -/
theorem coordinates_tell {role : IdentityRole} {left right : role.Coordinates}
    (same : ['|'].intercalate (role.parts left) = ['|'].intercalate (role.parts right)) :
    left = right ∨ Confused ⟨role, left⟩ ⟨role, right⟩ ∨ Confused ⟨role, right⟩ ⟨role, left⟩ := by
  cases role with
  | device =>
      obtain ⟨store, label⟩ := left
      obtain ⟨otherStore, otherLabel⟩ := right
      obtain ⟨rfl, rfl⟩ := store_tells same
      exact Or.inl rfl
  | sipRegistration =>
      obtain ⟨deviceId, observedAt, callId⟩ := left
      obtain ⟨otherId, otherAt, otherCallId⟩ := right
      obtain ⟨rfl, rfl, callIds⟩ := registration_tells same
      rcases callId_tells callIds with rfl | confused
      · exact Or.inl rfl
      · exact Or.inr confused
  | deviceOffline | deviceOnline =>
      obtain ⟨store, deviceId, eventId⟩ := left
      obtain ⟨otherStore, otherId, otherEvent⟩ := right
      obtain ⟨rfl, rfl, rfl⟩ := device_tells same
      exact Or.inl rfl
  | storeOutage | storeOutageSource | storeRecovered | storeRecoveredSource =>
      obtain ⟨store, starts, ends⟩ := left
      obtain ⟨otherStore, otherStarts, otherEnds⟩ := right
      obtain ⟨rfl, rfl, rfl⟩ := window_tells same
      exact Or.inl rfl
  | signalAnomaly | signalAnomalySource =>
      obtain ⟨store, signal, starts, ends⟩ := left
      obtain ⟨otherStore, otherSignal, otherStarts, otherEnds⟩ := right
      obtain ⟨rfl, rfl, rfl, rfl⟩ := signal_tells same
      exact Or.inl rfl
  | featureEvent =>
      obtain ⟨store, starts, ends⟩ := left
      obtain ⟨otherStore, otherStarts, otherEnds⟩ := right
      obtain ⟨stores, begins, finishes, _⟩ := Text.joined_inside (bar_not_mem_store store)
        (bar_not_mem_store otherStore) (bar_not_mem_str ends) (bar_not_mem_str otherEnds)
        (by decide) (by decide) same
      rw [Subtype.ext stores, str_injective begins, str_injective finishes]
      exact Or.inl rfl
  | detectionEvent | alert | alertEvent =>
      simp only [parts, List.intercalate_singleton] at same
      exact Or.inl (Uuid.text_injective same)

theorem name_eq (derivation : Derivation) :
    derivation.name = derivation.role.name.toList ++
      '|' :: ['|'].intercalate (derivation.role.parts derivation.coordinates) := by
  have some : derivation.role.parts derivation.coordinates ≠ [] := by
    obtain ⟨role, coordinates⟩ := derivation
    cases role <;> exact List.cons_ne_nil _ _
  rw [name, Identity.nameOf, List.intercalate_cons_of_ne_nil some, List.append_assoc,
    List.singleton_append]

theorem Confused.name_eq {first second : Derivation} (confused : Confused first second) :
    first.name = second.name := by
  obtain ⟨deviceId, observedAt, rfl, rfl⟩ := confused
  rfl

theorem Confused.ne {first second : Derivation} (confused : Confused first second) :
    first ≠ second := by
  obtain ⟨deviceId, observedAt, rfl, rfl⟩ := confused
  intro same
  cases same

/-- Two names are equal where the calls are, or differ in the Call-ID as said. -/
theorem eq_of_name_eq {first second : Derivation} (same : first.name = second.name) :
    first = second ∨ Confused first second ∨ Confused second first := by
  rw [name_eq, name_eq] at same
  obtain ⟨roles, joined⟩ := Text.split_first first.role.bar_not_mem_name
    second.role.bar_not_mem_name same
  obtain ⟨role, left⟩ := first
  obtain ⟨other, right⟩ := second
  obtain rfl : role = other := name_injective (String.toList_inj.mp roles)
  rcases coordinates_tell joined with rfl | confused
  · exact Or.inl rfl
  · exact Or.inr confused

/-- Two calls give one id only for one role and equal coordinates, unless they are registrations of
one device at one instant, one without a Call-ID and one with the Call-ID `None`. -/
theorem id_tells_iff (sha1 : List UInt8 → BitVec 160) (first second : Derivation)
    (collisionFree : Identity.CollisionFree sha1 [first.name, second.name]) :
    (first.id sha1 = second.id sha1 → first = second) ↔
      ¬ (Confused first second ∨ Confused second first) := by
  have ids : first.id sha1 = second.id sha1 ↔ first.name = second.name :=
    collisionFree.derive_eq_iff List.mem_cons_self (List.mem_cons_of_mem _ List.mem_cons_self)
  rw [ids]
  constructor
  · rintro tells (confused | confused)
    · exact confused.ne (tells confused.name_eq)
    · exact confused.ne (tells confused.name_eq.symm).symm
  · intro apart same
    exact (eq_of_name_eq same).resolve_right apart

/-- A device of a store. -/
def sampleDevice (label : String) : Derivation :=
  ⟨.device, ⟨"store-1".toList, Eq.refl true⟩, label.toList⟩

theorem id_tells_iff_sample :
    ((sampleDevice "till-1").id Sha1.digest = (sampleDevice "till-2").id Sha1.digest →
        sampleDevice "till-1" = sampleDevice "till-2") ↔
      ¬ (Confused (sampleDevice "till-1") (sampleDevice "till-2") ∨
        Confused (sampleDevice "till-2") (sampleDevice "till-1")) := by
  have apart : (sampleDevice "till-1").id Sha1.digest ≠ (sampleDevice "till-2").id Sha1.digest := by
    decide +kernel
  refine id_tells_iff Sha1.digest _ _ ?_
  intro left member right other same
  rw [List.mem_pair] at member other
  rcases member with rfl | rfl <;> rcases other with rfl | rfl
  · rfl
  · exact absurd same apart
  · exact absurd same.symm apart
  · rfl

/-- A registration without a Call-ID has the id of one whose Call-ID reads `None`. -/
theorem absent_callId_confused :
    ¬ ∀ (sha1 : List UInt8 → BitVec 160) (first second : Derivation),
      Identity.CollisionFree sha1 [first.name, second.name] →
        first.id sha1 = second.id sha1 → first = second := by
  intro tells
  have confused : Confused ⟨.sipRegistration, 1#128, .epoch, none⟩
      ⟨.sipRegistration, 1#128, .epoch, some "None".toList⟩ := ⟨1#128, .epoch, rfl, rfl⟩
  have ids : id ⟨.sipRegistration, 1#128, .epoch, none⟩ Sha1.digest =
      id ⟨.sipRegistration, 1#128, .epoch, some "None".toList⟩ Sha1.digest :=
    congrArg (Uuid.uuid5 Sha1.digest (Identity.rootNamespace Sha1.digest)) confused.name_eq
  refine confused.ne (tells Sha1.digest _ _ ?_ ids)
  intro left member right other _
  rw [confused.name_eq, List.mem_pair, or_self] at member other
  rw [member, other]

section Calls

variable {ω π ρ : Type}

theorem deviceId_eq (sha1 : List UInt8 → BitVec 160) (store : StoreId) (label : Str) :
    Identity.deriveDeviceId sha1 store.val label = id ⟨.device, store, label⟩ sha1 := rfl

theorem registrationId_eq (rules : ParserRules ω) (payload : SipRegistrationPayload)
    {observedAt : Instant} (utc : payload.observedAt = .utc observedAt) :
    EventNormaliser.deriveEventId rules payload =
      id ⟨.sipRegistration, payload.deviceId, observedAt, payload.registrationCallId⟩ rules.sha1 := by
  rw [EventNormaliser.deriveEventId, utc]
  rfl

theorem offlineId_eq (detector : OfflineDetector ω π) (sha1 : List UInt8 → BitVec 160)
    (deviceId : Uuid) {storeId : String} (valid : Text.isIdentifier storeId.toList = true)
    (silentFor : Int) (event : TelemetryEvent π) :
    (detector.offlinePayload sha1 deviceId storeId silentFor event).detectionId =
        id ⟨.deviceOffline, ⟨storeId.toList, valid⟩, deviceId, event.eventId⟩ sha1 ∧
      (OfflineDetector.onlinePayload sha1 deviceId storeId event).detectionId =
        id ⟨.deviceOnline, ⟨storeId.toList, valid⟩, deviceId, event.eventId⟩ sha1 := ⟨rfl, rfl⟩

section

variable {starts ends : Instant}

theorem outageIds_eq (detector : OutageDetector ω) (sha1 : List UInt8 → BitVec 160)
    (registered : Nat) {emission : WindowEmission Nat}
    (valid : Text.isIdentifier emission.partitionKey.toList = true)
    (begins : emission.windowStart = .utc starts) (finishes : emission.windowEnd = .utc ends) :
    (detector.outagePayload sha1 registered emission).detectionId =
        id ⟨.storeOutage, ⟨emission.partitionKey.toList, valid⟩, starts, ends⟩ sha1 ∧
      (detector.outagePayload sha1 registered emission).sourceEventId =
        id ⟨.storeOutageSource, ⟨emission.partitionKey.toList, valid⟩, starts, ends⟩ sha1 ∧
      (detector.recoveredPayload sha1 registered emission).detectionId =
        id ⟨.storeRecovered, ⟨emission.partitionKey.toList, valid⟩, starts, ends⟩ sha1 ∧
      (detector.recoveredPayload sha1 registered emission).sourceEventId =
        id ⟨.storeRecoveredSource, ⟨emission.partitionKey.toList, valid⟩, starts, ends⟩ sha1 := by
  simp only [OutageDetector.outagePayload, OutageDetector.recoveredPayload,
    OutageDetector.coordinates, begins, finishes]
  exact ⟨rfl, rfl, rfl, rfl⟩

theorem anomalyIds_eq (detector : AnomalyDetector ρ) (rules : DetectionRules ω) (value : Double)
    {emission : WindowEmission ρ} (valid : Text.isIdentifier emission.partitionKey.toList = true)
    (begins : emission.windowStart = .utc starts) (finishes : emission.windowEnd = .utc ends) :
    (detector.anomalyPayload rules value emission).detectionId =
        id ⟨.signalAnomaly, ⟨emission.partitionKey.toList, valid⟩, detector.signalName.toList, starts,
          ends⟩ rules.sha1 ∧
      (detector.anomalyPayload rules value emission).sourceEventId =
        id ⟨.signalAnomalySource, ⟨emission.partitionKey.toList, valid⟩, detector.signalName.toList,
          starts, ends⟩ rules.sha1 := by
  simp only [AnomalyDetector.anomalyPayload, AnomalyDetector.coordinates, begins, finishes]
  exact ⟨rfl, rfl⟩

theorem featureId_eq (sha1 : List UInt8 → BitVec 160) {emission : WindowEmission ρ}
    (valid : Text.isIdentifier emission.partitionKey.toList = true)
    (begins : emission.windowStart = .utc starts) (finishes : emission.windowEnd = .utc ends) :
    Uuid.uuid5 sha1 (Identity.rootNamespace sha1) (FeatureBundling.featureName emission).toList =
      id ⟨.featureEvent, ⟨emission.partitionKey.toList, valid⟩, starts, ends⟩ sha1 := by
  rw [id, Identity.derive]
  refine congrArg _ ?_
  simp [FeatureBundling.featureName, IdentityRole.name, IdentityRole.parts, IdentityRole.str, begins,
    finishes]

end

theorem detectionEventId_eq (rules : DetectionRules ω) (detectionId : Uuid) :
    Detections.detectionEventId rules detectionId = id ⟨.detectionEvent, detectionId⟩ rules.sha1 :=
  rfl

theorem alertIds_eq (sha1 : List UInt8 → BitVec 160) (detectionId : Uuid) :
    AlertRouter.alertId sha1 detectionId = id ⟨.alert, detectionId⟩ sha1 ∧
      AlertRouter.eventId sha1 (AlertRouter.alertId sha1 detectionId) =
        id ⟨.alertEvent, AlertRouter.alertId sha1 detectionId⟩ sha1 := ⟨rfl, rfl⟩

end Calls

end Derivation

end SignalForge
