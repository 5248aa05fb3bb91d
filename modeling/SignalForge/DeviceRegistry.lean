import Mathlib.Data.Finset.Card
import SignalForge.Call
import SignalForge.Datetime
import SignalForge.Identity
import SignalForge.OrderedDict

/-! The projection of registration events into the store of each device and the devices of each
store. -/

set_option autoImplicit false

namespace SignalForge

/-- The parts of a registration's payload the projection reads. -/
structure RegistrationPayload where
  deviceId : Uuid
  storeId : String
  deriving DecidableEq

structure DeviceRegistry where
  deviceToStore : OrderedDict Uuid String
  storeToDevices : OrderedDict String (Finset Uuid)
  deriving DecidableEq

namespace DeviceRegistry

def empty : DeviceRegistry := ⟨.empty, .empty⟩

def storeFor (registry : DeviceRegistry) (deviceId : Uuid) : Option String :=
  registry.deviceToStore.get? deviceId

def deviceCount (registry : DeviceRegistry) (storeId : String) : Nat :=
  match registry.storeToDevices.get? storeId with
  | none => 0
  | some devices => devices.card

/-- The devices that remain in a store; a store left with none is dropped. -/
def keepRemaining (storeId : String) (remaining : Finset Uuid)
    (storeToDevices : OrderedDict String (Finset Uuid)) : OrderedDict String (Finset Uuid) :=
  if remaining = ∅ then storeToDevices.erase storeId else storeToDevices.set storeId remaining

/-- The device taken from the store it was registered to. -/
def leave (deviceId : Uuid) (previousStore : String) : Call Raised DeviceRegistry Unit :=
  fun registry =>
    match registry.storeToDevices.get? previousStore with
    | none => (.error .keyError, registry)
    | some devices =>
        (.ok (), { registry with
          storeToDevices :=
            keepRemaining previousStore (devices.erase deviceId) registry.storeToDevices })

def join (payload : RegistrationPayload) (registry : DeviceRegistry) : DeviceRegistry where
  deviceToStore := registry.deviceToStore.set payload.deviceId payload.storeId
  storeToDevices := registry.storeToDevices.modify payload.storeId ∅ (insert payload.deviceId ·)

def observeRegistration (payload : RegistrationPayload) : Call Raised DeviceRegistry Unit := do
  let previous ← Call.read fun registry => registry.storeFor payload.deviceId
  if previous = some payload.storeId then pure ()
  else do
    match previous with
    | none => pure ()
    | some previousStore => leave payload.deviceId previousStore
    Call.write (join payload)

/-- The two mappings agree. -/
structure Consistent (registry : DeviceRegistry) : Prop where
  listed : ∀ {deviceId storeId}, registry.storeFor deviceId = some storeId →
    ∃ devices, registry.storeToDevices.get? storeId = some devices ∧ deviceId ∈ devices
  registered : ∀ {storeId devices deviceId}, registry.storeToDevices.get? storeId = some devices →
    deviceId ∈ devices → registry.storeFor deviceId = some storeId
  occupied : ∀ {storeId devices}, registry.storeToDevices.get? storeId = some devices → devices ≠ ∅

theorem consistent_empty : Consistent empty where
  listed found := by cases found
  registered found := by cases found
  occupied found := by cases found

theorem storeFor_join (payload : RegistrationPayload) (registry : DeviceRegistry)
    (deviceId : Uuid) :
    (join payload registry).storeFor deviceId =
      if deviceId = payload.deviceId then some payload.storeId else registry.storeFor deviceId :=
  OrderedDict.get?_set ..

theorem devices_join (payload : RegistrationPayload) (registry : DeviceRegistry) (storeId : String) :
    (join payload registry).storeToDevices.get? storeId =
      if storeId = payload.storeId then
        some (insert payload.deviceId ((registry.storeToDevices.get? payload.storeId).getD ∅))
      else registry.storeToDevices.get? storeId :=
  OrderedDict.get?_modify ..

/-- The device is in no store's set, and the mappings agree on the others. -/
structure Vacated (registry : DeviceRegistry) (deviceId : Uuid) : Prop where
  listed : ∀ {other storeId}, other ≠ deviceId → registry.storeFor other = some storeId →
    ∃ devices, registry.storeToDevices.get? storeId = some devices ∧ other ∈ devices
  registered : ∀ {storeId devices other}, registry.storeToDevices.get? storeId = some devices →
    other ∈ devices → other ≠ deviceId ∧ registry.storeFor other = some storeId
  occupied : ∀ {storeId devices}, registry.storeToDevices.get? storeId = some devices → devices ≠ ∅

theorem Consistent.vacated {registry : DeviceRegistry} (consistent : Consistent registry)
    {deviceId : Uuid} (unknown : registry.storeFor deviceId = none) : Vacated registry deviceId where
  listed _ found := consistent.listed found
  registered found member := by
    have known := consistent.registered found member
    refine ⟨?_, known⟩
    rintro rfl
    rw [unknown] at known
    cases known
  occupied found := consistent.occupied found

theorem leave_eq {registry : DeviceRegistry} (deviceId : Uuid) {previousStore : String}
    {devices : Finset Uuid} (found : registry.storeToDevices.get? previousStore = some devices) :
    ∃ after, leave deviceId previousStore registry = (.ok (), after) ∧
      after.deviceToStore = registry.deviceToStore ∧
      ∀ storeId, after.storeToDevices.get? storeId =
        if storeId = previousStore then
          if devices.erase deviceId = ∅ then none else some (devices.erase deviceId)
        else registry.storeToDevices.get? storeId := by
  refine ⟨{ registry with
    storeToDevices := keepRemaining previousStore (devices.erase deviceId) registry.storeToDevices },
    by rw [leave, found], rfl, ?_⟩
  intro storeId
  simp only [keepRemaining]
  split
  · rw [OrderedDict.get?_erase]
  · rw [OrderedDict.get?_set]

theorem Consistent.leave {registry : DeviceRegistry} (consistent : Consistent registry)
    {deviceId : Uuid} {previousStore : String}
    (known : registry.storeFor deviceId = some previousStore) :
    ∃ after, leave deviceId previousStore registry = (.ok (), after) ∧
      after.deviceToStore = registry.deviceToStore ∧ Vacated after deviceId := by
  obtain ⟨devices, found, member⟩ := consistent.listed known
  obtain ⟨after, returned, sameStores, left⟩ := leave_eq deviceId found
  have sameStore : ∀ other, after.storeFor other = registry.storeFor other :=
    fun other => congrArg (·.get? other) sameStores
  refine ⟨after, returned, sameStores, ?_, ?_, ?_⟩
  · intro other storeId apart registered
    rw [sameStore] at registered
    obtain ⟨held, heldAt, inHeld⟩ := consistent.listed registered
    rw [left]
    split
    · rename_i here
      rw [here, found] at heldAt
      cases heldAt
      have stays : other ∈ devices.erase deviceId := Finset.mem_erase.mpr ⟨apart, inHeld⟩
      rw [if_neg (Finset.ne_empty_of_mem stays)]
      exact ⟨_, rfl, stays⟩
    · exact ⟨held, heldAt, inHeld⟩
  · intro storeId held other heldAt inHeld
    rw [left] at heldAt
    rw [sameStore]
    split at heldAt
    · rename_i here
      split at heldAt
      · cases heldAt
      · cases heldAt
        obtain ⟨apart, before⟩ := Finset.mem_erase.mp inHeld
        exact ⟨apart, here ▸ consistent.registered found before⟩
    · rename_i elsewhere
      have registered := consistent.registered heldAt inHeld
      refine ⟨?_, registered⟩
      rintro rfl
      rw [known] at registered
      exact elsewhere (Option.some.inj registered).symm
  · intro storeId held heldAt
    rw [left] at heldAt
    split at heldAt
    · split at heldAt
      · cases heldAt
      · rename_i remaining
        cases heldAt
        exact remaining
    · exact consistent.occupied heldAt

theorem Vacated.join {registry : DeviceRegistry} {payload : RegistrationPayload}
    (vacated : Vacated registry payload.deviceId) : Consistent (join payload registry) where
  listed {deviceId storeId} found := by
    rw [storeFor_join] at found
    rw [devices_join]
    split at found
    · rename_i same
      cases found
      rw [if_pos rfl, same]
      exact ⟨_, rfl, Finset.mem_insert_self ..⟩
    · rename_i apart
      obtain ⟨devices, heldAt, inHeld⟩ := vacated.listed apart found
      split
      · rename_i here
        rw [here] at heldAt
        rw [heldAt]
        exact ⟨_, rfl, Finset.mem_insert_of_mem inHeld⟩
      · exact ⟨devices, heldAt, inHeld⟩
  registered {storeId devices deviceId} heldAt inHeld := by
    rw [devices_join] at heldAt
    rw [storeFor_join]
    split at heldAt
    · rename_i here
      cases heldAt
      rcases Finset.mem_insert.mp inHeld with rfl | before
      · rw [if_pos rfl, here]
      · rcases found : registry.storeToDevices.get? payload.storeId with _ | held
        · rw [found] at before
          cases before
        · rw [found, Option.getD_some] at before
          obtain ⟨apart, known⟩ := vacated.registered found before
          rw [if_neg apart, known, here]
    · obtain ⟨apart, known⟩ := vacated.registered heldAt inHeld
      rw [if_neg apart, known]
  occupied {storeId devices} heldAt := by
    rw [devices_join] at heldAt
    split at heldAt
    · cases heldAt
      exact Finset.insert_ne_empty _ _
    · exact vacated.occupied heldAt

/-- A registration never raises, keeps the mappings in agreement and moves this device only. -/
theorem observeRegistration_ok {registry : DeviceRegistry} (consistent : Consistent registry)
    (payload : RegistrationPayload) :
    ∃ after, observeRegistration payload registry = (.ok (), after) ∧ Consistent after ∧
      ∀ deviceId, after.storeFor deviceId =
        if deviceId = payload.deviceId then some payload.storeId
        else registry.storeFor deviceId := by
  rw [observeRegistration, Call.bind_of_ok (Call.read_apply ..)]
  by_cases same : registry.storeFor payload.deviceId = some payload.storeId
  · rw [if_pos same]
    refine ⟨registry, rfl, consistent, ?_⟩
    intro deviceId
    split
    · rename_i here
      rw [here, same]
    · rfl
  · rw [if_neg same]
    cases known : registry.storeFor payload.deviceId with
    | none =>
        exact ⟨join payload registry, rfl, (consistent.vacated known).join,
          storeFor_join payload registry⟩
    | some previousStore =>
        obtain ⟨after, returned, sameStores, vacated⟩ := consistent.leave known
        refine ⟨DeviceRegistry.join payload after, ?_, vacated.join, ?_⟩
        · exact Call.bind_of_ok returned _
        · intro deviceId
          rw [storeFor_join, storeFor, sameStores]
          rfl

end DeviceRegistry

end SignalForge
