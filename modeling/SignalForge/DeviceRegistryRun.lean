import SignalForge.DeviceRegistry
import SignalForge.InverseDicts

/-! The device registry over a sequence of registrations. -/

set_option autoImplicit false

namespace SignalForge.DeviceRegistry

def registeredDeviceCount (registry : DeviceRegistry) : Nat := registry.deviceToStore.length

/-- A copy of the stores that have a device. -/
def knownStores (registry : DeviceRegistry) : Finset String := registry.storeToDevices.keys.toFinset

/-- The registrations of a sequence, one after the other. -/
def observeRegistrations : List RegistrationPayload → Call Raised DeviceRegistry Unit
  | [] => pure ()
  | payload :: rest => do
      observeRegistration payload
      observeRegistrations rest

/-- The store of the last registration of a device. -/
def lastStore (registrations : List RegistrationPayload) (deviceId : Uuid) : Option String :=
  (registrations.filter fun payload => payload.deviceId = deviceId).getLast?.map
    RegistrationPayload.storeId

theorem lastStore_cons (payload : RegistrationPayload) (rest : List RegistrationPayload)
    (deviceId : Uuid) :
    lastStore (payload :: rest) deviceId = (lastStore rest deviceId).or
      (if deviceId = payload.deviceId then some payload.storeId else none) := by
  unfold lastStore
  by_cases here : payload.deviceId = deviceId
  · rw [List.filter_cons_of_pos (by simpa using here), if_pos here.symm, List.getLast?_cons]
    cases (rest.filter fun other => other.deviceId = deviceId).getLast? <;> rfl
  · rw [List.filter_cons_of_neg (by simpa using here), if_neg fun same => here same.symm,
      Option.or_none]

theorem Consistent.inverse {registry : DeviceRegistry} (consistent : Consistent registry) :
    registry.deviceToStore.Inverse registry.storeToDevices := by
  intro deviceId storeId
  constructor
  · exact fun found => consistent.listed found
  · rintro ⟨devices, found, member⟩
    exact consistent.registered found member

theorem deviceCount_eq_card (registry : DeviceRegistry) (storeId : String) :
    registry.deviceCount storeId = (registry.storeToDevices.heldAt storeId).card := by
  rw [deviceCount, OrderedDict.heldAt]
  cases registry.storeToDevices.get? storeId <;> rfl

theorem Consistent.sum_deviceCount {registry : DeviceRegistry} (consistent : Consistent registry) :
    ∑ storeId ∈ registry.knownStores, registry.deviceCount storeId =
      registry.registeredDeviceCount := by
  rw [Finset.sum_congr rfl fun storeId _ => registry.deviceCount_eq_card storeId]
  exact consistent.inverse.sum_card_heldAt

theorem Consistent.disjoint {registry : DeviceRegistry} (consistent : Consistent registry)
    {storeId other : String} {devices others : Finset Uuid}
    (here : registry.storeToDevices.get? storeId = some devices)
    (there : registry.storeToDevices.get? other = some others) (apart : storeId ≠ other) :
    Disjoint devices others := by
  have separate := consistent.inverse.disjoint apart
  rwa [OrderedDict.heldAt, OrderedDict.heldAt, here, there] at separate

/-- No sequence of registrations raises; the mappings stay in agreement, and each device is where
its last registration put it. -/
theorem observeRegistrations_ok {registry : DeviceRegistry} (consistent : Consistent registry)
    (registrations : List RegistrationPayload) :
    ∃ after, observeRegistrations registrations registry = (.ok (), after) ∧ Consistent after ∧
      ∀ deviceId, after.storeFor deviceId =
        (lastStore registrations deviceId).or (registry.storeFor deviceId) := by
  induction registrations generalizing registry with
  | nil => exact ⟨registry, rfl, consistent, fun _ => rfl⟩
  | cons payload rest ih =>
      obtain ⟨between, first, kept, moved⟩ := observeRegistration_ok consistent payload
      obtain ⟨after, later, keptAfter, stores⟩ := ih kept
      refine ⟨after, ?_, keptAfter, ?_⟩
      · rw [observeRegistrations, Call.bind_of_ok first, later]
      · intro deviceId
        rw [stores, moved, lastStore_cons, Option.or_assoc]
        split <;> rfl

/-- After every sequence of registrations the two mappings are inverse to each other, the sets of
the stores partition the registered devices, and no set is empty. -/
theorem observeRegistrations_partition (registrations : List RegistrationPayload) :
    ∃ registry, observeRegistrations registrations empty = (.ok (), registry) ∧
      (∀ deviceId storeId, registry.storeFor deviceId = some storeId ↔
        ∃ devices, registry.storeToDevices.get? storeId = some devices ∧ deviceId ∈ devices) ∧
      (∀ storeId, registry.storeToDevices.get? storeId ≠ some ∅) ∧
      (∀ deviceId, registry.storeFor deviceId = lastStore registrations deviceId) ∧
      (∀ storeId other devices others, registry.storeToDevices.get? storeId = some devices →
        registry.storeToDevices.get? other = some others → storeId ≠ other →
          Disjoint devices others) ∧
      ∑ storeId ∈ registry.knownStores, registry.deviceCount storeId =
        registry.registeredDeviceCount := by
  obtain ⟨registry, returned, consistent, stores⟩ :=
    observeRegistrations_ok consistent_empty registrations
  refine ⟨registry, returned, consistent.inverse, ?_, ?_, ?_, consistent.sum_deviceCount⟩
  · exact fun storeId found => consistent.occupied found rfl
  · exact fun deviceId => (stores deviceId).trans Option.or_none
  · exact fun storeId other devices others here there apart =>
      consistent.disjoint here there apart

end SignalForge.DeviceRegistry
