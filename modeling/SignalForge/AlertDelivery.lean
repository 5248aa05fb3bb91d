import Mathlib.Data.List.Basic
import SignalForge.EventBridgeAlertSink

/-! What a bus that refuses some of the entries put to it has accepted when a publication
returns. -/

set_option autoImplicit false

namespace SignalForge

namespace EventBridgeAlertSink

/-- What the bus answers: an error code for each entry refused, by the number of calls before and
the entry's place in its call; `none` where the entry is accepted. -/
abbrev Answers : Type := Nat → Nat → Option String

/-- The entries of one call that its answer does not refuse. -/
def acceptedOf (answer : Nat → Option String) (entries : List PutEventsEntry) :
    List PutEventsEntry :=
  (entries.zipIdx.filter fun placed => (answer placed.2).isNone).map Prod.fst

/-- The entries the bus accepts of some calls made after so many others. -/
def accepted (answers : Answers) : Nat → List (List PutEventsEntry) → List PutEventsEntry
  | _, [] => []
  | before, entries :: rest =>
      acceptedOf (answers before) entries ++ accepted answers (before + 1) rest

/-- Where publishing returns, the bus has accepted each alert of the list, in the order of the list,
and no call carried more than ten entries. -/
def Delivers (sink : EventBridgeAlertSink) (answers : Answers) (bus : String)
    (alerts : List AlertEvent) (calls : Calls) : Prop :=
  ∀ after, publish sink alerts calls = (.ok (), after) → ∃ made, after = calls ++ made ∧
    (∀ entries ∈ made, entries.length ≤ 10) ∧
    (alerts.map (entry sink bus)).Sublist (accepted answers calls.length made)

/-- One of the calls for the alerts raises. -/
def SomeRaises (sink : EventBridgeAlertSink) (alerts : List AlertEvent) (calls : Calls) : Prop :=
  ∃ turn, turn * putEventsMaxBatch < alerts.length ∧ sink.raises (calls.length + turn) ≠ none

/-- The bus refuses none of the alerts, each at its place in its call. -/
def NoneRefused (answers : Answers) (alerts : List AlertEvent) (calls : Calls) : Prop :=
  ∀ place < alerts.length, answers (calls.length + place / putEventsMaxBatch)
    (place % putEventsMaxBatch) = none

section Chunks

variable {α : Type}

theorem flatten_slices (items : List α) (size count : Nat) :
    ((List.range count).map fun i => (items.drop (i * size)).take size).flatten =
      items.take (count * size) := by
  induction count with
  | zero => simp
  | succ count ih =>
      rw [List.range_succ, List.map_append, List.flatten_append, ih, Nat.succ_mul, List.take_add]
      simp

theorem flatten_chunk (items : List α) {size : Nat} (positive : 0 < size) :
    (chunk items size).flatten = items := by
  rw [chunk, flatten_slices, List.take_of_length_le]
  have enough := Nat.lt_div_mul_add (a := items.length + size - 1) positive
  omega

end Chunks

theorem acceptedOf_sublist (answer : Nat → Option String) (entries : List PutEventsEntry) :
    (acceptedOf answer entries).Sublist entries := by
  have kept := (List.filter_sublist (p := fun placed : PutEventsEntry × Nat =>
    (answer placed.2).isNone) (l := entries.zipIdx)).map Prod.fst
  rwa [List.zipIdx_map_fst] at kept

/-- As many entries are accepted as were put exactly where the answer refuses none. -/
theorem acceptedOf_length_iff (answer : Nat → Option String) (entries : List PutEventsEntry) :
    (acceptedOf answer entries).length = entries.length ↔
      ∀ place < entries.length, answer place = none := by
  have zipped : entries.length = entries.zipIdx.length := List.length_zipIdx.symm
  rw [acceptedOf, List.length_map, zipped, List.length_filter_eq_length_iff, ← zipped]
  simp only [Option.isNone_iff_eq_none]
  constructor
  · intro all place inside
    exact all (entries[place], place) (List.mk_mem_zipIdx_iff_getElem?.mpr
      (List.getElem?_eq_getElem inside))
  · rintro all ⟨entry, place⟩ member
    have found := List.mk_mem_zipIdx_iff_getElem?.mp member
    exact all place (List.getElem?_eq_some_iff.mp found).1

theorem accepted_sublist (answers : Answers) (before : Nat) (made : List (List PutEventsEntry)) :
    (accepted answers before made).Sublist made.flatten := by
  induction made generalizing before with
  | nil => exact List.Sublist.refl _
  | cons entries rest ih => exact (acceptedOf_sublist _ entries).append (ih (before + 1))

theorem accepted_length_iff (answers : Answers) (before : Nat)
    (made : List (List PutEventsEntry)) :
    (accepted answers before made).length = made.flatten.length ↔
      ∀ turn entries, made[turn]? = some entries → ∀ place < entries.length,
        answers (before + turn) place = none := by
  induction made generalizing before with
  | nil => simp [accepted]
  | cons entries rest ih =>
      have here := (acceptedOf_sublist (answers before) entries).length_le
      have later := (accepted_sublist answers (before + 1) rest).length_le
      have both : (accepted answers before (entries :: rest)).length =
          (entries :: rest).flatten.length ↔
          (acceptedOf (answers before) entries).length = entries.length ∧
            (accepted answers (before + 1) rest).length = rest.flatten.length := by
        rw [accepted, List.length_append, List.flatten_cons, List.length_append]
        omega
      rw [both, acceptedOf_length_iff, ih]
      constructor
      · rintro ⟨first, others⟩ turn found listed
        cases turn with
        | zero =>
            obtain rfl := Option.some.inj listed
            exact first
        | succ turn =>
            rw [Nat.add_succ, ← Nat.succ_add]
            exact others turn found listed
      · intro all
        refine ⟨all 0 entries rfl, fun turn found listed => ?_⟩
        rw [Nat.succ_add, ← Nat.add_succ]
        exact all (turn + 1) found listed

section Publish

variable {sink : EventBridgeAlertSink} {bus : String}

theorem putEvents_apply (sink : EventBridgeAlertSink) (entries : List PutEventsEntry)
    (calls : Calls) : putEvents sink entries calls =
      match sink.raises calls.length with
      | some reason => (.error reason, calls ++ [entries])
      | none => (.ok (), calls ++ [entries]) := by
  simp only [putEvents, Call.bind_apply, Call.read_apply, Call.write_apply]
  cases sink.raises calls.length <;> rfl

/-- Batches are put one after the other as long as no call raises. -/
theorem putBatches_eq_ok {batches : List (List AlertEvent)} {calls after : Calls} :
    putBatches sink bus batches calls = (.ok (), after) ↔
      (∀ turn < batches.length, sink.raises (calls.length + turn) = none) ∧
        after = calls ++ batches.map fun batch => batch.map (entry sink bus) := by
  induction batches generalizing calls with
  | nil =>
      simp only [putBatches, Call.pure_apply, Prod.mk.injEq, true_and, List.length_nil,
        Nat.not_lt_zero, IsEmpty.forall_iff, implies_true, List.map_nil, List.append_nil]
      exact eq_comm
  | cons batch rest ih =>
      rw [putBatches, Call.bind_apply, putEvents_apply]
      rcases outcome : sink.raises calls.length with _ | reason
      · dsimp only
        rw [ih, List.length_append, List.length_singleton, List.map_cons, List.append_assoc,
          List.singleton_append]
        refine and_congr_left fun _ => ⟨fun later turn inside => ?_, fun all turn inside => ?_⟩
        · cases turn with
          | zero => exact outcome
          | succ turn =>
              rw [Nat.add_succ, ← Nat.succ_add]
              exact later turn (Nat.lt_of_succ_lt_succ inside)
        · rw [Nat.add_assoc, Nat.add_comm 1]
          exact all (turn + 1) (Nat.succ_lt_succ inside)
      · simp only [Prod.mk.injEq, reduceCtorEq, false_and, false_iff, not_and]
        intro quiet
        have first := quiet 0 (Nat.succ_pos _)
        rw [Nat.add_zero, outcome] at first
        cases first

theorem length_chunk (items : List AlertEvent) :
    (chunk items putEventsMaxBatch).length = (items.length + 9) / 10 := by
  rw [chunk, List.length_map, List.length_range]
  rfl

theorem publish_eq_ok {alerts : List AlertEvent} {calls after : Calls}
    (configured : sink.bus = some bus) :
    publish sink alerts calls = (.ok (), after) ↔ ¬ SomeRaises sink alerts calls ∧
      after = calls ++ (chunk alerts putEventsMaxBatch).map fun batch =>
        batch.map (entry sink bus) := by
  have turns : (∀ turn < (chunk alerts putEventsMaxBatch).length,
      sink.raises (calls.length + turn) = none) ↔ ¬ SomeRaises sink alerts calls := by
    rw [length_chunk, SomeRaises]
    push Not
    refine forall_congr' fun turn => imp_congr_left ?_
    rw [putEventsMaxBatch]
    omega
  rw [publish, configured]
  dsimp only
  split
  · rename_i none
    obtain rfl := List.isEmpty_iff.mp none
    have quiet : ¬ SomeRaises sink [] calls := fun ⟨turn, inside, _⟩ => Nat.not_lt_zero _ inside
    simp only [Call.pure_apply, Prod.mk.injEq, true_and, quiet, not_false_eq_true]
    simp [chunk, putEventsMaxBatch, eq_comm]
  · rw [putBatches_eq_ok, turns]

theorem flatten_batches (sink : EventBridgeAlertSink) (bus : String) (alerts : List AlertEvent) :
    ((chunk alerts putEventsMaxBatch).map fun batch => batch.map (entry sink bus)).flatten =
      alerts.map (entry sink bus) := by
  rw [← List.map_flatten, flatten_chunk alerts (by decide)]

/-- The batches carry no entry that is refused exactly where no alert is, counted through. -/
theorem noneRefused_iff (sink : EventBridgeAlertSink) (answers : Answers) (bus : String)
    (alerts : List AlertEvent) (calls : Calls) :
    (∀ turn entries, ((chunk alerts putEventsMaxBatch).map fun batch =>
        batch.map (entry sink bus))[turn]? = some entries → ∀ place < entries.length,
          answers (calls.length + turn) place = none) ↔ NoneRefused answers alerts calls := by
  have batches : ∀ turn entries, ((chunk alerts putEventsMaxBatch).map fun batch =>
      batch.map (entry sink bus))[turn]? = some entries ↔ turn < (alerts.length + 9) / 10 ∧
        ((alerts.drop (turn * 10)).take 10).map (entry sink bus) = entries := by
    intro turn entries
    simp only [List.getElem?_eq_some_iff, List.length_map, List.getElem_map, exists_prop, chunk,
      List.length_range, List.getElem_range, putEventsMaxBatch]
    exact Iff.rfl
  simp only [batches]
  constructor
  · intro quiet place inside
    have turn : place / 10 < (alerts.length + 9) / 10 := by omega
    refine quiet (place / 10) _ ⟨turn, rfl⟩ (place % 10) ?_
    rw [List.length_map, List.length_take, List.length_drop]
    omega
  · rintro quiet turn entries ⟨_, rfl⟩ place inside
    rw [List.length_map, List.length_take, List.length_drop] at inside
    have here := quiet (turn * 10 + place) (by omega)
    rw [putEventsMaxBatch, show (turn * 10 + place) / 10 = turn by omega,
      show (turn * 10 + place) % 10 = place by omega] at here
    exact here

end Publish

/-- Publishing to a bus delivers exactly where one of its calls raises or the bus refuses none of
its entries: what the bus answers is not looked at. -/
theorem publish_delivers_iff (bus : String) (dumpJson : AlertEvent → String)
    (raises : Nat → Option Raised) (answers : Answers) (alerts : List AlertEvent) (calls : Calls) :
    Delivers ⟨some bus, dumpJson, raises⟩ answers bus alerts calls ↔
      SomeRaises ⟨some bus, dumpJson, raises⟩ alerts calls ∨ NoneRefused answers alerts calls := by
  let sink : EventBridgeAlertSink := ⟨some bus, dumpJson, raises⟩
  have returns (after : Calls) : publish sink alerts calls = (.ok (), after) ↔
      ¬ SomeRaises sink alerts calls ∧ after = calls ++ (chunk alerts putEventsMaxBatch).map
        fun batch => batch.map (entry sink bus) := publish_eq_ok rfl
  by_cases raising : SomeRaises sink alerts calls
  · refine iff_of_true (fun after returned => ?_) (Or.inl raising)
    exact absurd raising ((returns after).mp returned).1
  let batches := (chunk alerts putEventsMaxBatch).map fun batch => batch.map (entry sink bus)
  have flat : batches.flatten = alerts.map (entry sink bus) := flatten_batches sink bus alerts
  rw [or_iff_right raising, ← noneRefused_iff sink answers bus, ← accepted_length_iff]
  change _ ↔ (accepted answers calls.length batches).length = batches.flatten.length
  have below := accepted_sublist answers calls.length batches
  constructor
  · intro delivers
    obtain ⟨made, same, _, all⟩ := delivers _ ((returns _).mpr ⟨raising, rfl⟩)
    rw [← List.append_cancel_left same] at all
    change (alerts.map (entry sink bus)).Sublist (accepted answers calls.length batches) at all
    rw [← flat] at all
    exact Nat.le_antisymm below.length_le all.length_le
  · intro full after returned
    refine ⟨batches, ((returns after).mp returned).2, ?_, ?_⟩
    · intro entries member
      obtain ⟨batch, listed, rfl⟩ := List.mem_map.mp member
      obtain ⟨turn, _, rfl⟩ := List.mem_map.mp listed
      rw [List.length_map]
      exact List.length_take_le _ _
    · change (alerts.map (entry sink bus)).Sublist (accepted answers calls.length batches)
      rw [below.eq_of_length full, flat]

/-- An outage routed at the epoch. -/
def outageAlert : AlertEvent where
  alertId := 0
  detectionId := 0
  detectionType := "store.outage"
  severity := .critical
  routedAt := .utc .epoch
  storeId := "store-1"
  deviceId := none
  summary := "store.outage at store-1"

/-- A bus that throttles the only entry of a call: publishing returns and the alert is lost. -/
theorem refused_alert_lost :
    ¬ ∀ (bus : String) (dumpJson : AlertEvent → String) (raises : Nat → Option Raised)
      (answers : Answers) (alerts : List AlertEvent) (calls : Calls),
        Delivers ⟨some bus, dumpJson, raises⟩ answers bus alerts calls := by
  intro delivers
  obtain ⟨made, same, _, all⟩ := delivers "alerts" (fun _ => "") (fun _ => none)
    (fun _ _ => some "ThrottlingException") [outageAlert] [] _ rfl
  rw [List.nil_append] at same
  subst same
  exact absurd all.length_le (by decide)

end EventBridgeAlertSink

end SignalForge
