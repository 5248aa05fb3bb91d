import Mathlib.Data.List.Basic
import Mathlib.Data.List.Induction
import Mathlib.Logic.Function.Basic

/-! Views kept by point writes: each write sets or clears one key, and the last write on a key
decides it. Writes may reach a view over a channel that delivers some of them again. -/

set_option autoImplicit false

structure PointWrite (κ β : Type) where
  key : κ
  value : Option β
  deriving DecidableEq

namespace PointWrite

variable {κ β : Type} [DecidableEq κ]

def apply (view : κ → Option β) (write : PointWrite κ β) : κ → Option β :=
  Function.update view write.key write.value

def applyAll (view : κ → Option β) (writes : List (PointWrite κ β)) : κ → Option β :=
  writes.foldl apply view

/-- The last write on a key. -/
def lastOn (key : κ) (writes : List (PointWrite κ β)) : Option (PointWrite κ β) :=
  (writes.filter fun write => write.key = key).getLast?

theorem apply_apply (view : κ → Option β) (write : PointWrite κ β) (key : κ) :
    apply view write key = if key = write.key then write.value else view key :=
  Function.update_apply ..

theorem applyAll_concat (view : κ → Option β) (writes : List (PointWrite κ β))
    (write : PointWrite κ β) :
    applyAll view (writes ++ [write]) = apply (applyAll view writes) write :=
  List.foldl_concat ..

theorem lastOn_concat (key : κ) (writes : List (PointWrite κ β)) (write : PointWrite κ β) :
    lastOn key (writes ++ [write]) = if key = write.key then some write else lastOn key writes := by
  rw [lastOn, List.filter_append]
  split
  · rename_i same
    rw [List.filter_cons_of_pos (by simpa using same.symm), List.filter_nil,
      List.getLast?_concat]
  · rename_i apart
    rw [List.filter_cons_of_neg (by simpa using fun same => apart same.symm), List.filter_nil,
      List.append_nil, lastOn]

theorem applyAll_apply (view : κ → Option β) (writes : List (PointWrite κ β)) (key : κ) :
    applyAll view writes key =
      match lastOn key writes with
      | some write => write.value
      | none => view key := by
  induction writes using List.reverseRecOn with
  | nil => rfl
  | append_singleton writes write ih =>
      rw [applyAll_concat, apply_apply, lastOn_concat]
      split
      · rfl
      · exact ih

theorem of_lastOn {key : κ} {writes : List (PointWrite κ β)} {write : PointWrite κ β}
    (found : lastOn key writes = some write) : write ∈ writes ∧ write.key = key := by
  obtain ⟨member, on⟩ := List.mem_filter.mp (List.mem_of_getLast? found)
  exact ⟨member, by simpa using on⟩

theorem lastOn_eq_none {key : κ} {writes : List (PointWrite κ β)} :
    lastOn key writes = none ↔ ∀ write ∈ writes, write.key ≠ key := by
  rw [lastOn, List.getLast?_eq_none_iff, List.filter_eq_nil_iff]
  simp only [decide_eq_true_eq, ne_eq]

theorem applyAll_cases (view : κ → Option β) (writes : List (PointWrite κ β)) (key : κ) :
    applyAll view writes key = view key ∨
      ∃ write ∈ writes, write.key = key ∧ applyAll view writes key = write.value := by
  rw [applyAll_apply]
  rcases found : lastOn key writes with _ | write
  · exact Or.inl rfl
  · obtain ⟨member, on⟩ := of_lastOn found
    exact Or.inr ⟨write, member, on, rfl⟩

/-- A key no write is on keeps its value. -/
theorem applyAll_of_absent {view : κ → Option β} {writes : List (PointWrite κ β)} {key : κ}
    (absent : ∀ write ∈ writes, write.key ≠ key) : applyAll view writes key = view key := by
  rcases applyAll_cases view writes key with kept | ⟨write, member, on, _⟩
  · exact kept
  · exact absurd on (absent write member)

/-- A key all of whose writes agree has their value. -/
theorem applyAll_of_agree {view : κ → Option β} {writes : List (PointWrite κ β)} {key : κ}
    {value : Option β} (present : ∃ write ∈ writes, write.key = key)
    (agree : ∀ write ∈ writes, write.key = key → write.value = value) :
    applyAll view writes key = value := by
  obtain ⟨write, member, on⟩ := present
  rw [applyAll_apply]
  cases found : lastOn key writes with
  | none => exact absurd on (lastOn_eq_none.mp found write member)
  | some last => exact agree last (of_lastOn found).1 (of_lastOn found).2

/-- A second pass over the same writes changes nothing. -/
theorem applyAll_twice (view : κ → Option β) (writes : List (PointWrite κ β)) :
    applyAll (applyAll view writes) writes = applyAll view writes := by
  funext key
  rw [applyAll_apply, applyAll_apply]
  cases lastOn key writes <;> rfl

/-- A write is absorbed exactly where its key already has its value. -/
theorem apply_eq_iff (view : κ → Option β) (write : PointWrite κ β) :
    apply view write = view ↔ view write.key = write.value := by
  rw [apply, Function.update_eq_self_iff, eq_comm]

/-- A step over states that acts on a view of them by point writes. -/
structure Writes {σ δ : Type} (step : σ → δ → σ) (kept : σ → Prop) (view : σ → κ → Option β)
    (writeOf : δ → Option (PointWrite κ β)) : Prop where
  kept_step : ∀ {state} item, kept state → kept (step state item)
  none_step : ∀ {state item}, kept state → writeOf item = none → view (step state item) = view state
  some_step : ∀ {state item write}, kept state → writeOf item = some write →
    view (step state item) = apply (view state) write

namespace Writes

variable {σ δ : Type} {step : σ → δ → σ} {kept : σ → Prop} {view : σ → κ → Option β}
  {writeOf : δ → Option (PointWrite κ β)}

theorem kept_fold (writes : Writes step kept view writeOf) {state : σ} (here : kept state)
    (items : List δ) : kept (items.foldl step state) := by
  induction items generalizing state with
  | nil => exact here
  | cons item rest ih => exact ih (writes.kept_step item here)

theorem view_fold (writes : Writes step kept view writeOf) {state : σ} (here : kept state)
    (items : List δ) :
    view (items.foldl step state) = applyAll (view state) (items.filterMap writeOf) := by
  induction items generalizing state with
  | nil => rfl
  | cons item rest ih =>
      rw [List.foldl_cons, ih (writes.kept_step item here)]
      cases found : writeOf item with
      | none => rw [List.filterMap_cons_none found, writes.none_step here found]
      | some write =>
          rw [List.filterMap_cons_some found, writes.some_step here found]
          rfl

/-- The items folded once more leave the view as it is. -/
theorem view_fold_twice (writes : Writes step kept view writeOf) {state : σ} (here : kept state)
    (items : List δ) :
    view (items.foldl step (items.foldl step state)) = view (items.foldl step state) := by
  rw [writes.view_fold (writes.kept_fold here items), writes.view_fold here, applyAll_twice]

/-- States whose views differ only where the items write are folded to the same view. -/
theorem view_fold_congr (writes : Writes step kept view writeOf) {state other : σ}
    (here : kept state) (there : kept other) {items : List δ}
    (elsewhere : ∀ key, (∀ write ∈ items.filterMap writeOf, write.key ≠ key) →
      view other key = view state key) :
    view (items.foldl step other) = view (items.foldl step state) := by
  funext key
  rw [writes.view_fold here, writes.view_fold there, applyAll_apply, applyAll_apply]
  cases found : lastOn key (items.filterMap writeOf) with
  | none => exact elsewhere key (lastOn_eq_none.mp found)
  | some write => rfl

/-- Another step on the same items that leaves the view alone may come last. -/
theorem before (writes : Writes step kept view writeOf) (other : σ → δ → σ)
    (keeps : ∀ {state} item, kept state → kept (other state item))
    (frames : ∀ {state} item, kept state → view (other state item) = view state) :
    Writes (fun state item => other (step state item) item) kept view writeOf where
  kept_step item here := keeps item (writes.kept_step item here)
  none_step {_ item} here silent := by
    rw [frames item (writes.kept_step item here), writes.none_step here silent]
  some_step {_ item _} here written := by
    rw [frames item (writes.kept_step item here), writes.some_step here written]

/-- The view with its values read through a function. -/
theorem mapValue {γ : Type} (writes : Writes step kept view writeOf) (read : β → γ) :
    Writes step kept (fun state key => (view state key).map read)
      (fun item => (writeOf item).map fun write => ⟨write.key, write.value.map read⟩) where
  kept_step := writes.kept_step
  none_step here silent := by
    rw [writes.none_step here (Option.map_eq_none_iff.mp silent)]
  some_step here written := by
    obtain ⟨write, found, rfl⟩ := Option.map_eq_some_iff.mp written
    rw [writes.some_step here found]
    funext key
    rw [apply_apply, apply_apply]
    split <;> rfl

end Writes

end PointWrite

/-- What an at-least-once channel hands over: a first copy, or one of the earlier again. -/
inductive Delivery (δ : Type) where
  | first (item : δ)
  | again (item : δ)
  deriving DecidableEq

namespace Delivery

variable {δ : Type}

def item : Delivery δ → δ
  | .first item => item
  | .again item => item

def delivered (history : List (Delivery δ)) : List δ := history.map item

def firstCopies (history : List (Delivery δ)) : List δ :=
  history.filterMap fun
    | .first item => some item
    | .again _ => none

/-- Only what was delivered before is delivered again. -/
def AtLeastOnce (history : List (Delivery δ)) : Prop :=
  ∀ before item after, history = before ++ .again item :: after → item ∈ firstCopies before

theorem delivered_concat (history : List (Delivery δ)) (delivery : Delivery δ) :
    delivered (history ++ [delivery]) = delivered history ++ [delivery.item] :=
  List.map_append ..

theorem firstCopies_first (history : List (Delivery δ)) (item : δ) :
    firstCopies (history ++ [.first item]) = firstCopies history ++ [item] :=
  List.filterMap_append ..

theorem firstCopies_again (history : List (Delivery δ)) (item : δ) :
    firstCopies (history ++ [.again item]) = firstCopies history := by
  rw [firstCopies, List.filterMap_append]
  exact List.append_nil _

section

variable {κ β : Type} [DecidableEq κ] (writeOf : δ → Option (PointWrite κ β))

/-- A view of what is delivered; items that write nothing leave it as it is. -/
def viewOf (items : List δ) : κ → Option β :=
  PointWrite.applyAll (fun _ => none) (items.filterMap writeOf)

/-- Delivering the item again would write what the view of the first copies holds. -/
def Absorbed (firsts : List δ) (item : δ) : Prop :=
  ∀ write, writeOf item = some write → viewOf writeOf firsts write.key = write.value

variable {writeOf}

theorem viewOf_concat (items : List δ) (item : δ) :
    viewOf writeOf (items ++ [item]) =
      match writeOf item with
      | some write => PointWrite.apply (viewOf writeOf items) write
      | none => viewOf writeOf items := by
  rw [viewOf, List.filterMap_append]
  cases found : writeOf item with
  | none =>
      rw [List.filterMap_cons_none found, List.filterMap_nil, List.append_nil]
      rfl
  | some write =>
      rw [List.filterMap_cons_some found, List.filterMap_nil, PointWrite.applyAll_concat]
      rfl

theorem viewOf_concat_congr {left right : List δ} (same : viewOf writeOf left = viewOf writeOf right)
    (item : δ) : viewOf writeOf (left ++ [item]) = viewOf writeOf (right ++ [item]) := by
  rw [viewOf_concat, viewOf_concat, same]

theorem absorbed_iff {firsts : List δ} {item : δ} :
    viewOf writeOf (firsts ++ [item]) = viewOf writeOf firsts ↔ Absorbed writeOf firsts item := by
  rw [viewOf_concat, Absorbed]
  cases writeOf item with
  | none => simp only [reduceCtorEq, IsEmpty.forall_iff, implies_true]
  | some write => simp only [Option.some.injEq, forall_eq', PointWrite.apply_eq_iff]

/-- The view keeps to that of the first copies after every delivery exactly when every repeated
delivery is absorbed. -/
theorem view_of_firsts_iff (writeOf : δ → Option (PointWrite κ β)) (history : List (Delivery δ)) :
    (∀ before after, history = before ++ after →
        viewOf writeOf (delivered before) = viewOf writeOf (firstCopies before)) ↔
      ∀ before item after, history = before ++ .again item :: after →
        Absorbed writeOf (firstCopies before) item := by
  constructor
  · intro keeps before item after located
    have here := keeps before (.again item :: after) located
    have next := keeps (before ++ [.again item]) after (by rw [located, List.append_assoc]; rfl)
    rw [delivered_concat, firstCopies_again, viewOf_concat_congr here] at next
    exact absorbed_iff.mp next
  · intro absorbed before
    induction before using List.reverseRecOn with
    | nil => exact fun _ _ => rfl
    | append_singleton before delivery ih =>
        intro after located
        rw [List.append_assoc, List.singleton_append] at located
        have here := ih (delivery :: after) located
        rw [delivered_concat, viewOf_concat_congr here]
        cases delivery with
        | first item => rw [firstCopies_first]; rfl
        | again item =>
            rw [firstCopies_again]
            exact absorbed_iff.mpr (absorbed before item after located)

/-- The newest first copy that writes where the item does writes the same. -/
def Current (writeOf : δ → Option (PointWrite κ β)) (firsts : List δ) (item : δ) : Prop :=
  ∀ write, writeOf item = some write →
    PointWrite.lastOn write.key (firsts.filterMap writeOf) = some write

theorem absorbed_iff_current {firsts : List δ} {item : δ} (known : item ∈ firsts) :
    Absorbed writeOf firsts item ↔ Current writeOf firsts item := by
  apply forall₂_congr
  intro write written
  have present : write ∈ firsts.filterMap writeOf := List.mem_filterMap.mpr ⟨item, known, written⟩
  rw [viewOf, PointWrite.applyAll_apply]
  cases found : PointWrite.lastOn write.key (firsts.filterMap writeOf) with
  | none => exact absurd rfl (PointWrite.lastOn_eq_none.mp found write present)
  | some last =>
      have sameKey := (PointWrite.of_lastOn found).2
      simp only [Option.some.injEq]
      constructor
      · intro sameValue
        cases last
        cases write
        simp only at sameKey sameValue
        rw [sameKey, sameValue]
      · exact congrArg PointWrite.value

end

theorem atLeastOnce_firsts (items : List δ) : AtLeastOnce (items.map .first) := by
  intro before item after split
  have member : Delivery.again item ∈ items.map .first := by
    rw [split]
    exact List.mem_append_right before List.mem_cons_self
  obtain ⟨_, _, same⟩ := List.mem_map.mp member
  cases same

theorem AtLeastOnce.again {history : List (Delivery δ)} (channel : AtLeastOnce history) {item : δ}
    (known : item ∈ firstCopies history) : AtLeastOnce (history ++ [.again item]) := by
  intro before other after split
  rcases List.eq_nil_or_concat after with rfl | ⟨front, last, rfl⟩
  · obtain ⟨rfl, same⟩ := List.append_inj' split rfl
    cases same
    exact known
  · have longer : history ++ [.again item] = (before ++ .again other :: front) ++ [last] := by
      rw [split, List.append_assoc, List.cons_append, List.concat_eq_append]
    exact channel before other front (List.append_inj' longer rfl).1

theorem firstCopies_firsts (items : List δ) : firstCopies (items.map .first) = items := by
  rw [firstCopies, List.filterMap_map]
  exact List.filterMap_some

end Delivery
