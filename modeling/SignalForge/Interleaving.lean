import Mathlib.Data.List.Basic

/-! Two sequences merged into one, each in its own order. -/

set_option autoImplicit false

variable {α β : Type}

inductive Interleaves : List α → List α → List α → Prop
  | nil : Interleaves [] [] []
  | left {left right whole : List α} (item : α) (later : Interleaves left right whole) :
      Interleaves (item :: left) right (item :: whole)
  | right {left right whole : List α} (item : α) (later : Interleaves left right whole) :
      Interleaves left (item :: right) (item :: whole)

namespace Interleaves

theorem symm {left right whole : List α} (merged : Interleaves left right whole) :
    Interleaves right left whole := by
  induction merged with
  | nil => exact .nil
  | left item _ ih => exact .right item ih
  | right item _ ih => exact .left item ih

theorem leftOnly (items : List α) : Interleaves items [] items := by
  induction items with
  | nil => exact .nil
  | cons item _ ih => exact .left item ih

theorem append {left right whole moreLeft moreRight more : List α}
    (first : Interleaves left right whole) (second : Interleaves moreLeft moreRight more) :
    Interleaves (left ++ moreLeft) (right ++ moreRight) (whole ++ more) := by
  induction first with
  | nil => exact second
  | left item _ ih => exact .left item ih
  | right item _ ih => exact .right item ih

theorem filterMap {left right whole : List α} (merged : Interleaves left right whole)
    (f : α → Option β) :
    Interleaves (left.filterMap f) (right.filterMap f) (whole.filterMap f) := by
  induction merged with
  | nil => exact .nil
  | left item _ ih =>
      simp only [List.filterMap_cons]
      split
      · exact ih
      · exact .left _ ih
  | right item _ ih =>
      simp only [List.filterMap_cons]
      split
      · exact ih
      · exact .right _ ih

theorem mem_iff {left right whole : List α} (merged : Interleaves left right whole) (item : α) :
    item ∈ whole ↔ item ∈ left ∨ item ∈ right := by
  induction merged with
  | nil => simp only [List.not_mem_nil, or_self]
  | left _ _ ih => simp only [List.mem_cons, ih, or_assoc]
  | right _ _ ih => simp only [List.mem_cons, ih, or_left_comm]

theorem length_eq {left right whole : List α} (merged : Interleaves left right whole) :
    whole.length = left.length + right.length := by
  induction merged with
  | nil => rfl
  | left _ _ ih =>
      rw [List.length_cons, List.length_cons, ih]
      omega
  | right _ _ ih =>
      rw [List.length_cons, List.length_cons, ih]
      omega

/-- Sequences told apart by a test are what the test picks out of their merge. -/
theorem filter_eq {left right whole : List α} (merged : Interleaves left right whole)
    (picks : α → Bool) (ofLeft : ∀ item ∈ left, picks item = true)
    (ofRight : ∀ item ∈ right, picks item = false) : whole.filter picks = left := by
  induction merged with
  | nil => rfl
  | left item _ ih =>
      obtain ⟨first, later⟩ := List.forall_mem_cons.mp ofLeft
      rw [List.filter_cons_of_pos first, ih later ofRight]
  | right item _ ih =>
      obtain ⟨first, later⟩ := List.forall_mem_cons.mp ofRight
      rw [List.filter_cons_of_neg (by rw [first]; exact Bool.false_ne_true), ih ofLeft later]

end Interleaves
