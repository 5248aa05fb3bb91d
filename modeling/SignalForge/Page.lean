/-! A listing read page by page: each page but the last carries a token, and the next page is asked
for with it. -/

set_option autoImplicit false

structure Page (τ α : Type) where
  items : List α
  next : Option τ

namespace Page

variable {τ α : Type}

/-- The pages from a start on link up to a last one, and these are their items. -/
inductive Lists (ask : Option τ → Page τ α) : Option τ → List α → Prop
  | last {start : Option τ} (ends : (ask start).next = none) : Lists ask start (ask start).items
  | more {start : Option τ} {token : τ} {rest : List α} (continues : (ask start).next = some token)
      (later : Lists ask (some token) rest) : Lists ask start ((ask start).items ++ rest)

/-- Page after page put behind what is collected; `none` where the turns run out. -/
def collect (ask : Option τ → Page τ α) : Nat → Option τ → List α → Option (List α)
  | 0, _, _ => none
  | turns + 1, start, collected =>
      match (ask start).next with
      | none => some (collected ++ (ask start).items)
      | some token => collect ask turns (some token) (collected ++ (ask start).items)

/-- No page is dropped and none is read twice. -/
theorem Lists.collect_eq {ask : Option τ → Page τ α} {start : Option τ} {items : List α}
    (lists : Lists ask start items) :
    ∃ enough, ∀ turns, enough ≤ turns → ∀ collected,
      collect ask turns start collected = some (collected ++ items) := by
  induction lists with
  | last ends =>
      refine ⟨1, fun turns enough collected => ?_⟩
      obtain ⟨turns, rfl⟩ := Nat.exists_eq_add_of_le' enough
      rw [collect, ends]
  | more continues _ ih =>
      obtain ⟨enough, rest⟩ := ih
      refine ⟨enough + 1, fun turns within collected => ?_⟩
      obtain ⟨turns, rfl⟩ := Nat.exists_eq_add_of_le' (Nat.le_of_add_left_le within)
      rw [collect, continues]
      simp only
      rw [rest turns (by omega), List.append_assoc]

/-- A listing of which each page holds so many items, behind a first page that holds none. -/
def slices (items : List α) (size : Nat) : Option Nat → Page Nat α
  | none => ⟨[], some 0⟩
  | some offset => ⟨(items.drop offset).take size,
      if offset + size < items.length then some (offset + size) else none⟩

theorem slices_lists (items : List α) {size : Nat} (positive : 0 < size) :
    Lists (slices items size) none items := by
  have from_offset : ∀ left offset, items.length ≤ offset + left →
      Lists (slices items size) (some offset) (items.drop offset) := by
    intro left
    induction left with
    | zero =>
        intro offset short
        have ends : (slices items size (some offset)).next = none := if_neg (by omega)
        have nothing : items.drop offset = (slices items size (some offset)).items := by
          rw [slices, List.drop_of_length_le (by omega), List.take_nil]
        rw [nothing]
        exact .last ends
    | succ left ih =>
        intro offset short
        by_cases more : offset + size < items.length
        · have continues : (slices items size (some offset)).next = some (offset + size) := if_pos more
          have split : items.drop offset =
              (slices items size (some offset)).items ++ items.drop (offset + size) := by
            rw [slices, ← List.drop_drop, List.take_append_drop]
          rw [split]
          exact .more continues (ih (offset + size) (by omega))
        · have ends : (slices items size (some offset)).next = none := if_neg more
          have whole : items.drop offset = (slices items size (some offset)).items := by
            rw [slices, List.take_of_length_le (by rw [List.length_drop]; omega)]
          rw [whole]
          exact .last ends
  have started := from_offset items.length 0 (by omega)
  rw [List.drop_zero] at started
  have continues : (slices items size none).next = some 0 := rfl
  exact .more continues started

end Page
