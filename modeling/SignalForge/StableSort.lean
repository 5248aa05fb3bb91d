import Mathlib.Data.List.Sort
import Mathlib.Order.Compare

/-! Stable sorting by an order under which records may tie: when the sorted rows are the same for
every order of the records. -/

set_option autoImplicit false

namespace StableSort

variable {α β : Type} {order : α → α → Ordering} {row : α → β}

def sort (order : α → α → Ordering) (items : List α) : List α :=
  items.insertionSort fun first second => (order first second).isLE = true

/-- The order compares records by what their rows show. -/
def Respects (order : α → α → Ordering) (row : α → β) : Prop :=
  ∀ first first' second second', row first = row first' → row second = row second' →
    order first second = order first' second'

theorem sort_perm (items : List α) : (sort order items).Perm items := List.perm_insertionSort ..

/-- Two members are the same item, or can be put in front of all the rest. -/
theorem eq_or_two {items : List α} {first second : α} (firstMember : first ∈ items)
    (secondMember : second ∈ items) :
    first = second ∨ ∃ rest, items.Perm (first :: second :: rest) := by
  obtain ⟨front, back, rfl⟩ := List.append_of_mem firstMember
  have toFront : (front ++ first :: back).Perm (first :: (front ++ back)) := List.perm_middle
  rcases List.mem_cons.mp (toFront.mem_iff.mp secondMember) with same | elsewhere
  · exact Or.inl same.symm
  · obtain ⟨before, after, split⟩ := List.append_of_mem elsewhere
    refine Or.inr ⟨before ++ after, toFront.trans (List.Perm.cons first ?_)⟩
    rw [split]
    exact List.perm_middle

/-- The other comes before the item. -/
def passes (order : α → α → Ordering) (item other : α) : Bool := !(order item other).isLE

theorem insert_eq (item : α) (sorted : List α) :
    sorted.orderedInsert (fun first second => (order first second).isLE = true) item =
      sorted.takeWhile (passes order item) ++ item :: sorted.dropWhile (passes order item) := by
  have same : (fun other => decide ¬ (order item other).isLE = true) = passes order item := by
    funext other
    rw [passes]
    cases (order item other).isLE <;> rfl
  rw [List.orderedInsert_eq_take_drop, same]

/-- An item goes in front of the first of those it ties with or comes before. -/
theorem insert_behind {item : α} {front : List α}
    (before : ∀ other ∈ front, passes order item other = true) {next : α}
    (stops : passes order item next = false) (back : List α) :
    (front ++ next :: back).orderedInsert (fun first second => (order first second).isLE = true)
        item = front ++ item :: next :: back := by
  have stopped : ¬ passes order item next = true := Bool.eq_false_iff.mp stops
  rw [insert_eq, List.takeWhile_append_of_pos before, List.dropWhile_append_of_pos before,
    List.takeWhile_cons_of_neg stopped, List.dropWhile_cons_of_neg stopped, List.append_nil]

section

variable [Std.TransCmp order]

theorem pairwise_sort (items : List α) :
    (sort order items).Pairwise fun first second => (order first second).isLE = true := by
  have total : Std.Total fun first second => (order first second).isLE = true := ⟨by
    intro first second
    have swapped : order second first = (order first second).swap := Std.OrientedCmp.eq_swap
    rcases outcome : order first second with _ | _ | _
    · exact Or.inl rfl
    · exact Or.inl rfl
    · rw [swapped, outcome]
      exact Or.inr rfl⟩
  have trans : IsTrans α fun first second => (order first second).isLE = true :=
    ⟨fun _ _ _ => Std.TransCmp.isLE_trans⟩
  exact List.pairwise_insertionSort _ items

theorem tie_of_isLE {first second : α} (below : (order first second).isLE = true)
    (above : (order second first).isLE = true) : order first second = .eq := by
  have swapped : order second first = (order first second).swap := Std.OrientedCmp.eq_swap
  rw [swapped] at above
  rcases outcome : order first second with _ | _ | _
  · rw [outcome] at above
    cases above
  · rfl
  · rw [outcome] at below
    cases below

/-- Two records that tie, the one in front of the other: they stay in that order, wherever the
others have them. -/
theorem sort_swap {first second : α} (tie : order first second = .eq) (rest : List α) :
    ∃ front back, sort order (first :: second :: rest) = front ++ first :: second :: back ∧
      sort order (second :: first :: rest) = front ++ second :: first :: back := by
  have backTie : order second first = .eq := Std.OrientedCmp.eq_comm.mp tie
  have alike : passes order first = passes order second := by
    funext other
    have sameOrder : order first other = order second other := Std.TransCmp.congr_left tie
    rw [passes, passes, sameOrder]
  have before : ∀ other ∈ (sort order rest).takeWhile (passes order first),
      passes order first other = true := List.all_eq_true.mp List.all_takeWhile
  have stops : passes order first second = false := by
    rw [passes, tie]
    rfl
  have backStops : passes order second first = false := by
    rw [passes, backTie]
    rfl
  refine ⟨(sort order rest).takeWhile (passes order first),
    (sort order rest).dropWhile (passes order first), ?_, ?_⟩
  · rw [sort, List.insertionSort_cons, List.insertionSort_cons, insert_eq second, ← alike]
    exact insert_behind before stops _
  · rw [sort, List.insertionSort_cons, List.insertionSort_cons, insert_eq first]
    exact insert_behind (alike ▸ before) backStops _

/-- Rows that are sorted alike before and after a swap of two records that tie are equal. -/
theorem row_eq_of_swap {first second : α} (tie : order first second = .eq) {rest : List α}
    (same : (sort order (first :: second :: rest)).map row =
      (sort order (second :: first :: rest)).map row) : row first = row second := by
  obtain ⟨front, back, here, there⟩ := sort_swap tie rest
  rw [here, there, List.map_append, List.map_append] at same
  exact (List.cons.inj (List.append_cancel_left same)).1

/-- Where records that tie have equal rows, the sorted rows do not depend on the order given. -/
theorem map_sort_of_perm (respects : Respects order row) {left right : List α}
    (perm : left.Perm right)
    (ties : ∀ first ∈ right, ∀ second ∈ right, order first second = .eq → row first = row second) :
    (sort order left).map row = (sort order right).map row := by
  let below : β → β → Prop := fun shown other =>
    ∃ first second, row first = shown ∧ row second = other ∧ (order first second).isLE = true
  have sorted : ∀ items, ((sort order items).map row).Pairwise below := by
    intro items
    rw [List.pairwise_map]
    exact (pairwise_sort items).imp fun le => ⟨_, _, rfl, rfl, le⟩
  refine List.Perm.eq_of_pairwise ?_ (sorted left) (sorted right) ?_
  · intro shown other inLeft inRight forward backward
    obtain ⟨first, firstMember, rfl⟩ := List.mem_map.mp inLeft
    obtain ⟨second, secondMember, rfl⟩ := List.mem_map.mp inRight
    obtain ⟨_, _, sameFirst, sameSecond, le⟩ := forward
    obtain ⟨_, _, sameSecond', sameFirst', ge⟩ := backward
    rw [respects _ _ _ _ sameFirst sameSecond] at le
    rw [respects _ _ _ _ sameSecond' sameFirst'] at ge
    refine ties first ?_ second ?_ (tie_of_isLE le ge)
    · exact perm.mem_iff.mp ((sort_perm left).mem_iff.mp firstMember)
    · exact (sort_perm right).mem_iff.mp secondMember
  · exact (((sort_perm left).trans perm).trans (sort_perm right).symm).map row

end

end StableSort
