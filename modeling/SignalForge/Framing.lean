import Mathlib.Data.List.Basic
import Mathlib.Data.List.Infix

/-! Cutting a sequence after each successive leftmost occurrence of a pattern. -/

set_option autoImplicit false

namespace Framing

variable {α : Type}

/-- The pattern occurs in the sequence at an offset. -/
def OccursAt (pattern sequence : List α) (offset : Nat) : Prop :=
  pattern <+: sequence.drop offset

structure IsLeftmost (pattern sequence : List α) (offset : Nat) : Prop where
  here : OccursAt pattern sequence offset
  noEarlier : ∀ earlier < offset, ¬ OccursAt pattern sequence earlier

/-- Offset of the leftmost occurrence, if there is one. -/
def find? [DecidableEq α] (pattern : List α) : List α → Option Nat
  | [] => if pattern = [] then some 0 else none
  | item :: rest =>
      if pattern.isPrefixOf (item :: rest) then some 0 else (find? pattern rest).map (· + 1)

/-- The sequence is cut after each successive leftmost occurrence of the pattern, and what
is left holds no occurrence. -/
inductive SplitAfter (pattern : List α) : List α → List (List α) → List α → Prop
  | rest {sequence : List α} (absent : ∀ offset, ¬ OccursAt pattern sequence offset) :
      SplitAfter pattern sequence [] sequence
  | piece {sequence rest : List α} {pieces : List (List α)} {offset : Nat}
      (leftmost : IsLeftmost pattern sequence offset)
      (later : SplitAfter pattern (sequence.drop (offset + pattern.length)) pieces rest) :
      SplitAfter pattern sequence (sequence.take (offset + pattern.length) :: pieces) rest

theorem OccursAt.end_le {pattern sequence : List α} {offset : Nat} (nonempty : pattern ≠ [])
    (occurs : OccursAt pattern sequence offset) : offset + pattern.length ≤ sequence.length := by
  have fits := occurs.length_le
  have positive := List.length_pos_iff.mpr nonempty
  rw [List.length_drop] at fits
  omega

/-- An occurrence is decided by the items up to its end. -/
theorem occursAt_append_iff {pattern front : List α} {offset : Nat}
    (inside : offset + pattern.length ≤ front.length) (back : List α) :
    OccursAt pattern (front ++ back) offset ↔ OccursAt pattern front offset := by
  simp only [OccursAt]
  rw [List.drop_append_of_le_length (by omega)]
  constructor
  · intro occurs
    apply List.prefix_of_prefix_length_le occurs (List.prefix_append _ _)
    rw [List.length_drop]
    omega
  · exact fun occurs => occurs.trans (List.prefix_append _ _)

theorem IsLeftmost.append {pattern sequence : List α} {offset : Nat} (nonempty : pattern ≠ [])
    (leftmost : IsLeftmost pattern sequence offset) (more : List α) :
    IsLeftmost pattern (sequence ++ more) offset := by
  have inside := leftmost.here.end_le nonempty
  constructor
  · exact (occursAt_append_iff inside more).mpr leftmost.here
  · intro earlier before occurs
    exact leftmost.noEarlier earlier before
      ((occursAt_append_iff (by omega) more).mp occurs)

theorem IsLeftmost.unique {pattern sequence : List α} {first second : Nat}
    (left : IsLeftmost pattern sequence first) (right : IsLeftmost pattern sequence second) :
    first = second := by
  have notAfter : ¬ second < first := fun before => left.noEarlier second before right.here
  have notBefore : ¬ first < second := fun before => right.noEarlier first before left.here
  omega

/-- An occurrence that begins in front of a block whose first item does not stand inside the
pattern lies in front of it. -/
theorem OccursAt.in_front {pattern front block : List α} {offset : Nat}
    (apart : ∀ first ∈ block.head?, first ∉ pattern.tail) (before : offset < front.length)
    (occurs : OccursAt pattern (front ++ block) offset) : OccursAt pattern front offset := by
  by_cases inside : offset + pattern.length ≤ front.length
  · exact (occursAt_append_iff inside block).mp occurs
  · -- the occurrence would reach the first item of the block
    exfalso
    have reach : front.length - offset < pattern.length := by omega
    have item := List.prefix_iff_getElem?.mp occurs (front.length - offset) reach
    rw [List.getElem?_drop, Nat.add_sub_cancel' (by omega),
      List.getElem?_append_right (Nat.le_refl _), Nat.sub_self, ← List.head?_eq_getElem?] at item
    refine apart _ item (List.mem_iff_getElem.mpr ⟨front.length - offset - 1, ?_, ?_⟩)
    · rw [List.length_tail]
      omega
    · rw [List.getElem_tail]
      congr 1
      omega

/-- Behind items that hold no occurrence, a block whose first item is not one of the pattern's
keeps its leftmost occurrence: none can lie across the two. -/
theorem IsLeftmost.after {pattern carry block : List α} {offset : Nat}
    (absent : ∀ offset, ¬ OccursAt pattern carry offset)
    (apart : ∀ first ∈ block.head?, first ∉ pattern)
    (leftmost : IsLeftmost pattern block offset) :
    IsLeftmost pattern (carry ++ block) (carry.length + offset) := by
  constructor
  · unfold OccursAt
    rw [List.drop_append, List.drop_of_length_le (by omega), List.nil_append,
      Nat.add_sub_cancel_left]
    exact leftmost.here
  · intro earlier before occurs
    by_cases inBlock : carry.length ≤ earlier
    · unfold OccursAt at occurs
      rw [List.drop_append, List.drop_of_length_le inBlock, List.nil_append] at occurs
      exact leftmost.noEarlier (earlier - carry.length) (by omega) occurs
    · refine absent earlier (occurs.in_front ?_ (by omega))
      exact fun first head tail => apart first head (List.mem_of_mem_tail tail)

/-- A pattern whose first item does not come again in it occurs first where it is put, behind items
that hold no occurrence. -/
theorem isLeftmost_append {first : α} {rest front : List α} (once : first ∉ rest)
    (absent : ∀ offset, ¬ OccursAt (first :: rest) front offset) (back : List α) :
    IsLeftmost (first :: rest) (front ++ first :: rest ++ back) front.length := by
  rw [List.append_assoc]
  constructor
  · rw [OccursAt, List.drop_left]
    exact List.prefix_append _ _
  · intro earlier before occurs
    refine absent earlier (occurs.in_front ?_ before)
    rintro _ ⟨⟩
    exact once

theorem find?_eq_some [DecidableEq α] {pattern sequence : List α} {offset : Nat}
    (found : find? pattern sequence = some offset) : IsLeftmost pattern sequence offset := by
  induction sequence generalizing offset with
  | nil =>
      simp only [find?, Option.ite_none_right_eq_some, Option.some.injEq] at found
      obtain ⟨rfl, rfl⟩ := found
      exact ⟨List.nil_prefix, fun _ before => absurd before (Nat.not_lt_zero _)⟩
  | cons item rest ih =>
      simp only [find?] at found
      split at found
      · rename_i atFront
        cases found
        exact ⟨List.isPrefixOf_iff_prefix.mp atFront,
          fun _ before => absurd before (Nat.not_lt_zero _)⟩
      · rename_i notFront
        obtain ⟨inner, later, rfl⟩ := Option.map_eq_some_iff.mp found
        have leftmost := ih later
        refine ⟨leftmost.here, ?_⟩
        intro earlier before occurs
        cases earlier with
        | zero => exact notFront (List.isPrefixOf_iff_prefix.mpr occurs)
        | succ earlier => exact leftmost.noEarlier earlier (by omega) occurs

theorem find?_eq_none [DecidableEq α] {pattern sequence : List α} (nonempty : pattern ≠ [])
    (absent : find? pattern sequence = none) (offset : Nat) :
    ¬ OccursAt pattern sequence offset := by
  induction sequence generalizing offset with
  | nil =>
      intro occurs
      simp only [OccursAt, List.drop_nil, List.prefix_nil] at occurs
      exact nonempty occurs
  | cons item rest ih =>
      simp only [find?] at absent
      split at absent
      · cases absent
      · rename_i notFront
        have later := ih (Option.map_eq_none_iff.mp absent)
        intro occurs
        cases offset with
        | zero => exact notFront (List.isPrefixOf_iff_prefix.mpr occurs)
        | succ offset => exact later offset occurs

namespace SplitAfter

variable {pattern sequence rest : List α} {pieces : List (List α)}

/-- Nothing is lost and nothing is added. -/
theorem flatten_append (split : SplitAfter pattern sequence pieces rest) :
    pieces.flatten ++ rest = sequence := by
  induction split with
  | rest _ => rfl
  | piece _ _ ih =>
      rw [List.flatten_cons, List.append_assoc, ih, List.take_append_drop]

theorem rest_absent (split : SplitAfter pattern sequence pieces rest) (offset : Nat) :
    ¬ OccursAt pattern rest offset := by
  induction split with
  | rest absent => exact absent offset
  | piece _ _ ih => exact ih

/-- Every sequence can be cut. -/
theorem exists_of [DecidableEq α] (nonempty : pattern ≠ []) (sequence : List α) :
    ∃ pieces rest, SplitAfter pattern sequence pieces rest := by
  induction size : sequence.length using Nat.strongRecOn generalizing sequence with
  | ind length ih =>
      cases found : find? pattern sequence with
      | none => exact ⟨[], sequence, .rest (find?_eq_none nonempty found)⟩
      | some offset =>
          have leftmost := find?_eq_some found
          have inside := leftmost.here.end_le nonempty
          have positive := List.length_pos_iff.mpr nonempty
          have shorter : (sequence.drop (offset + pattern.length)).length < length := by
            rw [List.length_drop]
            omega
          obtain ⟨pieces, rest, later⟩ := ih _ shorter _ rfl
          exact ⟨_, rest, .piece leftmost later⟩

theorem unique {otherPieces : List (List α)} {otherRest : List α}
    (split : SplitAfter pattern sequence pieces rest)
    (other : SplitAfter pattern sequence otherPieces otherRest) :
    pieces = otherPieces ∧ rest = otherRest := by
  induction split generalizing otherPieces with
  | rest absent =>
      cases other with
      | rest _ => exact ⟨rfl, rfl⟩
      | piece leftmost _ => exact absurd leftmost.here (absent _)
  | piece leftmost _ ih =>
      cases other with
      | rest absent => exact absurd leftmost.here (absent _)
      | piece leftmost' later' =>
          obtain rfl := leftmost.unique leftmost'
          obtain ⟨rfl, rfl⟩ := ih later'
          exact ⟨rfl, rfl⟩

/-- Splitting what is left together with more items continues the split. -/
theorem append {more later : List α} {morePieces : List (List α)} (nonempty : pattern ≠ [])
    (split : SplitAfter pattern sequence pieces rest)
    (next : SplitAfter pattern (rest ++ more) morePieces later) :
    SplitAfter pattern (sequence ++ more) (pieces ++ morePieces) later := by
  induction split with
  | rest _ => exact next
  | piece leftmost _ ih =>
      have inside := leftmost.here.end_le nonempty
      have continued := ih next
      rw [← List.drop_append_of_le_length inside] at continued
      rw [List.cons_append, ← (List.take_append_of_le_length inside : (_ ++ more).take _ = _)]
      exact .piece (leftmost.append nonempty more) continued

end SplitAfter

end Framing
