import Mathlib.Data.List.Basic
import Mathlib.Order.Defs.LinearOrder
import Mathlib.Order.Lattice

/-! Finite sets as strictly ascending lists: equal sets are equal lists. -/

set_option autoImplicit false

structure SortedSet (α : Type) [LinearOrder α] where
  items : List α
  ascending : items.Pairwise (· < ·)

namespace SortedSet

variable {α : Type} [LinearOrder α]

instance : Membership α (SortedSet α) := ⟨fun set item => item ∈ set.items⟩

theorem mem_def (set : SortedSet α) (item : α) : item ∈ set ↔ item ∈ set.items := Iff.rfl

instance (set : SortedSet α) (item : α) : Decidable (item ∈ set) :=
  inferInstanceAs (Decidable (item ∈ set.items))

theorem items_nodup (set : SortedSet α) : set.items.Nodup :=
  set.ascending.imp fun below => ne_of_lt below

@[ext] theorem ext {left right : SortedSet α} (same : ∀ item, item ∈ left ↔ item ∈ right) :
    left = right := by
  have listed : left.items = right.items := by
    have antisymmetric : ∀ a b, a ∈ left.items → b ∈ right.items → a < b → b < a → a = b :=
      fun a b _ _ forward backward => absurd backward (lt_asymm forward)
    apply List.Perm.eq_of_pairwise antisymmetric left.ascending right.ascending
    exact (List.perm_ext_iff_of_nodup left.items_nodup right.items_nodup).mpr same
  cases left
  cases right
  simpa only [SortedSet.mk.injEq] using listed

def empty : SortedSet α := ⟨[], .nil⟩

@[simp] theorem not_mem_empty (item : α) : item ∉ (empty : SortedSet α) := List.not_mem_nil

/-- An item put in its place, unless it is there. -/
def place (item : α) : List α → List α
  | [] => [item]
  | other :: rest =>
      if item < other then item :: other :: rest
      else if item = other then other :: rest
      else other :: place item rest

theorem mem_place (item other : α) (items : List α) :
    other ∈ place item items ↔ other = item ∨ other ∈ items := by
  induction items with
  | nil => simp only [place, List.mem_singleton, List.not_mem_nil, or_false]
  | cons first rest ih =>
      rw [place]
      split
      · exact List.mem_cons
      · split
        · rename_i same
          rw [same, List.mem_cons, ← or_assoc, or_self]
        · rw [List.mem_cons, ih, List.mem_cons, or_left_comm]

theorem place_ascending (item : α) (items : List α) (ascending : items.Pairwise (· < ·)) :
    (place item items).Pairwise (· < ·) := by
  induction items with
  | nil => exact List.pairwise_singleton ..
  | cons first rest ih =>
      obtain ⟨least, later⟩ := List.pairwise_cons.mp ascending
      rw [place]
      split
      · rename_i before
        refine List.pairwise_cons.mpr ⟨?_, ascending⟩
        intro other member
        rcases List.mem_cons.mp member with rfl | inRest
        · exact before
        · exact lt_trans before (least other inRest)
      · split
        · exact ascending
        · rename_i notBefore different
          refine List.pairwise_cons.mpr ⟨?_, ih later⟩
          intro other member
          rcases (mem_place item other rest).mp member with rfl | inRest
          · exact lt_of_le_of_ne (not_lt.mp notBefore) fun same => different same.symm
          · exact least other inRest

def insert (item : α) (set : SortedSet α) : SortedSet α :=
  ⟨place item set.items, place_ascending item set.items set.ascending⟩

@[simp] theorem mem_insert (item other : α) (set : SortedSet α) :
    other ∈ insert item set ↔ other = item ∨ other ∈ set := mem_place item other set.items

def erase (item : α) (set : SortedSet α) : SortedSet α :=
  ⟨set.items.filter (· ≠ item), set.ascending.filter _⟩

@[simp] theorem mem_erase (item other : α) (set : SortedSet α) :
    other ∈ erase item set ↔ other ∈ set ∧ other ≠ item := by
  simp only [mem_def, erase, List.mem_filter, decide_eq_true_eq]

def ofList (items : List α) : SortedSet α := items.foldl (fun set item => insert item set) empty

theorem mem_ofList (items : List α) (item : α) : item ∈ ofList items ↔ item ∈ items := by
  have folded : ∀ (set : SortedSet α), item ∈ items.foldl (fun set item => insert item set) set ↔
      item ∈ set ∨ item ∈ items := by
    induction items with
    | nil => exact fun set => by simp only [List.foldl_nil, List.not_mem_nil, or_false]
    | cons first rest ih =>
        intro set
        rw [List.foldl_cons, ih, mem_insert, List.mem_cons, or_assoc, or_left_comm]
  rw [ofList, folded, or_iff_right (not_mem_empty item)]

theorem ofList_items (set : SortedSet α) : ofList set.items = set := by
  ext item
  exact mem_ofList set.items item

theorem items_eq_nil_iff (set : SortedSet α) : set.items = [] ↔ ∀ item, item ∉ set :=
  List.eq_nil_iff_forall_not_mem

end SortedSet
