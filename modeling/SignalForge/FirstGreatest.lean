import Mathlib.Data.List.Induction

/-! `max(items, key=...)` under a total preorder: of the greatest items, the first. -/

set_option autoImplicit false

namespace FirstGreatest

variable {κ α : Type}

/-- The loop of `max`: an item replaces the one kept only where it is strictly greater. -/
def pick (le : α → α → Bool) (items : List α) : Option α :=
  items.foldl (fun best item =>
    match best with
    | none => some item
    | some kept => if le item kept then some kept else some item) none

/-- Of the keys that have a rank, this one has the greatest, and none before it has as great. -/
structure Among (le : α → α → Bool) (rank : κ → Option α) (keys : List κ) (key : κ) (found : α) :
    Prop where
  ranked : rank key = some found
  first : ∃ front back, keys = front ++ key :: back ∧
    (∀ other ∈ front, ∀ item, rank other = some item → le found item = false) ∧
    ∀ other ∈ back, ∀ item, rank other = some item → le item found = true

theorem pick_append (le : α → α → Bool) (items : List α) (last : α) :
    pick le (items ++ [last]) = match pick le items with
      | none => some last
      | some kept => if le last kept then some kept else some last := by
  rw [pick, List.foldl_append]
  rfl

theorem pick_eq_none {le : α → α → Bool} {items : List α} :
    pick le items = none ↔ items = [] := by
  induction items using List.reverseRecOn with
  | nil => exact iff_of_true rfl rfl
  | append_singleton items last _ =>
      rw [pick_append]
      refine iff_of_false ?_ (List.append_ne_nil_of_right_ne_nil _ (List.cons_ne_nil _ _))
      split
      · exact Option.some_ne_none _
      · split <;> exact Option.some_ne_none _

section

variable {le : α → α → Bool} {rank : κ → Option α} {keys : List κ} {key : κ} {found : α}

theorem Among.mem (among : Among le rank keys key found) : key ∈ keys := by
  obtain ⟨front, back, split, _, _⟩ := among.first
  rw [split]
  exact List.mem_append_right _ (List.mem_cons_self ..)

/-- A later key that is not greater changes nothing. -/
theorem Among.append (among : Among le rank keys key found) {last : κ}
    (notGreater : ∀ item, rank last = some item → le item found = true) :
    Among le rank (keys ++ [last]) key found := by
  obtain ⟨front, back, split, before, after⟩ := among.first
  refine ⟨among.ranked, front, back ++ [last], ?_, before, ?_⟩
  · rw [split, List.append_assoc, List.cons_append]
  · intro other member item ranked
    rcases List.mem_append.mp member with here | isLast
    · exact after other here item ranked
    · rw [List.mem_singleton.mp isLast] at ranked
      exact notGreater item ranked

theorem among_last {last : κ} (ranked : rank last = some found)
    (above : ∀ other ∈ keys, ∀ item, rank other = some item → le found item = false) :
    Among le rank (keys ++ [last]) last found :=
  ⟨ranked, keys, [], rfl, above, fun _ none => absurd none List.not_mem_nil⟩

variable (total : ∀ left right, le left right = true ∨ le right left = true)

include total

theorem Among.greatest (among : Among le rank keys key found) {other : κ} (listed : other ∈ keys)
    {item : α} (ranked : rank other = some item) : le item found = true := by
  obtain ⟨front, back, split, before, after⟩ := among.first
  rw [split] at listed
  rcases List.mem_append.mp listed with earlier | rest
  · refine (total item found).resolve_right fun back => ?_
    rw [before other earlier item ranked] at back
    cases back
  · rcases List.mem_cons.mp rest with rfl | later
    · obtain rfl := Option.some.inj (ranked.symm.trans among.ranked)
      exact (total item item).elim id id
    · exact after other later item ranked

variable (trans : ∀ left middle right, le left middle = true → le middle right = true →
  le left right = true)

include trans

theorem among_of_pick (picked : pick le (keys.filterMap rank) = some found) :
    ∃ key, Among le rank keys key found := by
  induction keys using List.reverseRecOn generalizing found with
  | nil => cases picked
  | append_singleton keys last ih =>
      rw [List.filterMap_append, List.filterMap_cons, List.filterMap_nil] at picked
      rcases ranked : rank last with _ | item
      · rw [ranked, List.append_nil] at picked
        obtain ⟨key, among⟩ := ih picked
        refine ⟨key, among.append fun item isRanked => ?_⟩
        rw [ranked] at isRanked
        cases isRanked
      · rw [ranked] at picked
        dsimp only at picked
        rw [pick_append] at picked
        rcases kept : pick le (keys.filterMap rank) with _ | greatest
        · rw [kept] at picked
          obtain rfl := Option.some.inj picked
          refine ⟨last, among_last ranked fun other member other' isRanked => ?_⟩
          rw [List.filterMap_eq_nil_iff.mp (pick_eq_none.mp kept) other member] at isRanked
          cases isRanked
        · rw [kept] at picked
          obtain ⟨key, among⟩ := ih kept
          dsimp only at picked
          by_cases below : le item greatest
          · rw [if_pos below] at picked
            obtain rfl := Option.some.inj picked
            refine ⟨key, among.append fun other isRanked => ?_⟩
            obtain rfl := Option.some.inj (ranked.symm.trans isRanked)
            exact below
          · rw [if_neg below] at picked
            obtain rfl := Option.some.inj picked
            -- what is above an earlier item is above the one kept before
            refine ⟨last, among_last ranked fun other member other' isRanked => ?_⟩
            refine Bool.eq_false_iff.mpr fun above => below ?_
            exact trans _ _ _ above (among.greatest total member isRanked)

end

end FirstGreatest
