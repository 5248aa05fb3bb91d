import Mathlib.Algebra.BigOperators.Group.Finset.Basic
import SignalForge.OrderedDict

/-! A dictionary of labels beside the dictionary of the members of each label. -/

set_option autoImplicit false

namespace OrderedDict

variable {κ ℓ : Type} [DecidableEq κ] [DecidableEq ℓ]

/-- A key has a label exactly where it is a member under that label. -/
def Inverse (labels : OrderedDict κ ℓ) (members : OrderedDict ℓ (Finset κ)) : Prop :=
  ∀ key label, labels.get? key = some label ↔
    ∃ held, members.get? label = some held ∧ key ∈ held

/-- The members under a label, none where it is absent. -/
def heldAt (members : OrderedDict ℓ (Finset κ)) (label : ℓ) : Finset κ :=
  (members.get? label).getD ∅

omit [DecidableEq κ] in
theorem mem_heldAt (members : OrderedDict ℓ (Finset κ)) (label : ℓ) (key : κ) :
    key ∈ members.heldAt label ↔ ∃ held, members.get? label = some held ∧ key ∈ held := by
  rw [heldAt]
  cases members.get? label with
  | none => simp
  | some held => simp

namespace Inverse

variable {labels : OrderedDict κ ℓ} {members : OrderedDict ℓ (Finset κ)}

/-- No key is a member under two labels. -/
theorem disjoint (inverse : Inverse labels members) {label other : ℓ} (apart : label ≠ other) :
    Disjoint (members.heldAt label) (members.heldAt other) := by
  rw [Finset.disjoint_left]
  intro key here there
  have labelled := (inverse key label).mpr ((mem_heldAt ..).mp here)
  have relabelled := (inverse key other).mpr ((mem_heldAt ..).mp there)
  exact apart (Option.some.inj (labelled.symm.trans relabelled))

theorem biUnion_heldAt (inverse : Inverse labels members) :
    members.keys.toFinset.biUnion members.heldAt = labels.keys.toFinset := by
  ext key
  rw [Finset.mem_biUnion, List.mem_toFinset, mem_keys_iff, Option.isSome_iff_exists]
  constructor
  · rintro ⟨label, _, here⟩
    exact ⟨label, (inverse key label).mpr ((mem_heldAt ..).mp here)⟩
  · rintro ⟨label, labelled⟩
    obtain ⟨held, found, member⟩ := (inverse key label).mp labelled
    refine ⟨label, ?_, (mem_heldAt ..).mpr ⟨held, found, member⟩⟩
    rw [List.mem_toFinset, mem_keys_iff, found]
    rfl

/-- Each key is counted under one label. -/
theorem sum_card_heldAt (inverse : Inverse labels members) :
    ∑ label ∈ members.keys.toFinset, (members.heldAt label).card = labels.length := by
  rw [← Finset.card_biUnion fun label _ other _ apart => inverse.disjoint apart,
    inverse.biUnion_heldAt, List.toFinset_card_of_nodup labels.keys_nodup, keys, List.length_map,
    length]

end Inverse

end OrderedDict
