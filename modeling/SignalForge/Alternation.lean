import Mathlib.Data.List.Basic

/-! Lists that alternate between two values. -/

set_option autoImplicit false

/-- The items at even places are the first value, those at odd places the second. -/
def Alternates {α : Type} (first second : α) (items : List α) : Prop :=
  ∀ place item, items[place]? = some item → item = if place % 2 = 0 then first else second

namespace Alternates

variable {α : Type} {first second : α} {items : List α}

theorem nil : Alternates first second [] := by
  intro place item found
  cases found

theorem concat {item : α} (alternates : Alternates first second items)
    (next : item = if items.length % 2 = 0 then first else second) :
    Alternates first second (items ++ [item]) := by
  intro place other found
  rcases Nat.lt_trichotomy place items.length with inside | rfl | beyond
  · rw [List.getElem?_append_left inside] at found
    exact alternates place other found
  · rw [List.getElem?_concat_length] at found
    rw [← Option.some.inj found, next]
  · have none : (items ++ [item])[place]? = none := by
      apply List.getElem?_eq_none
      rw [List.length_append, List.length_singleton]
      omega
    rw [none] at found
    cases found

end Alternates
