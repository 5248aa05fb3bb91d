import SignalForge.Unwinding

/-! Two runs side by side: calls on two states that come to related results and leave related
states wherever they start from related ones. -/

set_option autoImplicit false

namespace Call

variable {ε σ τ α β : Type}

/-- Both returned values in the relation, or both raised the same. -/
def Matched (values : α → β → Prop) : Except ε α → Except ε β → Prop
  | .ok left, .ok right => values left right
  | .error left, .error right => left = right
  | _, _ => False

def Couples (states : σ → τ → Prop) (values : α → β → Prop) (left : Call ε σ α)
    (right : Call ε τ β) : Prop :=
  ∀ here there, states here there →
    Matched values (left here).1 (right there).1 ∧ states (left here).2 (right there).2

theorem matched_eq {left right : Except ε α} : Matched Eq left right ↔ left = right := by
  rcases left with _ | _ <;> rcases right with _ | _ <;> simp [Matched]

theorem Matched.mono {values weaker : α → β → Prop} {left : Except ε α} {right : Except ε β}
    (matched : Matched values left right) (implies : ∀ one other, values one other →
      weaker one other) : Matched weaker left right := by
  rcases left with reason | one <;> rcases right with otherReason | other
  · exact matched
  · exact matched
  · exact matched
  · exact implies one other matched

/-- A call depends on nothing but a view exactly where it is coupled with itself by the view. -/
theorem factors_iff_couples {υ : Type} {view : σ → υ} {call : Call ε σ α} :
    Factors view call ↔ Couples (fun left right => view left = view right) Eq call call := by
  refine forall₃_congr fun left right same => ?_
  rw [matched_eq]

section Rules

variable {states : σ → τ → Prop} {values : α → β → Prop}

theorem Couples.mono {weaker : α → β → Prop} {left : Call ε σ α} {right : Call ε τ β}
    (coupled : Couples states values left right)
    (implies : ∀ one other, values one other → weaker one other) :
    Couples states weaker left right := fun here there related =>
  ⟨(coupled here there related).1.mono implies, (coupled here there related).2⟩

theorem couples_pure {left : α} {right : β} (related : values left right) :
    Couples states values (pure left : Call ε σ α) (pure right : Call ε τ β) :=
  fun _ _ same => ⟨related, same⟩

theorem couples_raise (reason : ε) :
    Couples states values (raise reason : Call ε σ α) (raise reason : Call ε τ β) :=
  fun _ _ same => ⟨rfl, same⟩

theorem couples_lift {left : Except ε α} {right : Except ε β} (related : Matched values left right) :
    Couples states values (lift left : Call ε σ α) (lift right : Call ε τ β) :=
  fun _ _ same => ⟨related, same⟩

theorem couples_read {left : σ → α} {right : τ → β}
    (related : ∀ here there, states here there → values (left here) (right there)) :
    Couples states values (read left : Call ε σ α) (read right : Call ε τ β) :=
  fun here there same => ⟨related here there same, same⟩

theorem couples_write {left : σ → σ} {right : τ → τ}
    (related : ∀ here there, states here there → states (left here) (right there)) :
    Couples states (fun _ _ => True) (write left : Call ε σ Unit) (write right : Call ε τ Unit) :=
  fun here there same => ⟨trivial, related here there same⟩

theorem couples_total {left : σ → α × σ} {right : τ → β × τ}
    (related : ∀ here there, states here there →
      values (left here).1 (right there).1 ∧ states (left here).2 (right there).2) :
    Couples states values (total left : Call ε σ α) (total right : Call ε τ β) :=
  related

theorem Couples.bind {α' β' : Type} {later : α' → β' → Prop} {left : Call ε σ α}
    {right : Call ε τ β} {leftNext : α → Call ε σ α'} {rightNext : β → Call ε τ β'}
    (first : Couples states values left right)
    (next : ∀ one other, values one other →
      Couples states later (leftNext one) (rightNext other)) :
    Couples states later (left >>= leftNext) (right >>= rightNext) := by
  intro here there related
  obtain ⟨matched, between⟩ := first here there related
  rcases onLeft : left here with ⟨reason | one, after⟩ <;>
    rcases onRight : right there with ⟨otherReason | other, otherAfter⟩ <;>
    rw [onLeft, onRight] at matched between
  · rw [bind_of_error onLeft, bind_of_error onRight]
    exact ⟨matched, between⟩
  · exact matched.elim
  · exact matched.elim
  · rw [bind_of_ok onLeft, bind_of_ok onRight]
    exact next one other matched after otherAfter between

/-- What either call raises is caught, and what stands in for them is related. -/
theorem Couples.guarded {left : Call ε σ α} {right : Call ε τ β}
    (coupled : Couples states values left right) (strict : Bool) {fallback : α} {other : β}
    (related : values fallback other) :
    Couples states values (Call.guarded strict fallback left)
      (Call.guarded strict other right) := by
  intro here there same
  obtain ⟨matched, between⟩ := coupled here there same
  rcases onLeft : left here with ⟨reason | one, after⟩ <;>
    rcases onRight : right there with ⟨otherReason | two, otherAfter⟩ <;>
    rw [onLeft, onRight] at matched between
  · rw [Call.guarded, catching_of_error onLeft, Call.guarded, catching_of_error onRight]
    cases strict
    · exact ⟨related, between⟩
    · exact ⟨matched, between⟩
  · exact matched.elim
  · exact matched.elim
  · rw [Call.guarded, catching_of_ok onLeft, Call.guarded, catching_of_ok onRight]
    exact ⟨matched, between⟩

/-- Calls on components, between states that agree on the components as the calls do. -/
theorem Couples.zoom {ω ω' : Type} {whole : ω → ω' → Prop} {left : Call ε σ α}
    {right : Call ε τ β} {view : ω → σ} {put : ω → σ → ω} {view' : ω' → τ} {put' : ω' → τ → ω'}
    (coupled : Couples states values left right)
    (seen : ∀ here there, whole here there → states (view here) (view' there))
    (kept : ∀ here there, whole here there → ∀ after after', states after after' →
      whole (put here after) (put' there after')) :
    Couples whole values (Call.zoom view put left) (Call.zoom view' put' right) := by
  intro here there related
  obtain ⟨matched, between⟩ := coupled _ _ (seen here there related)
  exact ⟨matched, kept here there related _ _ between⟩

/-- A call that always returns and leaves the relation as it is may run on one side alone. -/
theorem couples_of_returns {left : Call ε σ α} {value : β}
    (returns : ∀ here there, states here there → ∃ one after, left here = (.ok one, after) ∧
      values one value ∧ states after there) :
    Couples states values left (pure value : Call ε τ β) := by
  intro here there related
  obtain ⟨one, after, returned, same, kept⟩ := returns here there related
  rw [returned]
  exact ⟨same, kept⟩

end Rules

end Call
