import SignalForge.Call

/-! Runs of calls that go on whether a call returns or raises, and what steps that touch only
their own part of the state can tell each other. -/

set_option autoImplicit false

namespace Call

variable {ε σ α β : Type}

/-- `try: call except: ...`, with what the call came to. -/
def attempt (call : Call ε σ α) : Call ε σ (Except ε α) := fun state =>
  (.ok (call state).1, (call state).2)

@[simp] theorem attempt_apply (call : Call ε σ α) (state : σ) :
    attempt call state = (.ok (call state).1, (call state).2) := rfl

/-- Each item's call in turn, with what it came to, each followed by the next. -/
def outcomes {ι : Type} (step : ι → Call ε σ α) : List ι → σ → List (ι × Except ε α) × σ
  | [], state => ([], state)
  | item :: rest, state =>
      let here := step item state
      let later := outcomes step rest here.2
      ((item, here.1) :: later.1, later.2)

theorem outcomes_concat {ι : Type} (step : ι → Call ε σ α) (items : List ι) (item : ι) (state : σ) :
    outcomes step (items ++ [item]) state =
      let before := outcomes step items state
      (before.1 ++ [(item, (step item before.2).1)], (step item before.2).2) := by
  induction items generalizing state with
  | nil => rfl
  | cons first rest ih => simp only [outcomes, List.cons_append, ih]

/-- In either mode, a guarded call that returned did so itself, or raised and was replaced. -/
theorem guarded_ok {strict : Bool} {fallback value : α} {call : Call ε σ α} {state after : σ}
    (returned : guarded strict fallback call state = (.ok value, after)) :
    call state = (.ok value, after) ∨
      (∃ reason, call state = (.error reason, after)) ∧ value = fallback := by
  rcases outcome : call state with ⟨reason | result, between⟩
  · rw [guarded, catching_of_error outcome] at returned
    cases strict <;> cases returned
    exact Or.inr ⟨⟨reason, rfl⟩, rfl⟩
  · rw [guarded, catching_of_ok outcome] at returned
    exact Or.inl returned

/-- Guarding changes what a call comes to, not what it leaves. -/
theorem guarded_snd (strict : Bool) (fallback : α) (call : Call ε σ α) (state : σ) :
    (guarded strict fallback call state).2 = (call state).2 := by
  rcases outcome : call state with ⟨reason | value, after⟩
  · rw [guarded, catching_of_error outcome]
    cases strict <;> rfl
  · rw [guarded, catching_of_ok outcome]

theorem Keeps.guarded {property : σ → Prop} {call : Call ε σ α} (keeps : Keeps property call)
    (strict : Bool) (fallback : α) : Keeps property (Call.guarded strict fallback call) := by
  intro state holds
  rw [guarded_snd]
  exact keeps state holds

/-- What the call comes to, and what it leaves for the view, depend on nothing but the view. -/
def Factors {τ : Type} (view : σ → τ) (call : Call ε σ α) : Prop :=
  ∀ left right, view left = view right →
    (call left).1 = (call right).1 ∧ view (call left).2 = view (call right).2

section Rules

variable {τ : Type} {view : σ → τ}

theorem Factors.bind {first : Call ε σ α} {next : α → Call ε σ β} (here : Factors view first)
    (later : ∀ value, Factors view (next value)) : Factors view (first >>= next) := by
  intro left right same
  obtain ⟨sameResult, sameLeft⟩ := here left right same
  rcases onLeft : first left with ⟨reason | value, between⟩ <;>
    rcases onRight : first right with ⟨otherReason | otherValue, otherBetween⟩ <;>
    rw [onLeft, onRight] at sameResult sameLeft
  · cases sameResult
    rw [bind_of_error onLeft, bind_of_error onRight]
    exact ⟨rfl, sameLeft⟩
  · cases sameResult
  · cases sameResult
  · cases sameResult
    rw [bind_of_ok onLeft, bind_of_ok onRight]
    exact later value between otherBetween sameLeft

theorem factors_pure (value : α) : Factors view (pure value : Call ε σ α) :=
  fun _ _ same => ⟨rfl, same⟩

theorem factors_raise (reason : ε) : Factors view (raise reason : Call ε σ α) :=
  fun _ _ same => ⟨rfl, same⟩

theorem factors_lift (result : Except ε α) : Factors view (lift result : Call ε σ α) :=
  fun _ _ same => ⟨rfl, same⟩

theorem factors_read {shown : σ → α} (seen : ∀ left right, view left = view right →
    shown left = shown right) : Factors view (read shown : Call ε σ α) := by
  intro left right same
  simp only [read_apply, seen left right same, same, and_self]

theorem factors_write {update : σ → σ} (kept : ∀ left right, view left = view right →
    view (update left) = view (update right)) : Factors view (write update : Call ε σ Unit) :=
  fun left right same => ⟨rfl, kept left right same⟩

theorem Factors.attempt {call : Call ε σ α} (here : Factors view call) :
    Factors view (Call.attempt call) := by
  intro left right same
  obtain ⟨sameResult, sameLeft⟩ := here left right same
  simp only [attempt_apply, sameResult, sameLeft, and_self]

theorem frames_write {update : σ → σ} (kept : ∀ state, view (update state) = view state) :
    Frames view (write update : Call ε σ Unit) := kept

theorem Frames.attempt {call : Call ε σ α} (here : Frames view call) :
    Frames view (Call.attempt call) := here

theorem Frames.guarded {call : Call ε σ α} (frames : Frames view call) (strict : Bool)
    (fallback : α) : Frames view (Call.guarded strict fallback call) := by
  intro state
  rw [guarded_snd]
  exact frames state

/-- What a framing call leaves, where it returned. -/
theorem Frames.of_ok {call : Call ε σ α} (frames : Frames view call) {state after : σ} {value : α}
    (returned : call state = (.ok value, after)) : view after = view state := by
  have kept := frames state
  rwa [returned] at kept

/-- A call on a component, in a view that shows of the component what the inner view does. -/
theorem Factors.zoom {ω υ : Type} {inner : σ → τ} {shown : ω → υ} {part : ω → σ} {put : ω → σ → ω}
    {call : Call ε σ α} (here : Factors inner call)
    (seen : ∀ left right, shown left = shown right → inner (part left) = inner (part right))
    (kept : ∀ left right, shown left = shown right → ∀ after other, inner after = inner other →
      shown (put left after) = shown (put right other)) :
    Factors shown (Call.zoom part put call) := by
  intro left right same
  obtain ⟨sameResult, sameLeft⟩ := here _ _ (seen left right same)
  exact ⟨sameResult, kept left right same _ _ sameLeft⟩

theorem Frames.zoom {ω υ : Type} {inner : σ → τ} {shown : ω → υ} {part : ω → σ} {put : ω → σ → ω}
    {call : Call ε σ α} (here : Frames inner call)
    (kept : ∀ state after, inner after = inner (part state) →
      shown (put state after) = shown state) :
    Frames shown (Call.zoom part put call) := fun state => kept state _ (here (part state))

end Rules

/-- The call is about one part of the state: it depends on no other and changes no other. -/
structure Owned {κ τ : Type} (view : κ → σ → τ) (key : κ) (call : Call ε σ α) : Prop where
  frames : ∀ other, other ≠ key → Frames (view other) call
  factors : Factors (view key) call

section Owned

variable {κ τ : Type} {view : κ → σ → τ} {key : κ}

theorem Owned.bind {first : Call ε σ α} {next : α → Call ε σ β} (here : Owned view key first)
    (later : ∀ value, Owned view key (next value)) : Owned view key (first >>= next) where
  frames other apart := (here.frames other apart).bind fun value => (later value).frames other apart
  factors := here.factors.bind fun value => (later value).factors

theorem owned_pure (value : α) : Owned view key (pure value : Call ε σ α) :=
  ⟨fun _ _ => frames_pure value, factors_pure value⟩

theorem owned_raise (reason : ε) : Owned view key (raise reason : Call ε σ α) :=
  ⟨fun _ _ => frames_raise reason, factors_raise reason⟩

theorem owned_lift (result : Except ε α) : Owned view key (lift result : Call ε σ α) :=
  ⟨fun _ _ => frames_lift result, factors_lift result⟩

theorem owned_read {shown : σ → α} (seen : ∀ left right, view key left = view key right →
    shown left = shown right) : Owned view key (read shown : Call ε σ α) :=
  ⟨fun _ _ => frames_read shown, factors_read seen⟩

theorem owned_write {update : σ → σ}
    (frames : ∀ other, other ≠ key → ∀ state, view other (update state) = view other state)
    (kept : ∀ left right, view key left = view key right →
      view key (update left) = view key (update right)) :
    Owned view key (write update : Call ε σ Unit) :=
  ⟨fun other apart => frames_write (frames other apart), factors_write kept⟩

theorem Owned.attempt {call : Call ε σ α} (here : Owned view key call) :
    Owned view key (Call.attempt call) :=
  ⟨fun other apart => (here.frames other apart).attempt, here.factors.attempt⟩

/-- A call on a component, in views that show of the component what its own views do. -/
theorem Owned.zoom {ω υ : Type} {inner : κ → σ → τ} {shown : κ → ω → υ} {part : ω → σ}
    {put : ω → σ → ω} {call : Call ε σ α} (here : Owned inner key call)
    (seen : ∀ left right, shown key left = shown key right →
      inner key (part left) = inner key (part right))
    (kept : ∀ other left right, shown other left = shown other right → ∀ after final,
      inner other after = inner other final →
        shown other (put left after) = shown other (put right final))
    (same : ∀ state, put state (part state) = state) :
    Owned shown key (Call.zoom part put call) where
  frames other apart := by
    refine (here.frames other apart).zoom fun state after unchanged => ?_
    rw [kept other state state rfl after (part state) unchanged, same]
  factors := here.factors.zoom seen (kept key)

end Owned

section Unwinding

variable {ι κ τ : Type} [DecidableEq κ] {step : ι → Call ε σ α} {view : κ → σ → τ} {route : ι → κ}

/-- Where every step is about its own key, a key's steps come to what they come to in the run of
that key's steps alone. -/
theorem outcomes_own (owned : ∀ item, Owned view (route item) (step item)) (key : κ)
    (items : List ι) {left right : σ} (same : view key left = view key right) :
    (outcomes step items left).1.filter (fun outcome => route outcome.1 = key) =
        (outcomes step (items.filter fun item => route item = key) right).1 ∧
      view key (outcomes step items left).2 =
        view key (outcomes step (items.filter fun item => route item = key) right).2 := by
  induction items generalizing left right with
  | nil => exact ⟨rfl, same⟩
  | cons item rest ih =>
      by_cases mine : route item = key
      · have factors : Factors (view key) (step item) := mine ▸ (owned item).factors
        obtain ⟨sameResult, sameLeft⟩ := factors left right same
        obtain ⟨laterOutcomes, laterView⟩ := ih sameLeft
        rw [List.filter_cons_of_pos (by simpa using mine)]
        simp only [outcomes, List.filter_cons, mine, decide_true, ↓reduceIte, sameResult,
          laterOutcomes, true_and]
        exact laterView
      · have frames := (owned item).frames key (Ne.symm mine)
        rw [List.filter_cons_of_neg (by simpa using mine)]
        simp only [outcomes, List.filter_cons, mine, decide_false, Bool.false_eq_true, ↓reduceIte]
        exact ih ((frames left).trans same)

/-- Two runs with the same steps of a key come to the same for them, whatever else was run. -/
theorem outcomes_isolated (owned : ∀ item, Owned view (route item) (step item)) {key : κ}
    {items others : List ι} (sameOwn : (items.filter fun item => route item = key) =
      others.filter fun item => route item = key) (state : σ) :
    (outcomes step items state).1.filter (fun outcome => route outcome.1 = key) =
        (outcomes step others state).1.filter (fun outcome => route outcome.1 = key) ∧
      view key (outcomes step items state).2 = view key (outcomes step others state).2 := by
  obtain ⟨oneOutcomes, oneView⟩ :=
    outcomes_own owned key items (rfl : view key state = view key state)
  obtain ⟨otherOutcomes, otherView⟩ :=
    outcomes_own owned key others (rfl : view key state = view key state)
  rw [oneOutcomes, oneView, otherOutcomes, otherView, sameOwn]
  exact ⟨rfl, rfl⟩

end Unwinding

end Call
