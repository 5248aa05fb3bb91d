import SignalForge.Call

/-! Lexical scope. A state holds a context that blocks set for their bodies and put back. Such a call
is one that is handed the context it starts in and has nothing but the rest of the state. -/

set_option autoImplicit false

/-- A state with a context in it, and the states in which calls are made. -/
structure Scoping (κ σ τ : Type) where
  context : σ → κ
  rest : σ → τ
  put : κ → σ → σ
  valid : σ → Prop
  context_put : ∀ context' state, context (put context' state) = context'
  rest_put : ∀ context' state, rest (put context' state) = rest state
  valid_put : ∀ context' state, valid state → valid (put context' state)

namespace Call

variable {ε κ σ τ α β : Type}

/-- `with manager: body`, the exit of the manager being told what the body raised. What the exit
raises takes the place of it. -/
def exiting (body : Call ε σ Unit) (exit : Option ε → Call ε σ Unit) : Call ε σ Unit := fun state =>
  match body state with
  | (.ok _, after) => exit none after
  | (.error reason, after) => (exit (some reason) >>= fun _ => raise reason) after

/-- The call does what the lexical one does when handed the context found, and leaves that context. -/
def Scopes (scoping : Scoping κ σ τ) (call : Call ε σ α) (lexical : κ → Call ε τ α) : Prop :=
  ∀ state, scoping.valid state →
    ((call state).1, scoping.rest (call state).2) =
        lexical (scoping.context state) (scoping.rest state) ∧
      scoping.context (call state).2 = scoping.context state ∧ scoping.valid (call state).2

section

variable {scoping : Scoping κ σ τ}

theorem scopes_pure (value : α) :
    Scopes (ε := ε) scoping (pure value) fun _ => pure value :=
  fun _ valid => ⟨rfl, rfl, valid⟩

theorem scopes_raise (reason : ε) :
    Scopes (α := α) scoping (raise reason) fun _ => raise reason :=
  fun _ valid => ⟨rfl, rfl, valid⟩

theorem Scopes.bind {first : Call ε σ α} {next : α → Call ε σ β} {lexical : κ → Call ε τ α}
    {lexicalNext : α → κ → Call ε τ β} (here : Scopes scoping first lexical)
    (later : ∀ value, Scopes scoping (next value) (lexicalNext value)) :
    Scopes scoping (first >>= next)
      fun context => lexical context >>= fun value => lexicalNext value context := by
  intro state valid
  dsimp only
  obtain ⟨same, kept, still⟩ := here state valid
  rcases outcome : first state with ⟨reason | value, between⟩
  · rw [outcome] at same kept still
    rw [bind_of_error outcome, bind_of_error same.symm]
    exact ⟨rfl, kept, still⟩
  · rw [outcome] at same kept still
    rw [bind_of_ok outcome, bind_of_ok same.symm]
    obtain ⟨sameNext, keptNext, stillNext⟩ := later value between still
    rw [kept] at sameNext keptNext
    exact ⟨sameNext, keptNext, stillNext⟩

theorem Scopes.catching {call : Call ε σ α} {handler : ε → Call ε σ α} {lexical : κ → Call ε τ α}
    {lexicalHandler : ε → κ → Call ε τ α} (here : Scopes scoping call lexical)
    (handled : ∀ reason, Scopes scoping (handler reason) (lexicalHandler reason)) :
    Scopes scoping (Call.catching call handler)
      fun context => Call.catching (lexical context) fun reason => lexicalHandler reason context := by
  intro state valid
  dsimp only
  obtain ⟨same, kept, still⟩ := here state valid
  rcases outcome : call state with ⟨reason | value, between⟩
  · rw [outcome] at same kept still
    rw [catching_of_error outcome, catching_of_error same.symm]
    obtain ⟨sameHandler, keptHandler, stillHandler⟩ := handled reason between still
    rw [kept] at sameHandler keptHandler
    exact ⟨sameHandler, keptHandler, stillHandler⟩
  · rw [outcome] at same kept still
    rw [catching_of_ok outcome, catching_of_ok same.symm]
    exact ⟨rfl, kept, still⟩

theorem exiting_of_ok {body : Call ε σ Unit} {state after : σ}
    (returned : body state = (.ok (), after)) (exit : Option ε → Call ε σ Unit) :
    exiting body exit state = exit none after := by
  simp only [exiting, returned]

theorem exiting_of_error {body : Call ε σ Unit} {state after : σ} {reason : ε}
    (failed : body state = (.error reason, after)) (exit : Option ε → Call ε σ Unit) :
    exiting body exit state = (exit (some reason) >>= fun _ => raise reason) after := by
  simp only [exiting, failed]

theorem Scopes.exiting {body : Call ε σ Unit} {exit : Option ε → Call ε σ Unit}
    {lexical : κ → Call ε τ Unit} {lexicalExit : Option ε → κ → Call ε τ Unit}
    (here : Scopes scoping body lexical)
    (left : ∀ reason?, Scopes scoping (exit reason?) (lexicalExit reason?)) :
    Scopes scoping (Call.exiting body exit)
      fun context => Call.exiting (lexical context) fun reason? => lexicalExit reason? context := by
  intro state valid
  dsimp only
  obtain ⟨same, kept, still⟩ := here state valid
  rcases outcome : body state with ⟨reason | _, between⟩
  · rw [outcome] at same kept still
    rw [exiting_of_error outcome, exiting_of_error same.symm]
    obtain ⟨sameExit, keptExit, stillExit⟩ :=
      (left (some reason)).bind (fun _ => scopes_raise reason) between still
    rw [kept] at sameExit keptExit
    exact ⟨sameExit, keptExit, stillExit⟩
  · rw [outcome] at same kept still
    rw [exiting_of_ok outcome, exiting_of_ok same.symm]
    obtain ⟨sameExit, keptExit, stillExit⟩ := left none between still
    rw [kept] at sameExit keptExit
    exact ⟨sameExit, keptExit, stillExit⟩

/-- An exit that always returns and then writes writes behind the block, however it was left. -/
theorem exiting_write {body : Call ε σ Unit} {exit : Option ε → Call ε σ Unit}
    (returns : ∀ reason? state, (exit reason?).Returns state) (update : σ → σ) (state : σ) :
    exiting body (fun reason? => exit reason? >>= fun _ => write update) state =
      ((exiting body exit state).1, update (exiting body exit state).2) := by
  rcases outcome : body state with ⟨reason | _, between⟩
  · obtain ⟨_, after, left⟩ := returns (some reason) between
    rw [exiting_of_error outcome, exiting_of_error outcome, bind_assoc, bind_of_ok left,
      bind_of_ok left]
    rfl
  · obtain ⟨_, after, left⟩ := returns none between
    rw [exiting_of_ok outcome, exiting_of_ok outcome, bind_of_ok left, left]
    rfl

/-- What is written in the end after the second of two parts is written after both where the first
returns. -/
theorem bind_ensuring_write (update : σ → σ) {first : Call ε σ α} {next closed : α → Call ε σ β}
    {state : σ} (returns : first.Returns state)
    (closes : ∀ value between, closed value between =
      ((next value between).1, update (next value between).2)) :
    (first >>= closed) state =
      (((first >>= next) state).1, update ((first >>= next) state).2) := by
  obtain ⟨value, between, returned⟩ := returns
  rw [bind_of_ok returned, bind_of_ok returned, closes]

/-- A block: from the context it enters its body runs, and the context it found is put back. -/
theorem Scopes.within {body : Call ε σ α} {lexical : κ → Call ε τ α} {enter : σ → σ}
    {entering : κ → τ → κ × τ} (here : Scopes scoping body lexical)
    (entered : ∀ state,
      (scoping.context (enter state), scoping.rest (enter state)) =
        entering (scoping.context state) (scoping.rest state))
    (valid_enter : ∀ state, scoping.valid state → scoping.valid (enter state)) :
    Scopes scoping
      (fun state =>
        ((body (enter state)).1, scoping.put (scoping.context state) (body (enter state)).2))
      fun context => Call.total (entering context) >>= lexical := by
  intro state valid
  obtain ⟨same, -, still⟩ := here (enter state) (valid_enter state valid)
  refine ⟨?_, scoping.context_put _ _, scoping.valid_put _ _ still⟩
  dsimp only
  rw [bind_of_ok (Call.total_apply _ _), ← entered state, ← same, scoping.rest_put]

end

end Call
