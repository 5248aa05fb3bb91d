/-! Calls on a mutable state that may raise. The state a call leaves behind is kept
whether it returns or raises, so what a raising call has already written stays written. -/

set_option autoImplicit false

def Call (ε σ α : Type) : Type := σ → Except ε α × σ

namespace Call

variable {ε σ α β : Type}

def ret (value : α) : Call ε σ α := fun state => (.ok value, state)

def raise (reason : ε) : Call ε σ α := fun state => (.error reason, state)

def bind (first : Call ε σ α) (next : α → Call ε σ β) : Call ε σ β := fun state =>
  match first state with
  | (.ok value, after) => next value after
  | (.error reason, after) => (.error reason, after)

instance : Monad (Call ε σ) where
  pure := ret
  bind := bind

def read (view : σ → α) : Call ε σ α := fun state => (.ok (view state), state)

def write (update : σ → σ) : Call ε σ Unit := fun state => (.ok (), update state)

/-- A computation that reads and writes nothing. -/
def lift (result : Except ε α) : Call ε σ α := fun state => (result, state)

/-- A computation that always returns. -/
def total (step : σ → α × σ) : Call ε σ α := fun state => (.ok (step state).1, (step state).2)

/-- `try: call except: handler`. The handler sees what the call left behind. -/
def catching (call : Call ε σ α) (handler : ε → Call ε σ α) : Call ε σ α := fun state =>
  match call state with
  | (.ok value, after) => (.ok value, after)
  | (.error reason, after) => handler reason after

/-- `try: call except Exception: if strict: raise`, with what stands in for a failed call. -/
def guarded (strict : Bool) (fallback : α) (call : Call ε σ α) : Call ε σ α :=
  catching call fun reason => if strict then raise reason else ret fallback

/-- `try: call finally: cleanup`. What the cleanup raises takes the place of the outcome. -/
def ensuring (call : Call ε σ α) (cleanup : Call ε σ Unit) : Call ε σ α := fun state =>
  match cleanup (call state).2 with
  | (.ok _, after) => ((call state).1, after)
  | (.error reason, after) => (.error reason, after)

/-- A call on one component of a larger state. -/
def zoom {τ : Type} (view : τ → σ) (put : τ → σ → τ) (call : Call ε σ α) : Call ε τ α :=
  fun state => ((call (view state)).1, put state (call (view state)).2)

@[simp] theorem pure_apply (value : α) (state : σ) :
    (pure value : Call ε σ α) state = (.ok value, state) := rfl

@[simp] theorem raise_apply (reason : ε) (state : σ) :
    (raise reason : Call ε σ α) state = (.error reason, state) := rfl

@[simp] theorem read_apply (view : σ → α) (state : σ) :
    (read view : Call ε σ α) state = (.ok (view state), state) := rfl

@[simp] theorem write_apply (update : σ → σ) (state : σ) :
    (write update : Call ε σ Unit) state = (.ok (), update state) := rfl

@[simp] theorem lift_apply (result : Except ε α) (state : σ) :
    (lift result : Call ε σ α) state = (result, state) := rfl

@[simp] theorem total_apply (step : σ → α × σ) (state : σ) :
    (total step : Call ε σ α) state = (.ok (step state).1, (step state).2) := rfl

@[simp] theorem ensuring_write (call : Call ε σ α) (update : σ → σ) (state : σ) :
    (ensuring call (write update)) state = ((call state).1, update (call state).2) := rfl

theorem zoom_eq_ok {τ : Type} {view : τ → σ} {put : τ → σ → τ} {call : Call ε σ α}
    {state after : τ} {value : α} :
    zoom view put call state = (.ok value, after) ↔
      ∃ inner, call (view state) = (.ok value, inner) ∧ put state inner = after := by
  rcases outcome : call (view state) with ⟨result, inner⟩
  simp only [zoom, outcome, Prod.mk.injEq]
  constructor
  · rintro ⟨rfl, rfl⟩
    exact ⟨inner, ⟨rfl, rfl⟩, rfl⟩
  · rintro ⟨_, ⟨rfl, rfl⟩, rfl⟩
    exact ⟨rfl, rfl⟩

theorem bind_apply (first : Call ε σ α) (next : α → Call ε σ β) (state : σ) :
    (first >>= next) state = match first state with
      | (.ok value, after) => next value after
      | (.error reason, after) => (.error reason, after) := rfl

theorem bind_of_ok {first : Call ε σ α} {state after : σ} {value : α}
    (success : first state = (.ok value, after)) (next : α → Call ε σ β) :
    (first >>= next) state = next value after := by
  simp only [bind_apply, success]

theorem bind_of_error {first : Call ε σ α} {state after : σ} {reason : ε}
    (failed : first state = (.error reason, after)) (next : α → Call ε σ β) :
    (first >>= next) state = (.error reason, after) := by
  simp only [bind_apply, failed]

theorem bind_lift_of_ok {result : Except ε α} {value : α} (success : result = .ok value)
    (next : α → Call ε σ β) (state : σ) : (lift result >>= next) state = next value state := by
  rw [success]
  rfl

theorem bind_lift_of_error {result : Except ε α} {reason : ε} (failed : result = .error reason)
    (next : α → Call ε σ β) (state : σ) :
    (lift result >>= next) state = (.error reason, state) := by
  rw [failed]
  rfl

theorem bind_assoc {γ : Type} (first : Call ε σ α) (next : α → Call ε σ β)
    (last : β → Call ε σ γ) :
    (first >>= next) >>= last = first >>= fun value => next value >>= last := by
  funext state
  simp only [bind_apply]
  rcases first state with ⟨_ | value, between⟩ <;> rfl

theorem pure_bind (value : α) (next : α → Call ε σ β) : (pure value >>= next) = next value := rfl

/-- A sequence returns exactly when both parts do, the second from what the first left. -/
theorem bind_eq_ok {first : Call ε σ α} {next : α → Call ε σ β} {state final : σ} {result : β} :
    (first >>= next) state = (.ok result, final) ↔
      ∃ value between, first state = (.ok value, between) ∧
        next value between = (.ok result, final) := by
  rw [bind_apply]
  rcases outcome : first state with ⟨_ | value, between⟩
  · simp only [Prod.mk.injEq, reduceCtorEq, false_and, exists_false]
  · constructor
    · exact fun returned => ⟨value, between, rfl, returned⟩
    · rintro ⟨_, _, same, returned⟩
      simp only [Prod.mk.injEq, Except.ok.injEq] at same
      obtain ⟨rfl, rfl⟩ := same
      exact returned

/-- The call returns from the state instead of raising. -/
def Returns (call : Call ε σ α) (state : σ) : Prop := ∃ value after, call state = (.ok value, after)

/-- What does not hold holds wherever the call raises only if it does not raise. -/
theorem forall_raises_iff {call : Call ε σ α} {state : σ} {property : Prop} (fails : ¬ property) :
    (∀ reason, (call state).1 = .error reason → property) ↔ call.Returns state := by
  rcases outcome : call state with ⟨reason | value, after⟩
  · refine iff_of_false (fun all => fails (all reason rfl)) ?_
    rintro ⟨value, _, returned⟩
    rw [outcome] at returned
    cases returned
  · exact iff_of_true (fun _ failed => by cases failed) ⟨value, after, outcome⟩

theorem returns_bind {first : Call ε σ α} {next : α → Call ε σ β} {state : σ} :
    (first >>= next).Returns state ↔
      ∃ value between, first state = (.ok value, between) ∧ (next value).Returns between := by
  constructor
  · rintro ⟨result, after, finished⟩
    obtain ⟨value, between, returned, later⟩ := bind_eq_ok.mp finished
    exact ⟨value, between, returned, result, after, later⟩
  · rintro ⟨value, between, returned, result, after, later⟩
    exact ⟨result, after, bind_eq_ok.mpr ⟨value, between, returned, later⟩⟩

theorem Returns.bind {first : Call ε σ α} {next : α → Call ε σ β} {state : σ}
    (here : first.Returns state)
    (later : ∀ value between, first state = (.ok value, between) → (next value).Returns between) :
    (first >>= next).Returns state := by
  obtain ⟨value, between, returned⟩ := here
  exact returns_bind.mpr ⟨value, between, returned, later value between returned⟩

/-- What follows a call that returned decides whether the sequence does. -/
theorem returns_bind_of_ok {first : Call ε σ α} {next : α → Call ε σ β} {state between : σ}
    {value : α} (success : first state = (.ok value, between)) :
    (first >>= next).Returns state ↔ (next value).Returns between := by
  rw [Returns, bind_of_ok success, Returns]

/-- A sequence whose later part always returns raises only where the first part does. -/
theorem returns_bind_of_total {first : Call ε σ α} {next : α → Call ε σ β} {state : σ}
    (later : ∀ value between, (next value).Returns between) :
    (first >>= next).Returns state ↔ first.Returns state := by
  constructor
  · intro returned
    obtain ⟨value, between, here, _⟩ := returns_bind.mp returned
    exact ⟨value, between, here⟩
  · exact fun here => here.bind fun value between _ => later value between

theorem returns_lift_bind {result : Except ε α} {next : α → Call ε σ β} {state : σ} :
    (lift result >>= next).Returns state ↔ ∃ value, result = .ok value ∧ (next value).Returns state := by
  rw [returns_bind]
  constructor
  · rintro ⟨value, _, same, later⟩
    cases same
    exact ⟨value, rfl, later⟩
  · rintro ⟨value, rfl, later⟩
    exact ⟨value, state, rfl, later⟩

theorem returns_pure (value : α) (state : σ) : (pure value : Call ε σ α).Returns state :=
  ⟨value, state, rfl⟩

theorem Returns.bind_read {view : σ → α} {next : α → Call ε σ β} {state : σ}
    (later : (next (view state)).Returns state) : (read view >>= next).Returns state := later

theorem Returns.bind_write {update : σ → σ} {next : Unit → Call ε σ β} {state : σ}
    (later : (next ()).Returns (update state)) : (write update >>= next).Returns state := later

theorem Returns.bind_lift {result : Except ε α} {value : α} {next : α → Call ε σ β} {state : σ}
    (success : result = .ok value) (later : (next value).Returns state) :
    (lift result >>= next).Returns state := by
  rw [success]
  exact later

theorem catching_of_ok {call : Call ε σ α} {state after : σ} {value : α}
    (success : call state = (.ok value, after)) (handler : ε → Call ε σ α) :
    catching call handler state = (.ok value, after) := by
  simp only [catching, success]

theorem catching_of_error {call : Call ε σ α} {state after : σ} {reason : ε}
    (failed : call state = (.error reason, after)) (handler : ε → Call ε σ α) :
    catching call handler state = handler reason after := by
  simp only [catching, failed]

/-- A guarded call outside strict mode returns whatever happens. -/
theorem guarded_returns (fallback : α) (call : Call ε σ α) (state : σ) :
    (guarded false fallback call).Returns state := by
  rcases outcome : call state with ⟨reason | value, after⟩
  · exact ⟨fallback, after, by rw [guarded, catching_of_error outcome]; rfl⟩
  · exact ⟨value, after, by rw [guarded, catching_of_ok outcome]⟩

/-- A guarded call that returned did so itself, or raised and was replaced. -/
theorem guarded_eq_ok {fallback value : α} {call : Call ε σ α} {state after : σ}
    (returned : guarded false fallback call state = (.ok value, after)) :
    call state = (.ok value, after) ∨ value = fallback := by
  rcases outcome : call state with ⟨reason | result, between⟩
  · rw [guarded, catching_of_error outcome] at returned
    cases returned
    exact Or.inr rfl
  · rw [guarded, catching_of_ok outcome] at returned
    exact Or.inl returned

theorem returns_zoom {τ : Type} {call : Call ε σ α} {view : τ → σ} {put : τ → σ → τ} {state : τ} :
    (zoom view put call).Returns state ↔ call.Returns (view state) := by
  constructor
  · rintro ⟨value, after, returned⟩
    obtain ⟨inner, here, _⟩ := zoom_eq_ok.mp returned
    exact ⟨value, inner, here⟩
  · rintro ⟨value, inner, here⟩
    exact ⟨value, put state inner, zoom_eq_ok.mpr ⟨inner, here, rfl⟩⟩

/-- The items a call returns; none where it raises. -/
def answered (call : Call ε σ (List α)) (state : σ) : List α :=
  match (call state).1 with
  | .ok items => items
  | .error _ => []

theorem of_mem_answered {call : Call ε σ (List α)} {state : σ} {item : α}
    (member : item ∈ answered call state) :
    ∃ items after, call state = (.ok items, after) ∧ item ∈ items := by
  rw [answered] at member
  rcases outcome : call state with ⟨reason | items, after⟩
  · rw [outcome] at member
    cases member
  · rw [outcome] at member
    exact ⟨items, after, rfl, member⟩

/-- Guarded outside strict mode, a call's items are those it answers with. -/
theorem guarded_apply (call : Call ε σ (List α)) (state : σ) :
    guarded false [] call state = (.ok (answered call state), (call state).2) := by
  rw [answered]
  rcases outcome : call state with ⟨reason | items, after⟩
  · rw [guarded, catching_of_error outcome]
    rfl
  · rw [guarded, catching_of_ok outcome]

/-- Whatever the call returns has the property. -/
def Yields (property : α → Prop) (call : Call ε σ α) : Prop :=
  ∀ state value after, call state = (.ok value, after) → property value

theorem yields_pure {property : α → Prop} {value : α} (holds : property value) :
    Yields property (pure value : Call ε σ α) := by
  intro state result after returned
  cases returned
  exact holds

theorem yields_raise {property : α → Prop} (reason : ε) :
    Yields property (raise reason : Call ε σ α) := by
  intro state result after returned
  cases returned

theorem Yields.bind {before : α → Prop} {property : β → Prop} {first : Call ε σ α}
    {next : α → Call ε σ β} (here : Yields before first)
    (later : ∀ value, before value → Yields property (next value)) :
    Yields property (first >>= next) := by
  intro state result after returned
  obtain ⟨value, between, head, tail⟩ := bind_eq_ok.mp returned
  exact later value (here state value between head) between result after tail

/-- What follows a computation is told what it came to. -/
theorem yields_lift_bind {property : β → Prop} {result : Except ε α} {next : α → Call ε σ β}
    (later : ∀ value, result = .ok value → Yields property (next value)) :
    Yields property (lift result >>= next) := by
  cases result with
  | error reason => exact yields_raise reason
  | ok value => exact later value rfl

/-- What the first part returns does not matter. -/
theorem Yields.after {property : β → Prop} (first : Call ε σ α) {next : α → Call ε σ β}
    (later : ∀ value, Yields property (next value)) : Yields property (first >>= next) :=
  have anything : Yields (fun _ => True) first := fun _ _ _ _ => trivial
  anything.bind fun value _ => later value

/-- The call leaves what the view shows as it is, whether it returns or raises. -/
def Frames {τ : Type} (view : σ → τ) (call : Call ε σ α) : Prop :=
  ∀ state, view (call state).2 = view state

section

variable {τ : Type} {view : σ → τ}

theorem Frames.bind {first : Call ε σ α} {next : α → Call ε σ β} (here : Frames view first)
    (later : ∀ value, Frames view (next value)) : Frames view (first >>= next) := by
  intro state
  have kept := here state
  rcases outcome : first state with ⟨reason | value, between⟩
  · rw [bind_of_error outcome]
    rwa [outcome] at kept
  · rw [bind_of_ok outcome, later value between]
    rwa [outcome] at kept

theorem frames_pure (value : α) : Frames view (pure value : Call ε σ α) := fun _ => rfl

theorem frames_raise (reason : ε) : Frames view (raise reason : Call ε σ α) := fun _ => rfl

theorem frames_read (shown : σ → α) : Frames view (read shown : Call ε σ α) := fun _ => rfl

theorem frames_lift (result : Except ε α) : Frames view (lift result : Call ε σ α) := fun _ => rfl

end

/-- The property outlasts the call, whether it returns or raises. -/
def Keeps (property : σ → Prop) (call : Call ε σ α) : Prop :=
  ∀ state, property state → property (call state).2

section

variable {property : σ → Prop}

theorem Keeps.bind {first : Call ε σ α} {next : α → Call ε σ β} (here : Keeps property first)
    (later : ∀ value, Keeps property (next value)) : Keeps property (first >>= next) := by
  intro state holds
  have kept := here state holds
  rcases outcome : first state with ⟨reason | value, between⟩
  · rw [bind_of_error outcome]
    rwa [outcome] at kept
  · rw [outcome] at kept
    rw [bind_of_ok outcome]
    exact later value between kept

theorem keeps_pure (value : α) : Keeps property (pure value : Call ε σ α) := fun _ holds => holds

theorem keeps_raise (reason : ε) : Keeps property (raise reason : Call ε σ α) :=
  fun _ holds => holds

theorem keeps_read (view : σ → α) : Keeps property (read view : Call ε σ α) := fun _ holds => holds

theorem keeps_lift (result : Except ε α) : Keeps property (lift result : Call ε σ α) :=
  fun _ holds => holds

/-- What follows a computation is told what it came to. -/
theorem keeps_lift_bind {result : Except ε α} {next : α → Call ε σ β}
    (later : ∀ value, result = .ok value → Keeps property (next value)) :
    Keeps property (lift result >>= next) := by
  cases result with
  | error reason => exact keeps_raise reason
  | ok value => exact later value rfl

theorem keeps_write {update : σ → σ} (kept : ∀ state, property state → property (update state)) :
    Keeps property (write update : Call ε σ Unit) := kept

end

end Call

/-- Sequencing without a state: both parts return. -/
theorem Except.bind_eq_ok {ε α β : Type} {first : Except ε α} {next : α → Except ε β}
    {result : β} :
    (first >>= next) = .ok result ↔ ∃ value, first = .ok value ∧ next value = .ok result := by
  cases first with
  | error reason =>
      constructor
      · intro failed
        cases failed
      · rintro ⟨_, failed, _⟩
        cases failed
  | ok value =>
      constructor
      · exact fun returned => ⟨value, rfl, returned⟩
      · rintro ⟨_, same, returned⟩
        cases same
        exact returned

/-- A check in front returns nothing but that it passed. -/
theorem Except.check_bind_eq_ok {ε β : Type} {first : Except ε Unit} {next : Except ε β}
    {result : β} : (first >>= fun _ => next) = .ok result ↔ first = .ok () ∧ next = .ok result := by
  rw [Except.bind_eq_ok]
  constructor
  · rintro ⟨_, passed, returned⟩
    exact ⟨passed, returned⟩
  · exact fun both => ⟨(), both⟩

theorem Except.map_returns {ε α β : Type} {update : α → β} {result : Except ε α} :
    (∃ value, result.map update = .ok value) ↔ ∃ value, result = .ok value := by
  cases result <;> simp [Except.map]

theorem Except.map_raises {ε α β : Type} {update : α → β} {result : Except ε α} {reason : ε} :
    result.map update = .error reason ↔ result = .error reason := by
  cases result <;> simp [Except.map]
