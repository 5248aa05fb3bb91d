/-! Generators consumed to their end: what they yielded before they returned or raised. -/

set_option autoImplicit false

structure Generated (ε α β : Type) where
  yielded : List α
  ended : Except ε β

namespace Generated

variable {ε α β γ : Type}

def done (value : β) : Generated ε α β := ⟨[], .ok value⟩

def raise (reason : ε) : Generated ε α β := ⟨[], .error reason⟩

def yield (item : α) (rest : Generated ε α β) : Generated ε α β :=
  ⟨item :: rest.yielded, rest.ended⟩

/-- What follows runs only where the first part did not raise. -/
def bind (first : Generated ε α β) (next : β → Generated ε α γ) : Generated ε α γ :=
  match first.ended with
  | .error reason => ⟨first.yielded, .error reason⟩
  | .ok value => ⟨first.yielded ++ (next value).yielded, (next value).ended⟩

theorem bind_of_ok {first : Generated ε α β} {value : β} (returned : first.ended = .ok value)
    (next : β → Generated ε α γ) :
    first.bind next = ⟨first.yielded ++ (next value).yielded, (next value).ended⟩ := by
  simp only [bind, returned]

theorem bind_of_error {first : Generated ε α β} {reason : ε} (failed : first.ended = .error reason)
    (next : β → Generated ε α γ) : first.bind next = ⟨first.yielded, .error reason⟩ := by
  simp only [bind, failed]

@[simp] theorem done_bind (value : β) (next : β → Generated ε α γ) :
    (done value).bind next = next value := rfl

@[simp] theorem raise_bind (reason : ε) (next : β → Generated ε α γ) :
    (raise reason : Generated ε α β).bind next = raise reason := rfl

@[simp] theorem yield_bind (item : α) (rest : Generated ε α β) (next : β → Generated ε α γ) :
    (yield item rest).bind next = yield item (rest.bind next) := by
  obtain ⟨yielded, ended⟩ := rest
  cases ended with
  | error reason => rfl
  | ok value => rfl

@[simp] theorem bind_done (first : Generated ε α β) : first.bind done = first := by
  obtain ⟨yielded, ended⟩ := first
  cases ended with
  | error reason => rfl
  | ok value => simp only [bind, done, List.append_nil]

theorem bind_assoc {δ : Type} (first : Generated ε α β) (next : β → Generated ε α γ)
    (last : γ → Generated ε α δ) :
    (first.bind next).bind last = first.bind fun value => (next value).bind last := by
  rcases ended : first.ended with reason | value
  · rw [bind_of_error ended, bind_of_error ended]
    rfl
  · rw [bind_of_ok ended, bind_of_ok ended]
    rcases later : (next value).ended with reason | final
    · rw [bind_of_error later]
      simp only [bind]
    · rw [bind_of_ok later]
      simp only [bind, List.append_assoc]

/-- A sequence returns exactly when both parts do. -/
theorem bind_ended_eq_ok {first : Generated ε α β} {next : β → Generated ε α γ} {final : γ} :
    (first.bind next).ended = .ok final ↔
      ∃ value, first.ended = .ok value ∧ (next value).ended = .ok final := by
  rcases ended : first.ended with reason | value
  · rw [bind_of_error ended]
    simp only [reduceCtorEq, false_and, exists_false]
  · rw [bind_of_ok ended]
    simp only [Except.ok.injEq, exists_eq_left']

end Generated
