import SignalForge.Call

/-! Programs over operations that are carried out elsewhere: one program, written against an
interface, and the implementations of the interface that it runs on. -/

set_option autoImplicit false

/-- What is done next may depend on what the operations before it answered. -/
inductive OpProgram (ε ι ο α : Type) where
  | done (value : α)
  | raise (reason : ε)
  | call (operation : ι) (next : ο → OpProgram ε ι ο α)

/-- What becomes of an operation: it is carried out, refused, or carried out without an answer. -/
inductive Fault (ε : Type) where
  | none
  | refused (reason : ε)
  | unanswered (reason : ε)

namespace OpProgram

variable {ε ι ο α σ τ : Type}

/-- The program with its value put through a function. -/
def map {β : Type} (update : α → β) : OpProgram ε ι ο α → OpProgram ε ι ο β
  | done value => done (update value)
  | raise reason => raise reason
  | call operation next => call operation fun answer => (next answer).map update

/-- Over operations that always answer. -/
def evaluate (answer : ι → σ → ο × σ) : OpProgram ε ι ο α → Call ε σ α
  | done value => pure value
  | raise reason => Call.raise reason
  | call operation next => fun state =>
      (next (answer operation state).1).evaluate answer (answer operation state).2

/-- Over operations that may raise, or give out without an answer. -/
def run (handle : ι → Call ε τ (Option ο)) : OpProgram ε ι ο α → Call ε τ (Option α)
  | done value => pure (some value)
  | raise reason => Call.raise reason
  | call operation next => do
      match ← handle operation with
      | none => pure none
      | some answer => (next answer).run handle

/-- The operations with faults, by the number of operations before. -/
def faulty (answer : ι → σ → ο × σ) (fault : Nat → Fault ε) (operation : ι) :
    Call ε (σ × Nat) (Option ο) := fun (state, number) =>
  match fault number with
  | .none => (.ok (some (answer operation state).1), ((answer operation state).2, number + 1))
  | .refused reason => (.error reason, (state, number + 1))
  | .unanswered reason => (.error reason, ((answer operation state).2, number + 1))

/-- Only allowed operations are called, whatever is answered. -/
def Issues (allowed : ι → Prop) : OpProgram ε ι ο α → Prop
  | done _ => True
  | raise _ => True
  | call operation next => allowed operation ∧ ∀ answer, (next answer).Issues allowed

/-- Nothing follows the first operation that is not a read. -/
def WritesLast (reads : ι → Prop) : OpProgram ε ι ο α → Prop
  | done _ => True
  | raise _ => True
  | call operation next =>
      reads operation ∧ (∀ answer, (next answer).WritesLast reads) ∨
        ∃ value, ∀ answer, next answer = done value

theorem evaluate_call (answer : ι → σ → ο × σ) (operation : ι) (next : ο → OpProgram ε ι ο α)
    (state : σ) :
    (call operation next).evaluate answer state =
      (next (answer operation state).1).evaluate answer (answer operation state).2 := rfl

theorem evaluate_map {β : Type} (answer : ι → σ → ο × σ) (update : α → β)
    (program : OpProgram ε ι ο α) (state : σ) :
    (program.map update).evaluate answer state =
      ((program.evaluate answer state).1.map update, (program.evaluate answer state).2) := by
  induction program generalizing state with
  | done value => rfl
  | raise reason => rfl
  | call operation next ih => exact ih _ _

theorem issues_map {β : Type} {allowed : ι → Prop} {update : α → β} {program : OpProgram ε ι ο α}
    (issues : program.Issues allowed) : (program.map update).Issues allowed := by
  induction program with
  | done value => trivial
  | raise reason => trivial
  | call operation next ih => exact ⟨issues.1, fun answer => ih answer (issues.2 answer)⟩

section

variable {handle : ι → Call ε τ (Option ο)} {operation : ι} {other after : τ}

theorem run_of_answer {answered : ο} (success : handle operation other = (.ok (some answered), after))
    (next : ο → OpProgram ε ι ο α) :
    (call operation next).run handle other = (next answered).run handle after := by
  rw [run, Call.bind_of_ok success]

theorem run_of_error {reason : ε} (failed : handle operation other = (.error reason, after))
    (next : ο → OpProgram ε ι ο α) :
    (call operation next).run handle other = (.error reason, after) := by
  rw [run, Call.bind_of_error failed]

end

section

variable {answer : ι → σ → ο × σ} {related : σ → τ → Prop} {allowed : ι → Prop}

/-- Where each operation, given turns enough, answers alike and keeps the states related, so does
every program. -/
theorem run_simulates {handle : Nat → ι → Call ε τ (Option ο)}
    (step : ∀ operation, allowed operation → ∀ state other, related state other →
      ∃ enough after, related (answer operation state).2 after ∧ ∀ turns, enough ≤ turns →
        handle turns operation other = (.ok (some (answer operation state).1), after))
    (program : OpProgram ε ι ο α) (issues : program.Issues allowed) {state : σ} {other : τ}
    (here : related state other) :
    ∃ enough after, related (program.evaluate answer state).2 after ∧ ∀ turns, enough ≤ turns →
      program.run (handle turns) other = ((program.evaluate answer state).1.map some, after) := by
  induction program generalizing state other with
  | done value => exact ⟨0, other, here, fun _ _ => rfl⟩
  | raise reason => exact ⟨0, other, here, fun _ _ => rfl⟩
  | call operation next ih =>
      obtain ⟨allowedHere, issuesNext⟩ := issues
      obtain ⟨first, between, relatedBetween, answers⟩ :=
        step operation allowedHere state other here
      obtain ⟨more, after, relatedAfter, continues⟩ :=
        ih (answer operation state).1 (issuesNext _) relatedBetween
      refine ⟨max first more, after, relatedAfter, fun turns within => ?_⟩
      rw [run_of_answer (answers turns (Nat.le_trans (Nat.le_max_left _ _) within)), evaluate_call]
      exact continues turns (Nat.le_trans (Nat.le_max_right _ _) within)

/-- With faults, a program that writes last has its whole effect or none. -/
theorem run_faulty {reads : ι → Prop} {program : OpProgram ε ι ο α}
    (writesLast : program.WritesLast reads)
    (reading : ∀ operation, reads operation → ∀ state : σ, (answer operation state).2 = state)
    (fault : Nat → Fault ε) (state : σ) (number : Nat) :
    (program.run (faulty answer fault) (state, number)).2.1 = state ∨
      (program.run (faulty answer fault) (state, number)).2.1 =
        (program.evaluate answer state).2 := by
  induction program generalizing state number with
  | done value => exact Or.inl rfl
  | raise reason => exact Or.inl rfl
  | call operation next ih =>
      have last : ∀ value, (∀ answered, next answered = done value) →
          ((call operation next).evaluate answer state).2 = (answer operation state).2 := by
        intro value ends
        rw [evaluate_call, ends]
        rfl
      cases fell : fault number with
      | refused reason =>
          have refused : faulty answer fault operation (state, number) =
              (.error reason, (state, number + 1)) := by rw [faulty, fell]
          rw [run_of_error refused]
          exact Or.inl rfl
      | unanswered reason =>
          have lost : faulty answer fault operation (state, number) =
              (.error reason, ((answer operation state).2, number + 1)) := by rw [faulty, fell]
          rw [run_of_error lost]
          rcases writesLast with ⟨reads, -⟩ | ⟨value, ends⟩
          · exact Or.inl (reading operation reads state)
          · exact Or.inr (last value ends).symm
      | none =>
          have carried : faulty answer fault operation (state, number) =
              (.ok (some (answer operation state).1), ((answer operation state).2, number + 1)) := by
            rw [faulty, fell]
          rw [run_of_answer carried]
          rcases writesLast with ⟨reads, later⟩ | ⟨value, ends⟩
          · rw [evaluate_call, reading operation reads state]
            exact ih (answer operation state).1 (later _) state (number + 1)
          · rw [last value ends, ends]
            exact Or.inr rfl

end

end OpProgram
