import Mathlib.Order.Defs.Unbundled
import SignalForge.LexicalScope

/-! What calls do to their state, as a relation between the states before and after. -/

set_option autoImplicit false

namespace Call

variable {ε σ α β : Type}

/-- Whether it returns or raises, the call takes its state along the relation. -/
def Moves (related : σ → σ → Prop) (call : Call ε σ α) : Prop :=
  ∀ state, related state (call state).2

variable {related : σ → σ → Prop} [IsPreorder σ related]

theorem moves_pure (value : α) : Moves related (pure value : Call ε σ α) :=
  fun state => refl_of related state

theorem moves_raise (reason : ε) : Moves related (raise reason : Call ε σ α) :=
  fun state => refl_of related state

theorem moves_read (view : σ → α) : Moves related (read view : Call ε σ α) :=
  fun state => refl_of related state

theorem Moves.bind {first : Call ε σ α} {next : α → Call ε σ β} (here : Moves related first)
    (later : ∀ value, Moves related (next value)) : Moves related (first >>= next) := by
  intro state
  have moved := here state
  rcases outcome : first state with ⟨reason | value, between⟩
  · rw [bind_of_error outcome]
    rwa [outcome] at moved
  · rw [outcome] at moved
    rw [bind_of_ok outcome]
    exact trans_of related moved (later value between)

theorem Moves.catching {call : Call ε σ α} {handler : ε → Call ε σ α} (here : Moves related call)
    (handled : ∀ reason, Moves related (handler reason)) :
    Moves related (Call.catching call handler) := by
  intro state
  have moved := here state
  rcases outcome : call state with ⟨reason | value, between⟩
  · rw [outcome] at moved
    rw [catching_of_error outcome]
    exact trans_of related moved (handled reason between)
  · rw [catching_of_ok outcome]
    rwa [outcome] at moved

theorem Moves.exiting {body : Call ε σ Unit} {exit : Option ε → Call ε σ Unit}
    (here : Moves related body) (left : ∀ reason?, Moves related (exit reason?)) :
    Moves related (Call.exiting body exit) := by
  intro state
  have moved := here state
  rcases outcome : body state with ⟨reason | _, between⟩
  · rw [outcome] at moved
    rw [exiting_of_error outcome]
    exact trans_of related moved ((left (some reason)).bind (fun _ => moves_raise reason) between)
  · rw [outcome] at moved
    rw [exiting_of_ok outcome]
    exact trans_of related moved (left none between)

end Call
