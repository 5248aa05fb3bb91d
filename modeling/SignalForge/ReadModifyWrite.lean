import Mathlib.Data.List.Basic
import Mathlib.Logic.Function.Basic

/-! Workers that change shared cells by reading one and then writing it. Their steps interleave in
any order; where no cell changes between a worker's read and its write, they come to a sequence of
whole changes. -/

set_option autoImplicit false

namespace ReadModifyWrite

variable {ι κ β δ : Type} [DecidableEq ι] [DecidableEq κ]

/-- The items a worker still has, and the item and value it has read and not yet written. -/
structure Worker (δ β : Type) where
  todo : List δ
  loaded : Option (δ × β)

structure System (ι κ β δ : Type) where
  cells : κ → β
  workers : ι → Worker δ β

/-- The items of a worker in the order in which it goes through them. -/
def Worker.remaining (worker : Worker δ β) : List δ :=
  (worker.loaded.map Prod.fst).toList ++ worker.todo

def Worker.finished (worker : Worker δ β) : Prop := worker.loaded = none ∧ worker.todo = []

variable (keyOf : δ → κ) (change : δ → β → β)

/-- A whole change of one cell. -/
def apply (cells : κ → β) (item : δ) : κ → β :=
  Function.update cells (keyOf item) (change item (cells (keyOf item)))

/-- The worker writes what it has read and changed, or else reads for its next item. -/
def step (system : System ι κ β δ) (worker : ι) : System ι κ β δ :=
  match (system.workers worker).loaded, (system.workers worker).todo with
  | some (item, value), todo =>
      { cells := Function.update system.cells (keyOf item) (change item value)
        workers := Function.update system.workers worker ⟨todo, none⟩ }
  | none, item :: rest =>
      { system with
        workers := Function.update system.workers worker
          ⟨rest, some (item, system.cells (keyOf item))⟩ }
  | none, [] => system

def run (system : System ι κ β δ) (schedule : List ι) : System ι κ β δ :=
  schedule.foldl (step keyOf change) system

/-- If the worker writes next, the cell still has the value it read. -/
def Unchanged (system : System ι κ β δ) (worker : ι) : Prop :=
  ∀ item value, (system.workers worker).loaded = some (item, value) →
    system.cells (keyOf item) = value

/-- No cell changes between a worker's read and its write. -/
def Isolated (system : System ι κ β δ) : List ι → Prop
  | [] => True
  | worker :: rest =>
      Unchanged keyOf system worker ∧ Isolated (step keyOf change system worker) rest

/-- The item the worker's next step writes. -/
def written (system : System ι κ β δ) (worker : ι) : List (ι × δ) :=
  ((system.workers worker).loaded.map fun loaded => (worker, loaded.1)).toList

/-- The items written, with who wrote them, in order. -/
def writes (system : System ι κ β δ) : List ι → List (ι × δ)
  | [] => []
  | worker :: rest => written system worker ++ writes (step keyOf change system worker) rest

variable {keyOf change}

theorem step_cells (system : System ι κ β δ) (worker : ι)
    (unchanged : Unchanged keyOf system worker) :
    (step keyOf change system worker).cells =
      (written system worker).foldl (fun cells write => apply keyOf change cells write.2)
        system.cells := by
  rw [step, written]
  cases loaded : (system.workers worker).loaded with
  | none => cases (system.workers worker).todo <;> rfl
  | some read =>
      obtain ⟨item, value⟩ := read
      have current := unchanged item value loaded
      simp only [Option.map_some, Option.toList_some, List.foldl_cons, List.foldl_nil, apply, current]

/-- Isolated, the cells come to what the whole changes make of them one after the other. -/
theorem run_cells (system : System ι κ β δ) (schedule : List ι)
    (isolated : Isolated keyOf change system schedule) :
    (run keyOf change system schedule).cells =
      (writes keyOf change system schedule).foldl
        (fun cells write => apply keyOf change cells write.2) system.cells := by
  induction schedule generalizing system with
  | nil => rfl
  | cons worker rest ih =>
      obtain ⟨here, later⟩ := isolated
      rw [writes, List.foldl_append, ← step_cells system worker here]
      exact ih (step keyOf change system worker) later

omit [DecidableEq κ] in
theorem written_of (system : System ι κ β δ) (worker other : ι) :
    ((written system worker).filter fun write => write.1 = other).map Prod.snd =
      if worker = other then
        ((system.workers worker).loaded.map Prod.fst).toList
      else [] := by
  rw [written]
  cases (system.workers worker).loaded with
  | none => split <;> rfl
  | some loaded =>
      by_cases same : worker = other
      · simp [same]
      · simp [same]

variable (keyOf change)

/-- A step writes an item or not; either way the worker keeps the rest in order. -/
theorem remaining_step (system : System ι κ β δ) (worker other : ι) :
    ((written system worker).filter fun write => write.1 = other).map Prod.snd ++
        ((step keyOf change system worker).workers other).remaining =
      (system.workers other).remaining := by
  rw [written_of, step]
  by_cases same : worker = other
  · subst same
    rw [if_pos rfl]
    cases loaded : (system.workers worker).loaded with
    | some read =>
        obtain ⟨item, value⟩ := read
        simp [Worker.remaining, loaded]
    | none =>
        cases todo : (system.workers worker).todo with
        | nil => simp [Worker.remaining, loaded, todo]
        | cons item rest => simp [Worker.remaining, loaded, todo]
  · have apart : other ≠ worker := fun equal => same equal.symm
    rw [if_neg same]
    cases (system.workers worker).loaded with
    | some read => simp [Function.update_of_ne apart]
    | none =>
        cases (system.workers worker).todo with
        | nil => rfl
        | cons item rest => simp [Function.update_of_ne apart]

/-- What a worker has written and what it still has is what it began with, in order. -/
theorem remaining_run (system : System ι κ β δ) (schedule : List ι) (worker : ι) :
    ((writes keyOf change system schedule).filter fun write => write.1 = worker).map Prod.snd ++
        ((run keyOf change system schedule).workers worker).remaining =
      (system.workers worker).remaining := by
  induction schedule generalizing system with
  | nil => rfl
  | cons first rest ih =>
      rw [writes, List.filter_append, List.map_append, List.append_assoc]
      have later := ih (step keyOf change system first)
      rw [show run keyOf change system (first :: rest) =
        run keyOf change (step keyOf change system first) rest from rfl, later]
      exact remaining_step keyOf change system first worker

/-- Where all workers are done, an item was written exactly if one of them had it. -/
theorem mem_writes_of_finished (system : System ι κ β δ) (schedule : List ι)
    (finished : ∀ worker, ((run keyOf change system schedule).workers worker).finished) (item : δ) :
    (∃ worker, (worker, item) ∈ writes keyOf change system schedule) ↔
      ∃ worker, item ∈ (system.workers worker).remaining := by
  apply exists_congr
  intro worker
  have all := remaining_run keyOf change system schedule worker
  obtain ⟨noneLoaded, nothingLeft⟩ := finished worker
  have none : ((run keyOf change system schedule).workers worker).remaining = [] := by
    simp only [Worker.remaining, noneLoaded, nothingLeft, Option.map_none, Option.toList_none,
      List.append_nil]
  rw [none, List.append_nil] at all
  rw [← all, List.mem_map]
  constructor
  · intro member
    exact ⟨(worker, item), List.mem_filter.mpr ⟨member, by simp⟩, rfl⟩
  · rintro ⟨write, member, rfl⟩
    obtain ⟨member, same⟩ := List.mem_filter.mp member
    have same : write.1 = worker := by simpa using same
    rw [← same]
    exact member

end ReadModifyWrite
