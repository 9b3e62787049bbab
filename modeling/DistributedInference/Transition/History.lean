import DistributedInference.Transition.System

/-!
# History variables

A history records something about the steps of a system without taking part in them.
The runs of a system with a history are the runs of the system: each gives one when
the history is forgotten, and each comes from one.
-/

namespace DistributedInference.Transition

universe u v w

namespace System

variable {State : Type u} {Label : Type v} {History : Type w}
variable {initial start finish : State} {step : State → Label → Option State}
variable {record : State → Label → History → History} {labels : List Label}

/-- A step function that also records; `record` sees the state before the step. -/
def recording (step : State → Label → Option State)
    (record : State → Label → History → History) (current : State × History)
    (label : Label) : Option (State × History) :=
  (step current.1 label).map fun next => (next, record current.1 label current.2)

/-- Forgetting the history. -/
theorem Run.forget {before after : State × History}
    {initialHistory : State × History}
    (run : (ofFunction initialHistory (recording step record)).Run before labels after) :
    (ofFunction initial step).Run before.1 labels after.1 := by
  induction run with
  | nil => exact .nil _
  | cons taken _ ih =>
      rcases Option.map_eq_some_iff.mp taken with ⟨next, stepped, same⟩
      refine .cons ?_ (same ▸ ih)
      exact stepped

/-- Every run has a history. -/
theorem Run.recorded (run : (ofFunction initial step).Run start labels finish)
    (record : State → Label → History → History) (history : History)
    (initialHistory : State × History) :
    ∃ last, (ofFunction initialHistory (recording step record)).Run (start, history)
      labels (finish, last) := by
  induction run generalizing history with
  | nil => exact ⟨history, .nil _⟩
  | @cons start middle finish label labels taken _ ih =>
      rcases ih (record start label history) with ⟨last, later⟩
      refine ⟨last, .cons ?_ later⟩
      exact Option.map_eq_some_iff.mpr ⟨middle, taken, rfl⟩

end System

end DistributedInference.Transition
