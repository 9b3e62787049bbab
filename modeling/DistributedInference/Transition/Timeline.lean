import DistributedInference.Transition.System
import Mathlib.Order.Defs.PartialOrder

/-!
# Systems in time

A timeline gives the state of a system at every moment.  Between two moments lies a
run, so what a run leaves alone stays from then on.
-/

namespace DistributedInference.Transition

universe u v w

/-- The states of a system over time. -/
structure Timeline {State : Type u} {Label : Type v} (Time : Type w) [Preorder Time]
    (system : System State Label) where
  state : Time → State
  reachable : ∀ time, system.Reachable (state time)
  run : ∀ {earlier later}, earlier ≤ later →
    ∃ labels, system.Run (state earlier) labels (state later)

namespace Timeline

variable {State : Type u} {Label : Type v} {Time : Type w} [LinearOrder Time]
variable {system : System State Label}

end Timeline

end DistributedInference.Transition
