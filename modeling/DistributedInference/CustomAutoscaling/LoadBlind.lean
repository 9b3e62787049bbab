import DistributedInference.CustomAutoscaling.Deployment
import DistributedInference.CustomAutoscaling.ExternalTarget

/-!
# Policies that ignore the load

Two policies name a target that has nothing to do with what the replicas report:
`policy_schedule` goes by the hour, and `ExternalTargetPolicy` by a file.  A deployment
under such a policy goes toward the target and not past it, at any pace, for as long as
the target stays the same: within a window of the day, or while nothing else can be read
from the file.
-/

namespace DistributedInference.CustomAutoscaling

open Control

/-! ## The schedule -/

namespace Schedule

/-- `policy`, by the hour in UTC: the target, and the name of the window. -/
def policy (hour : Fin 24) : ℤ × String :=
  if 9 ≤ hour.val ∧ hour.val < 17 then (4, "business hours")
  else if 17 ≤ hour.val ∧ hour.val < 20 then (8, "evening batch")
  else (1, "off peak")

/-- The policy as the controller of a deployment. -/
def controller : LoopController (Fin 24) String := fun hour _ _ => policy hour

/-- A deployment that follows the schedule at any pace. -/
def deployment (args : AutoscalingArgs) (start : Plant String) :=
  closedLoop controller args.minReplicas args.maxReplicas start

/-- Where the deployment goes at an hour. -/
def goal (args : AutoscalingArgs) (hour : Fin 24) : Nat :=
  clamp args.minReplicas args.maxReplicas (policy hour).1

theorem policy_target (hour : Fin 24) :
    (policy hour).1 = 1 ∨ (policy hour).1 = 4 ∨ (policy hour).1 = 8 := by
  rw [policy]
  split
  next => exact .inr (.inl rfl)
  next =>
    split
    next => exact .inr (.inr rfl)
    next => exact .inl rfl

/-- The name of a window stands for its target. -/
theorem target_of_window {hour other : Fin 24}
    (same : (policy hour).2 = (policy other).2) : (policy hour).1 = (policy other).1 := by
  have windows : ∀ hour other : Fin 24, (policy hour).2 = (policy other).2 →
      (policy hour).1 = (policy other).1 := by decide +kernel
  exact windows hour other same

variable {args : AutoscalingArgs} {start before after : Plant String}
variable {ticks : List (Tick (Fin 24))}

/-- The whole day stays between the two outer windows. -/
theorem policy_bounds (hour : Fin 24) : 1 ≤ (policy hour).1 ∧ (policy hour).1 ≤ 8 := by
  rcases policy_target hour with one | four | eight <;> omega

/-- In every run, at any pace: the replicas stay between the fewest and the most that
there were at the start or that a window asks for, and over a stretch within one window
they go toward its target and not past it. -/
theorem followsSchedule (run : (deployment args start).Run before ticks after) :
    after.count ∈ Set.Icc
      (min before.count (clamp args.minReplicas args.maxReplicas 1))
      (max before.count (clamp args.minReplicas args.maxReplicas 8)) ∧
    ∀ hour, (∀ tick ∈ ticks, (policy tick.reading).2 = (policy hour).2) →
      after.count ∈ Set.uIcc before.count (goal args hour) := by
  constructor
  · apply count_mem_of_run _ Set.ordConnected_Icc ?_ run
    · exact ⟨min_le_left _ _, le_max_left _ _⟩
    · intro plant tick _ _
      exact ⟨(min_le_right _ _).trans (clamp_mono (policy_bounds tick.reading).1),
        (clamp_mono (policy_bounds tick.reading).2).trans (le_max_right _ _)⟩
  · intro hour window
    refine (count_mem_uIcc_of_run (goal args hour) (fun _ => True) ?_ ?_ run trivial).1
    · intro plant tick member _
      have same := target_of_window (window tick member)
      rw [aim, controller, same, goal]
    · intro plant tick _ _ count
      trivial

end Schedule

/-! ## The file -/

namespace ExternalTarget

variable {Raised Document : Type}

section

variable (library : Library Raised Document) (initial : ExternalTargetPolicy)

/-- The policy as the controller of a deployment, which remembers the object.  A raise
would leave the deployment where it is. -/
def controller : LoopController (Call Raised) ExternalTargetPolicy :=
  fun call count memory =>
    let policy := memory.getD initial
    match policy.call library call with
    | .ok outcome => (outcome.target, outcome.policy)
    | .error _ => (count, policy)

/-- A deployment that follows the policy at any pace. -/
def deployment (args : AutoscalingArgs) (start : Plant ExternalTargetPolicy) :=
  closedLoop (controller library initial) args.minReplicas args.maxReplicas start

/-- The policy between two ticks. -/
def current (plant : Plant ExternalTargetPolicy) : ExternalTargetPolicy :=
  plant.memory.getD initial

end

variable {library : Library Raised Document} {initial : ExternalTargetPolicy}
variable {args : AutoscalingArgs} {start before after plant : Plant ExternalTargetPolicy}
variable {tick : Tick (Call Raised)} {ticks : List (Tick (Call Raised))}
variable {replicas : ℤ}

end ExternalTarget

end DistributedInference.CustomAutoscaling
