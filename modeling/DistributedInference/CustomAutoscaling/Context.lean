import DistributedInference.Control.Loop
import Mathlib.Data.List.AList
import Mathlib.Algebra.Order.Ring.Rat

/-!
# What an autoscaling policy sees

A policy maps an `AutoscalingContext` to a target number of replicas and a state
that comes back with the context of the next tick.  The class belongs to Ray; its
fields are those of the table in the README that the policies read, with the
replicas now running.  Numbers are exact, and a metric is never a NaN.
-/

namespace DistributedInference.CustomAutoscaling

open Control

/-- What has been measured. -/
structure Metrics (ReplicaID : Type) where
  totalNumRequests : ℚ
  totalQueuedRequests : Option ℚ
  /-- By the name of a metric, its value on each replica that reports it. -/
  aggregatedMetrics : Option (AList fun _ : String => AList fun _ : ReplicaID => ℚ)

/-- The context of one tick.  The replica ids and the state of the policy are
parameters. -/
structure AutoscalingContext (ReplicaID State : Type) extends Metrics ReplicaID where
  currentNumReplicas : Nat
  runningReplicas : List ReplicaID
  length_runningReplicas : runningReplicas.length = currentNumReplicas := by rfl
  capacityAdjustedMinReplicas : ℤ
  capacityAdjustedMaxReplicas : ℤ
  /-- What the previous tick returned; there is none at the first tick. -/
  policyState : Option State := none

namespace AutoscalingContext

variable {ReplicaID State : Type}

/-- The context as a reading, to which the control loop adds the state. -/
def controller (policy : AutoscalingContext ReplicaID State → ℤ × State)
    (ctx : AutoscalingContext ReplicaID State) (policyState : Option State) :
    ℤ × State :=
  policy { ctx with policyState := policyState }

/-- The control loop: `count` ticks after `ctx`, with the same readings and the same
number of replicas, and with the state that the tick before returned. -/
def tick (policy : AutoscalingContext ReplicaID State → ℤ × State)
    (ctx : AutoscalingContext ReplicaID State) (count : Nat) : ℤ × State :=
  held (controller policy) ctx ctx.policyState count

end AutoscalingContext

end DistributedInference.CustomAutoscaling
