import DistributedInference.CustomAutoscaling.Context
import Mathlib.Data.Rat.Floor

/-!
# The queue policy

`policy_queue_latency.policy` asks for more replicas when the queue is deep and has
grown since the previous tick.  The control loop ticks far more often than readings
arrive, and on a reading that it has seen before the policy finds no growth.
-/

namespace DistributedInference.CustomAutoscaling.QueueLatency

open Control

/-- `QUEUED_PER_REPLICA_LIMIT`. -/
def queuedPerReplicaLimit : ℚ := 5

/-- The second value that `policy` returns. -/
structure QueueState where
  queued : ℚ
  growing : Bool
  total : ℚ
  deriving DecidableEq, Repr

variable {ReplicaID : Type} {ctx : AutoscalingContext ReplicaID QueueState}

/-- `ctx.total_queued_requests or 0.0`. -/
def queued (ctx : Metrics ReplicaID) : ℚ := ctx.totalQueuedRequests.getD 0

section

variable (ctx : AutoscalingContext ReplicaID QueueState)

/-- `max(ctx.current_num_replicas, 1)`. -/
def current : Nat := max ctx.currentNumReplicas 1

/-- `ctx.policy_state.get("queued", 0.0)`. -/
def previousQueued : ℚ := (ctx.policyState.map QueueState.queued).getD 0

/-- The queue exceeds the limit per replica. -/
def Deep : Prop := queuedPerReplicaLimit < queued ctx.toMetrics / current ctx

instance : Decidable (Deep ctx) := inferInstanceAs (Decidable (_ < _))

/-- The queue is longer than at the previous tick. -/
def Growing : Prop := previousQueued ctx < queued ctx.toMetrics

instance : Decidable (Growing ctx) := inferInstanceAs (Decidable (_ < _))

/-- The target when the queue is not both deep and growing. -/
def idleTarget : ℤ :=
  if queued ctx.toMetrics = 0 ∧ ctx.totalNumRequests / current ctx < 1 then current ctx - 1
  else current ctx

end

/-- `policy`. -/
def policy (ctx : AutoscalingContext ReplicaID QueueState) : ℤ × QueueState :=
  let target :=
    if Deep ctx ∧ Growing ctx then
      -- In proportion to how far behind it is.
      current ctx + max 1 ⌊queued ctx.toMetrics / current ctx / queuedPerReplicaLimit⌋
    else idleTarget ctx
  (target, ⟨queued ctx.toMetrics, decide (Growing ctx), ctx.totalNumRequests⟩)

/-- A deep and growing queue gets at least one replica more. -/
theorem idleTarget_lt_policy (deep : Deep ctx) (growing : Growing ctx) :
    idleTarget ctx < (policy ctx).1 := by
  have idle : idleTarget ctx ≤ current ctx := by
    simp only [idleTarget]
    split_ifs <;> omega
  have target : (policy ctx).1 =
      current ctx + max 1 ⌊queued ctx.toMetrics / current ctx / queuedPerReplicaLimit⌋ :=
    if_pos ⟨deep, growing⟩
  have step : 1 ≤ max 1 ⌊queued ctx.toMetrics / current ctx / queuedPerReplicaLimit⌋ :=
    le_max_left _ _
  omega

theorem policy_of_not (calm : ¬ (Deep ctx ∧ Growing ctx)) :
    (policy ctx).1 = idleTarget ctx :=
  if_neg calm

/-- On a reading that the policy has seen at the previous tick, the queue does not
grow. -/
theorem controller_seen (earlier : Option QueueState) :
    (ctx.controller policy (some (ctx.controller policy earlier).2)).1 =
      idleTarget ctx := by
  apply policy_of_not
  intro both
  exact lt_irrefl (queued ctx.toMetrics) both.2

/-- The target holds while the readings stand still exactly if the queue is not both
deep and growing at the first tick. -/
theorem heldTarget_iff (ctx : AutoscalingContext ReplicaID QueueState) :
    (∀ count, (ctx.tick policy count).1 = (policy ctx).1) ↔
      ¬ (queuedPerReplicaLimit < queued ctx.toMetrics / current ctx ∧
        previousQueued ctx < queued ctx.toMetrics) := by
  have settles : Stable (AutoscalingContext.controller policy) ctx ctx.policyState ↔
      (policy ctx).1 = idleTarget ctx := stable_iff_of_settles _ controller_seen
  apply settles.trans
  constructor
  · intro same both
    exact absurd same (idleTarget_lt_policy both.1 both.2).ne'
  · exact policy_of_not

/-- Ten requests are queued for one replica.  The first tick asks for two replicas
more, the second one withdraws that. -/
def backedUp : AutoscalingContext String QueueState where
  currentNumReplicas := 1
  runningReplicas := ["r0"]
  totalNumRequests := 12
  totalQueuedRequests := some 10
  aggregatedMetrics := none
  capacityAdjustedMinReplicas := 1
  capacityAdjustedMaxReplicas := 6

theorem backedUp_withdrawn :
    (policy backedUp).1 = 3 ∧ (backedUp.tick policy 1).1 = 1 ∧
      ¬ ∀ count, (backedUp.tick policy count).1 = (policy backedUp).1 := by
  have first : (policy backedUp).1 = 3 := by decide +kernel
  have second : (backedUp.tick policy 1).1 = 1 := by decide +kernel
  refine ⟨first, second, ?_⟩
  intro stays
  have same := stays 1
  rw [first, second] at same
  contradiction

/-! ## More load -/

/-- The policy divides by a positive number of replicas. -/
theorem current_pos (ctx : AutoscalingContext ReplicaID QueueState) : 0 < current ctx :=
  lt_of_lt_of_le Nat.one_pos (le_max_right _ _)

theorem idleTarget_bounds (ctx : AutoscalingContext ReplicaID QueueState) :
    (current ctx : ℤ) - 1 ≤ idleTarget ctx ∧ idleTarget ctx ≤ current ctx := by
  simp only [idleTarget]
  split <;> omega

/-- Only an empty queue gives a replica back. -/
theorem current_le_policy (something : queued ctx.toMetrics ≠ 0) :
    current ctx ≤ (policy ctx).1 := by
  have idle : idleTarget ctx = current ctx := if_neg fun empty => something empty.1
  by_cases behind : Deep ctx ∧ Growing ctx
  · exact idle ▸ (idleTarget_lt_policy behind.1 behind.2).le
  · rw [policy_of_not behind, idle]

theorem policy_nonneg (ctx : AutoscalingContext ReplicaID QueueState) :
    0 ≤ (policy ctx).1 := by
  have positive := current_pos ctx
  have bounds := idleTarget_bounds ctx
  by_cases behind : Deep ctx ∧ Growing ctx
  · have above := idleTarget_lt_policy behind.1 behind.2
    omega
  · rw [policy_of_not behind]
    omega

section

variable {first second : AutoscalingContext ReplicaID QueueState}

/-- With at least as much load, an idle deployment was idle before. -/
theorem idleTarget_mono (sameReplicas : current first = current second)
    (counted : 0 ≤ queued first.toMetrics)
    (moreQueued : queued first.toMetrics ≤ queued second.toMetrics)
    (moreTotal : first.totalNumRequests ≤ second.totalNumRequests) :
    idleTarget first ≤ idleTarget second := by
  simp only [idleTarget]
  split
  next =>
    split <;> omega
  next busy =>
    split
    next idle =>
      refine absurd ⟨le_antisymm (idle.1 ▸ moreQueued) counted, ?_⟩ busy
      rw [sameReplicas]
      exact (div_le_div_of_nonneg_right moreTotal (Nat.cast_nonneg _)).trans_lt idle.2
    next => omega

/-- A queue that is behind stays behind with more load, by at least as much. -/
theorem policy_mono_of_behind (sameReplicas : current first = current second)
    (sameState : first.policyState = second.policyState)
    (moreQueued : queued first.toMetrics ≤ queued second.toMetrics) (deep : Deep first)
    (growing : Growing first) : (policy first).1 ≤ (policy second).1 := by
  have perReplica : queued first.toMetrics / current first ≤
      queued second.toMetrics / current second := by
    rw [sameReplicas]
    exact div_le_div_of_nonneg_right moreQueued (Nat.cast_nonneg _)
  have stillDeep : Deep second := deep.trans_le perReplica
  have stillGrowing : Growing second := by
    simp only [Growing, previousQueued, ← sameState]
    exact growing.trans_le moreQueued
  have steps : ⌊queued first.toMetrics / current first / queuedPerReplicaLimit⌋ ≤
      ⌊queued second.toMetrics / current second / queuedPerReplicaLimit⌋ :=
    Int.floor_le_floor (div_le_div_of_nonneg_right perReplica (by decide +kernel))
  simp only [policy, if_pos (And.intro deep growing),
    if_pos (And.intro stillDeep stillGrowing)]
  rw [sameReplicas] at steps ⊢
  exact Int.add_le_add_left (max_le_max_left 1 steps) _

/-- More load never lowers the target.  The targets are not negative, the policy does
not divide by zero, and whatever is queued keeps the replicas. -/
theorem moreLoad (sameReplicas : first.currentNumReplicas = second.currentNumReplicas)
    (sameState : first.policyState = second.policyState)
    (counted : 0 ≤ queued first.toMetrics)
    (moreQueued : queued first.toMetrics ≤ queued second.toMetrics)
    (moreTotal : first.totalNumRequests ≤ second.totalNumRequests) :
    (policy first).1 ≤ (policy second).1 ∧
    ∀ ctx ∈ [first, second], 0 ≤ (policy ctx).1 ∧ current ctx ≠ 0 ∧
      (0 < queued ctx.toMetrics → max (ctx.currentNumReplicas : ℤ) 1 ≤ (policy ctx).1) := by
  have sameCurrent : current first = current second := by
    simp only [current, sameReplicas]
  constructor
  · by_cases behind : Deep first ∧ Growing first
    · exact policy_mono_of_behind sameCurrent sameState moreQueued behind.1 behind.2
    · have idle := idleTarget_mono sameCurrent counted moreQueued moreTotal
      rw [policy_of_not behind]
      by_cases later : Deep second ∧ Growing second
      · exact idle.trans (idleTarget_lt_policy later.1 later.2).le
      · rwa [policy_of_not later]
  · intro ctx _
    refine ⟨policy_nonneg ctx, (current_pos ctx).ne', ?_⟩
    intro something
    have kept := current_le_policy something.ne'
    simpa [current] using kept

/-- One more request is queued, and more than one in all. -/
theorem moreLoad_backedUp :
    (policy { backedUp with totalQueuedRequests := some 9 }).1 ≤ (policy backedUp).1 ∧
      (policy backedUp).1 = 3 := by
  refine ⟨?_, by decide +kernel⟩
  exact (@moreLoad _ { backedUp with totalQueuedRequests := some 9 } backedUp rfl rfl
    (by decide +kernel) (by decide +kernel) le_rfl).1

end

end DistributedInference.CustomAutoscaling.QueueLatency
