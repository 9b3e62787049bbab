import DistributedInference.CustomAutoscaling.Deployment

/-!
# Catching up with a queue

While a queue grows, the queue policy adds replicas in proportion to how far behind the
deployment is; when nothing is left to do, it gives them back one by one.  Followed
without a delay, this says how long a deployment takes to its upper bound and back.
-/

namespace DistributedInference.CustomAutoscaling.QueueLatency

open Control

variable {ReplicaID : Type} {args : AutoscalingArgs} {plant : Plant QueueState}
variable {reading : Reading ReplicaID} {rate : Nat}

/-- Even the largest deployment would have more than `rate` times the limit queued for
each of its replicas. -/
def Behind (args : AutoscalingArgs) (rate : Nat) (ctx : Metrics ReplicaID) : Prop :=
  queuedPerReplicaLimit * rate * args.maxReplicas < queued ctx

/-- Nothing is queued, and what runs would fit the smallest deployment. -/
def Quiet (args : AutoscalingArgs) (ctx : Metrics ReplicaID) : Prop :=
  queued ctx = 0 ∧ ctx.totalNumRequests ≤ args.minReplicas

instance (ctx : Metrics ReplicaID) : Decidable (Behind args rate ctx) :=
  inferInstanceAs (Decidable (_ < _))

instance (ctx : Metrics ReplicaID) : Decidable (Quiet args ctx) :=
  inferInstanceAs (Decidable (_ ∧ _))

/-- A queue that is behind and grows gets at least `rate` replicas. -/
theorem add_rate_le_policy {ctx : AutoscalingContext ReplicaID QueueState}
    (positive : 1 ≤ rate) (few : current ctx ≤ args.maxReplicas)
    (behind : Behind args rate ctx.toMetrics) (growing : Growing ctx) :
    (current ctx + rate : ℤ) ≤ (policy ctx).1 := by
  have limitPos : (0 : ℚ) < queuedPerReplicaLimit := by decide +kernel
  have countPos : (0 : ℚ) < current ctx := by exact_mod_cast current_pos ctx
  have share : queuedPerReplicaLimit * rate < queued ctx.toMetrics / current ctx := by
    rw [lt_div_iff₀ countPos]
    refine lt_of_le_of_lt ?_ behind
    have fewer : (current ctx : ℚ) ≤ args.maxReplicas := by exact_mod_cast few
    gcongr
  have deep : Deep ctx := by
    refine lt_of_le_of_lt ?_ share
    have one : (1 : ℚ) ≤ rate := by exact_mod_cast positive
    nlinarith
  have target : (policy ctx).1 =
      current ctx + max 1 ⌊queued ctx.toMetrics / current ctx / queuedPerReplicaLimit⌋ :=
    if_pos ⟨deep, growing⟩
  have proportion :
      (rate : ℤ) ≤ ⌊queued ctx.toMetrics / current ctx / queuedPerReplicaLimit⌋ := by
    rw [Int.le_floor, Int.cast_natCast, le_div_iff₀ limitPos, mul_comm]
    exact share.le
  rw [target]
  omega

/-- One tick of a queue that is behind and grows. -/
theorem count_follow_of_behind (positive : 1 ≤ rate) (within : args.Within plant)
    (behind : Behind args rate reading.toMetrics)
    (longer : Plant.queued plant < queued reading.toMetrics) :
    min args.maxReplicas (plant.count + rate) ≤
      (args.follow policy plant reading).count := by
  have few : current (args.context reading plant.count plant.memory) ≤
      args.maxReplicas := max_le within.2 args.maxReplicas_ge
  have target := @add_rate_le_policy _ args rate
    (args.context reading plant.count plant.memory) positive few behind longer
  have asked : plant.count ≤ current (args.context reading plant.count plant.memory) :=
    le_max_left _ _
  refine le_clamp (min_le_left _ _) ?_
  have aimed : ((plant.count + rate : Nat) : ℤ) ≤
      (policy (args.context reading plant.count plant.memory)).1 := by
    omega
  exact le_trans (by exact_mod_cast min_le_right _ _) aimed

/-- One quiet tick. -/
theorem count_follow_of_quiet (within : args.Within plant)
    (quiet : Quiet args reading.toMetrics) :
    (args.follow policy plant reading).count =
      max args.minReplicas (plant.count - 1) := by
  rcases within with ⟨above, below⟩
  have ordered := args.ordered
  have aimed : (args.follow policy plant reading).count =
      clamp args.minReplicas args.maxReplicas
        (policy (args.context reading plant.count plant.memory)).1 := rfl
  have same : current (args.context reading plant.count plant.memory) =
      max plant.count 1 := rfl
  have countPos : (0 : ℚ) < (max plant.count 1 : Nat) := by
    exact_mod_cast lt_of_lt_of_le Nat.one_pos (le_max_right _ _)
  have empty : queued (args.context reading plant.count plant.memory).toMetrics = 0 := quiet.1
  have shallow : ¬ Deep (args.context reading plant.count plant.memory) := by
    rw [Deep, empty, zero_div]
    decide +kernel
  rw [aimed, policy_of_not fun both => shallow both.1, idleTarget, same]
  split
  next =>
    rw [clamp]
    omega
  next busy =>
    -- What runs fills the smallest deployment, so this is it.
    have filled : ((max plant.count 1 : Nat) : ℚ) ≤ reading.totalNumRequests := by
      have busy := not_lt.mp fun fewer => busy ⟨empty, fewer⟩
      rwa [le_div_iff₀ countPos, one_mul] at busy
    have smallest : max plant.count 1 ≤ args.minReplicas := by
      exact_mod_cast filled.trans quiet.2
    rw [clamp]
    omega

theorem queued_follow (args : AutoscalingArgs) (plant : Plant QueueState)
    (reading : Reading ReplicaID) :
    Plant.queued (args.follow policy plant reading) = queued reading.toMetrics := rfl

variable {readings : List (Reading ReplicaID)}

/-- While the queue grows and the deployment is behind, every tick adds at least `rate`
replicas until the upper bound. -/
theorem count_follow_of_growing (positive : 1 ≤ rate) (within : args.Within plant)
    (behind : ∀ reading ∈ readings, Behind args rate reading.toMetrics)
    (grows : (Plant.queued plant :: readings.map (queued ·.toMetrics)).Pairwise (· < ·)) :
    min args.maxReplicas (plant.count + readings.length * rate) ≤
      (readings.foldl (args.follow policy) plant).count := by
  induction readings generalizing plant with
  | nil => simp
  | cons reading rest ih =>
      rw [List.forall_mem_cons] at behind
      rw [List.map_cons] at grows
      rcases List.pairwise_cons.mp grows with ⟨longer, restGrows⟩
      rw [← queued_follow args plant reading] at restGrows
      have here := count_follow_of_behind positive within behind.1
        (longer _ List.mem_cons_self)
      have later := ih AutoscalingArgs.within_follow behind.2 restGrows
      rw [List.foldl_cons, List.length_cons, Nat.succ_mul]
      omega

/-- While it is quiet, every tick takes one until the lower bound. -/
theorem count_follow_of_all_quiet (within : args.Within plant)
    (quiet : ∀ reading ∈ readings, Quiet args reading.toMetrics) :
    (readings.foldl (args.follow policy) plant).count =
      max args.minReplicas (plant.count - readings.length) := by
  induction readings generalizing plant with
  | nil => simp [within.1]
  | cons reading rest ih =>
      rw [List.forall_mem_cons] at quiet
      rw [List.foldl_cons, ih AutoscalingArgs.within_follow quiet.2,
        count_follow_of_quiet within quiet.1, List.length_cons]
      omega

/-- A queue that grows for a while and a quiet spell after it: the deployment climbs by
`rate` replicas a tick or faster, and comes back by one a tick. -/
theorem count_catchUp {growing still : List (Reading ReplicaID)}
    (positive : 1 ≤ rate) (within : args.Within plant)
    (behind : ∀ reading ∈ growing, Behind args rate reading.toMetrics)
    (grows : (Plant.queued plant :: growing.map (queued ·.toMetrics)).Pairwise (· < ·))
    (quiet : ∀ reading ∈ still, Quiet args reading.toMetrics) :
    let peak := (growing.foldl (args.follow policy) plant).count
    min args.maxReplicas (plant.count + growing.length * rate) ≤ peak ∧
      ((growing ++ still).foldl (args.follow policy) plant).count =
        max args.minReplicas (peak - still.length) := by
  refine ⟨count_follow_of_growing positive within behind grows, ?_⟩
  rw [List.foldl_append, count_follow_of_all_quiet (within.foldl_follow growing) quiet]

/-- A queue of 70 and then 90 requests for up to six replicas, and five quiet ticks. -/
def surge : List (Reading String) :=
  [{ backedUp.seen with totalQueuedRequests := some 70 },
    { backedUp.seen with totalQueuedRequests := some 90 }]

def afterSurge : List (Reading String) :=
  List.replicate 5 { backedUp.seen with totalQueuedRequests := some 0, totalNumRequests := 1 }

theorem count_catchUp_surge :
    let peak := (surge.foldl (AutoscalingArgs.default.follow policy) ⟨1, none⟩).count
    5 ≤ peak ∧
      ((surge ++ afterSurge).foldl (AutoscalingArgs.default.follow policy) ⟨1, none⟩).count =
        max 1 (peak - 5) := by
  have within : AutoscalingArgs.default.Within (⟨1, none⟩ : Plant QueueState) :=
    ⟨by decide, by decide⟩
  have behind : ∀ reading ∈ surge, Behind .default 2 reading.toMetrics := by decide +kernel
  have grows :
      (Plant.queued ⟨1, none⟩ :: surge.map (queued ·.toMetrics)).Pairwise (· < ·) := by
    decide +kernel
  have quiet : ∀ reading ∈ afterSurge, Quiet .default reading.toMetrics := by decide +kernel
  exact count_catchUp (by decide) within behind grows quiet

end DistributedInference.CustomAutoscaling.QueueLatency
