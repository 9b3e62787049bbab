import DistributedInference.Control.ClosedLoop
import DistributedInference.CustomAutoscaling.QueueLatency
import DistributedInference.CustomAutoscaling.ResourcePressure
import Mathlib.Data.Vector.Defs

/-!
# Policies in a deployment

A policy names a raw target, and Serve applies the bounds of the deployment and its
delays around it.  The delays make the number of replicas follow the target at a pace
that the policy does not know.  What a policy does to a deployment is therefore said for
every pace: the resource policy moves by the ticks that saw pressure or idleness, and the
queue policy never provisions for more than the longest queue.
-/

namespace DistributedInference.CustomAutoscaling

open Control

/-- The bounds of `AutoscalingArgs` with the conditions that they are validated
against; `AutoscalingConfig` adds that they are in order. -/
structure AutoscalingArgs where
  minReplicas : Nat
  maxReplicas : Nat
  maxReplicas_ge : 1 ≤ maxReplicas
  ordered : minReplicas ≤ maxReplicas

/-- The defaults of the builder. -/
def AutoscalingArgs.default : AutoscalingArgs where
  minReplicas := 1
  maxReplicas := 6
  maxReplicas_ge := by decide
  ordered := by decide

/-- What Serve sees at a tick: what has been measured, and which replicas run, however many
there are. -/
structure Reading (ReplicaID : Type) extends Metrics ReplicaID where
  running : (count : Nat) → List.Vector ReplicaID count

section

variable {ReplicaID State : Type}

/-- The context of a tick: a reading, with the number of replicas, the bounds of the
deployment and what the policy returned last. -/
def AutoscalingArgs.context (args : AutoscalingArgs) (reading : Reading ReplicaID)
    (count : Nat) (policyState : Option State) : AutoscalingContext ReplicaID State :=
  { reading.toMetrics with
    currentNumReplicas := count
    runningReplicas := (reading.running count).toList
    length_runningReplicas := (reading.running count).toList_length
    capacityAdjustedMinReplicas := args.minReplicas
    capacityAdjustedMaxReplicas := args.maxReplicas
    policyState := policyState }

/-- A policy as the controller of a deployment. -/
def AutoscalingArgs.controller (args : AutoscalingArgs)
    (policy : AutoscalingContext ReplicaID State → ℤ × State) :
    LoopController (Reading ReplicaID) State :=
  fun reading count policyState => policy (args.context reading count policyState)

/-- A deployment that follows its policy at any pace. -/
def AutoscalingArgs.deployment (args : AutoscalingArgs)
    (policy : AutoscalingContext ReplicaID State → ℤ × State) (start : Plant State) :=
  closedLoop (args.controller policy) args.minReplicas args.maxReplicas start

/-- A deployment that follows its policy without a delay. -/
def AutoscalingArgs.follow (args : AutoscalingArgs)
    (policy : AutoscalingContext ReplicaID State → ℤ × State) :
    Plant State → Reading ReplicaID → Plant State :=
  prompt (args.controller policy) args.minReplicas args.maxReplicas

/-- Following without a delay is one of the paces. -/
theorem AutoscalingArgs.exists_run_follow (args : AutoscalingArgs)
    (policy : AutoscalingContext ReplicaID State → ℤ × State)
    (readings : List (Reading ReplicaID)) (plant : Plant State) :
    ∃ ticks, ticks.map Tick.reading = readings ∧
      (args.deployment policy plant).Run plant ticks
        (readings.foldl (args.follow policy) plant) :=
  run_prompt readings plant

/-- The number of replicas is within the bounds. -/
def AutoscalingArgs.Within (args : AutoscalingArgs) (plant : Plant State) : Prop :=
  args.minReplicas ≤ plant.count ∧ plant.count ≤ args.maxReplicas

/-- Following brings it there, whatever the policy says. -/
theorem AutoscalingArgs.within_follow {args : AutoscalingArgs}
    {policy : AutoscalingContext ReplicaID State → ℤ × State} {plant : Plant State}
    {reading : Reading ReplicaID} :
    args.Within (args.follow policy plant reading) :=
  ⟨lo_le_clamp, clamp_le_hi args.ordered⟩

theorem AutoscalingArgs.Within.foldl_follow {args : AutoscalingArgs}
    {policy : AutoscalingContext ReplicaID State → ℤ × State} {plant : Plant State}
    (within : args.Within plant)
    (readings : List (Reading ReplicaID)) :
    args.Within (readings.foldl (args.follow policy) plant) := by
  induction readings generalizing plant with
  | nil => exact within
  | cons reading rest ih => exact ih AutoscalingArgs.within_follow

/-- What is seen of the replicas `r0`, `r1` and so on where it has been measured what a
context says. -/
def AutoscalingContext.seen (ctx : AutoscalingContext String State) : Reading String :=
  { ctx.toMetrics with running := fun _ => .ofFn fun index => s!"r{index}" }

end

variable {ReplicaID : Type} {args : AutoscalingArgs}

/-! ## The resource policy -/

namespace ResourcePressure

variable {start before after : Plant PressureState} {reading : Reading ReplicaID}

instance (ctx : Metrics ReplicaID) : Decidable (SomeReading ctx) :=
  decidable_of_iff (¬((cpuByReplica ctx).entries.isEmpty = true ∧
      (memoryByReplica ctx).entries.isEmpty = true)) (by
    rw [List.isEmpty_iff, List.isEmpty_iff, not_and_or]
    rfl)

/-- Some replica reported, and all that was reported is low. -/
def Idle (ctx : Metrics ReplicaID) : Prop := SomeReading ctx ∧ AllLow ctx

instance (ctx : Metrics ReplicaID) : Decidable (Idle ctx) :=
  inferInstanceAs (Decidable (_ ∧ _))

/-- The aim of a tick, with what it is decided on. -/
theorem aim_cases (args : AutoscalingArgs) (plant : Plant PressureState)
    (reading : Reading ReplicaID) (within : args.Within plant) :
    let aimed := aim (args.controller policy) args.minReplicas args.maxReplicas plant
      reading
    SomeHigh reading.toMetrics ∧ aimed = min args.maxReplicas (plant.count + 1) ∨
    ¬SomeHigh reading.toMetrics ∧ Idle reading.toMetrics ∧
      aimed = max args.minReplicas (plant.count - 1) ∨
    ¬SomeHigh reading.toMetrics ∧ ¬Idle reading.toMetrics ∧ aimed = plant.count := by
  intro aimed
  rcases within with ⟨above, below⟩
  have targets := policy_target (args.context reading plant.count plant.memory)
  rcases targets with ⟨onHigh, onLow, onBand⟩
  have ordered := args.ordered
  by_cases high : SomeHigh reading.toMetrics
  · have target : (args.controller policy reading plant.count plant.memory).1 =
        min (args.maxReplicas : ℤ) (plant.count + 1) := onHigh high
    refine Or.inl ⟨high, ?_⟩
    simp only [aimed, aim, clamp, target]
    omega
  · refine Or.inr ?_
    by_cases idle : Idle reading.toMetrics
    · have target : (args.controller policy reading plant.count plant.memory).1 =
          max (args.minReplicas : ℤ) (plant.count - 1) := onLow idle.1 idle.2
      refine Or.inl ⟨high, idle, ?_⟩
      simp only [aimed, aim, clamp, target]
      omega
    · have target : (args.controller policy reading plant.count plant.memory).1 =
          plant.count := onBand high idle
      refine Or.inr ⟨high, idle, ?_⟩
      simp only [aimed, aim, clamp, target]
      omega

/-- A sum of ones is a count. -/
theorem sum_map_ite_eq_countP {Entry : Type} (counts : Entry → Prop)
    [DecidablePred counts] (entries : List Entry) :
    (entries.map fun entry => if counts entry then 1 else 0).sum =
      entries.countP fun entry => decide (counts entry) := by
  induction entries with
  | nil => rfl
  | cons entry rest ih =>
      rw [List.map_cons, List.sum_cons, ih, List.countP_cons]
      simp only [decide_eq_true_eq]
      omega

/-- A run gains at most a replica for each tick with a high reading. -/
theorem count_le_add_highs {ticks : List (Tick (Reading ReplicaID))}
    (run : (args.deployment policy start).Run before ticks after)
    (within : args.Within before) :
    after.count ≤
      before.count + ticks.countP fun tick => SomeHigh tick.reading.toMetrics := by
  have gains : ∀ (plant : Plant PressureState) (reading : Reading ReplicaID),
      args.minReplicas ≤ plant.count → plant.count ≤ args.maxReplicas →
      aim (args.controller policy) args.minReplicas args.maxReplicas plant reading ≤
        plant.count + if SomeHigh reading.toMetrics then 1 else 0 := by
    intro plant reading above below
    rcases aim_cases args plant reading ⟨above, below⟩ with
      ⟨high, aimed⟩ | ⟨calm, idle, aimed⟩ | ⟨calm, busy, aimed⟩
    · rw [aimed, if_pos high]
      exact min_le_right _ _
    · rw [aimed, if_neg calm]
      omega
    · rw [aimed, if_neg calm]
      omega
  have bounded := count_le_add_of_run _ args.ordered gains run within
  rwa [sum_map_ite_eq_countP] at bounded

/-- A run loses at most a replica for each tick with nothing but low readings. -/
theorem count_le_add_idles {ticks : List (Tick (Reading ReplicaID))}
    (run : (args.deployment policy start).Run before ticks after)
    (within : args.Within before) :
    before.count ≤
      after.count + ticks.countP fun tick => Idle tick.reading.toMetrics := by
  have losses : ∀ (plant : Plant PressureState) (reading : Reading ReplicaID),
      args.minReplicas ≤ plant.count → plant.count ≤ args.maxReplicas →
      plant.count ≤
        aim (args.controller policy) args.minReplicas args.maxReplicas plant reading +
          if Idle reading.toMetrics then 1 else 0 := by
    intro plant reading above below
    rcases aim_cases args plant reading ⟨above, below⟩ with
      ⟨high, aimed⟩ | ⟨calm, idle, aimed⟩ | ⟨calm, busy, aimed⟩
    · rw [aimed]
      omega
    · rw [aimed, if_pos idle]
      omega
    · rw [aimed]
      omega
  have bounded := count_le_of_run_add _ args.ordered losses run within
  rwa [sum_map_ite_eq_countP] at bounded

/-- What a run did to a deployment under the resource policy. -/
structure FollowsPressure (args : AutoscalingArgs) (before : Plant PressureState)
    (ticks : List (Tick (Reading ReplicaID))) (after : Plant PressureState) : Prop where
  within : args.Within after
  /-- Every replica gained took a tick with a high reading, -/
  gained : after.count ≤
    before.count + ticks.countP fun tick => SomeHigh tick.reading.toMetrics
  /-- and every replica lost one with nothing but low readings. -/
  lost : before.count ≤
    after.count + ticks.countP fun tick => Idle tick.reading.toMetrics

/-- At any pace, the deployment stays within its bounds, and gains and loses no more
replicas than there were ticks that asked for it. -/
theorem followsPressure {ticks : List (Tick (Reading ReplicaID))}
    (run : (args.deployment policy start).Run before ticks after)
    (within : args.Within before) : FollowsPressure args before ticks after where
  within := count_bounds_of_run run args.ordered within
  gained := count_le_add_highs run within
  lost := count_le_add_idles run within

/-- The readings of the second deployment report at least the pressure of the first,
which does report. -/
def Harder [DecidableEq ReplicaID] (reading later : Reading ReplicaID) : Prop :=
  SomeReading reading.toMetrics ∧ MorePressure reading.toMetrics later.toMetrics

/-- The aims of one tick are in order. -/
theorem aim_le_aim [DecidableEq ReplicaID] {plant other : Plant PressureState}
    {later : Reading ReplicaID} (harder : Harder reading later)
    (within : args.Within plant) (otherWithin : args.Within other)
    (le : plant.count ≤ other.count) :
    aim (args.controller policy) args.minReplicas args.maxReplicas plant reading ≤
      aim (args.controller policy) args.minReplicas args.maxReplicas other later := by
  rcases within with ⟨above, below⟩
  rcases otherWithin with ⟨otherAbove, otherBelow⟩
  rcases aim_cases args plant reading ⟨above, below⟩ with
    ⟨high, aimed⟩ | ⟨calm, idle, aimed⟩ | ⟨calm, busy, aimed⟩
  · rcases aim_cases args other later ⟨otherAbove, otherBelow⟩ with
      ⟨_, otherAimed⟩ | ⟨otherCalm, _⟩ | ⟨otherCalm, _⟩
    · rw [aimed, otherAimed]
      omega
    · exact absurd (harder.2.someHigh high) otherCalm
    · exact absurd (harder.2.someHigh high) otherCalm
  · rcases aim_cases args other later ⟨otherAbove, otherBelow⟩ with
      ⟨_, otherAimed⟩ | ⟨_, _, otherAimed⟩ | ⟨_, _, otherAimed⟩
    · rw [aimed, otherAimed]
      omega
    · rw [aimed, otherAimed]
      omega
    · rw [aimed, otherAimed]
      omega
  · rcases aim_cases args other later ⟨otherAbove, otherBelow⟩ with
      ⟨_, otherAimed⟩ | ⟨_, otherIdle, _⟩ | ⟨_, _, otherAimed⟩
    · rw [aimed, otherAimed]
      omega
    · exact absurd ⟨harder.1, harder.2.allLow otherIdle.2⟩ busy
    · rw [aimed, otherAimed]
      exact le

/-- Of two deployments that follow without a delay, the one that starts with at least as
many replicas and sees at least as much pressure in every tick keeps at least as many. -/
theorem follow_le_follow [DecidableEq ReplicaID]
    {readings others : List (Reading ReplicaID)}
    (harder : List.Forall₂ Harder readings others) {plant other : Plant PressureState}
    (within : args.Within plant) (otherWithin : args.Within other)
    (le : plant.count ≤ other.count) :
    (readings.foldl (args.follow policy) plant).count ≤
      (others.foldl (args.follow policy) other).count := by
  refine prompt_le_prompt Harder args.ordered ?_ harder within.1 otherWithin.2 le
  intro plant other reading later harder above below le
  exact aim_le_aim harder ⟨above, le.trans below⟩ ⟨above.trans le, below⟩ le

/-- While the pressure lasts, every tick adds a replica until the upper bound. -/
theorem count_follow_of_someHigh
    (readings : List (Reading ReplicaID))
    (high : ∀ reading ∈ readings, SomeHigh reading.toMetrics) {plant : Plant PressureState}
    (within : args.Within plant) :
    (readings.foldl (args.follow policy) plant).count =
      min args.maxReplicas (plant.count + readings.length) := by
  induction readings generalizing plant with
  | nil => simp [within.2]
  | cons reading rest ih =>
      rw [List.forall_mem_cons] at high
      have aimed : (args.follow policy plant reading).count =
          min args.maxReplicas (plant.count + 1) := by
        rcases aim_cases args plant reading within with ⟨_, aimed⟩ | ⟨calm, _⟩ | ⟨calm, _⟩
        · exact aimed
        · exact absurd high.1 calm
        · exact absurd high.1 calm
      rw [List.foldl_cons, ih high.2 AutoscalingArgs.within_follow, aimed, List.length_cons]
      omega

/-- While the deployment is idle, every tick takes one until the lower bound. -/
theorem count_follow_of_idle
    (readings : List (Reading ReplicaID))
    (idle : ∀ reading ∈ readings, Idle reading.toMetrics) {plant : Plant PressureState}
    (within : args.Within plant) :
    (readings.foldl (args.follow policy) plant).count =
      max args.minReplicas (plant.count - readings.length) := by
  induction readings generalizing plant with
  | nil => simp [within.1]
  | cons reading rest ih =>
      rw [List.forall_mem_cons] at idle
      have aimed : (args.follow policy plant reading).count =
          max args.minReplicas (plant.count - 1) := by
        rcases aim_cases args plant reading within with
          ⟨high, _⟩ | ⟨_, _, aimed⟩ | ⟨_, busy, _⟩
        · exact absurd idle.1.2 high.not_allLow
        · exact aimed
        · exact absurd idle.1 busy
      rw [List.foldl_cons, ih idle.2 AutoscalingArgs.within_follow, aimed, List.length_cons]
      omega

/-- A spell of pressure and an idle spell after it, both of any length: the deployment
climbs to its upper bound and back, one replica a tick. -/
theorem count_follow_spells
    (pressed idled : List (Reading ReplicaID))
    (high : ∀ reading ∈ pressed, SomeHigh reading.toMetrics)
    (idle : ∀ reading ∈ idled, Idle reading.toMetrics) {plant : Plant PressureState}
    (within : args.Within plant) :
    ((pressed ++ idled).foldl (args.follow policy) plant).count =
      max args.minReplicas
        (min args.maxReplicas (plant.count + pressed.length) - idled.length) := by
  have peak := count_follow_of_someHigh pressed high within
  rw [List.foldl_append, count_follow_of_idle idled idle
    (within.foldl_follow pressed), peak]

/-- A deployment before its first tick. -/
def threeReplicas : Plant PressureState := ⟨3, none⟩

/-- One reading is idle and one is in the band. -/
theorem followsPressure_oneOfThree :
    ∃ ticks after, ticks.map Tick.reading = [oneOfThree.seen, busier.seen] ∧
      FollowsPressure .default threeReplicas ticks after := by
  rcases AutoscalingArgs.default.exists_run_follow policy [oneOfThree.seen, busier.seen]
    threeReplicas with ⟨ticks, same, run⟩
  have within : AutoscalingArgs.default.Within threeReplicas := ⟨by decide, by decide⟩
  exact ⟨ticks, _, same, followsPressure run within⟩

theorem follow_le_follow_busier :
    ([oneOfThree.seen].foldl (AutoscalingArgs.default.follow policy) threeReplicas).count ≤
      ([busier.seen].foldl (AutoscalingArgs.default.follow policy) threeReplicas).count := by
  have within : AutoscalingArgs.default.Within threeReplicas := ⟨by decide, by decide⟩
  have harder : List.Forall₂ Harder [oneOfThree.seen] [busier.seen] := by
    refine .cons ⟨?_, by decide +kernel⟩ .nil
    exact .inl (by decide +kernel)
  exact follow_le_follow harder within within le_rfl

theorem count_follow_spells_threeReplicas :
    ((List.replicate 9 overCapacity.seen ++ [oneOfThree.seen]).foldl
      (AutoscalingArgs.default.follow policy) threeReplicas).count = 5 := by
  have high : ∀ reading ∈ List.replicate 9 overCapacity.seen, SomeHigh reading.toMetrics := by
    intro reading member
    rw [List.eq_of_mem_replicate member]
    decide +kernel
  have idle : ∀ reading ∈ [oneOfThree.seen], Idle reading.toMetrics := by decide +kernel
  have within : AutoscalingArgs.default.Within threeReplicas := ⟨by decide, by decide⟩
  exact count_follow_spells _ _ high idle within

end ResourcePressure

/-! ## The queue policy -/

namespace QueueLatency

variable {start before after : Plant QueueState} {reading : Reading ReplicaID}

/-- Going from `count` replicas in proportion to the queue never overshoots what the
queue needs at the limit per replica, and one. -/
theorem add_floor_le {count : Nat} {backlog : ℚ} (positive : 1 ≤ count)
    (deep : (count : ℚ) < backlog) :
    (count : ℤ) + max 1 ⌊backlog / count⌋ ≤ ⌊backlog⌋ + 1 := by
  have countPos : (0 : ℚ) < count := by exact_mod_cast positive
  have below : (count : ℤ) ≤ ⌊backlog⌋ := Int.le_floor.mpr (by exact_mod_cast deep.le)
  have least : 1 ≤ ⌊backlog / count⌋ := by
    apply Int.le_floor.mpr
    rw [Int.cast_one, le_div_iff₀ countPos]
    linarith
  have product : ⌊backlog / count⌋ * count ≤ ⌊backlog⌋ := by
    apply Int.le_floor.mpr
    push_cast
    exact (le_div_iff₀ countPos).mp (Int.floor_le _)
  rw [max_eq_right least]
  -- For factors of at least one, the sum is at most the product and one.
  have factors : 0 ≤ (⌊backlog / count⌋ - 1) * ((count : ℤ) - 1) :=
    mul_nonneg (by omega) (by omega)
  linarith [factors, product]

/-- The replicas that a queue needs at the limit per replica, and one more. -/
def needed (queue : ℚ) : Nat := ⌊queue / queuedPerReplicaLimit⌋.toNat + 1

/-- The target is at most the present number or what the queue needs. -/
theorem policy_le (ctx : AutoscalingContext ReplicaID QueueState) :
    (policy ctx).1 ≤ max (current ctx) (needed (queued ctx.toMetrics)) := by
  by_cases behind : Deep ctx ∧ Growing ctx
  · have limitPos : (0 : ℚ) < queuedPerReplicaLimit := by decide +kernel
    have countPos : (0 : ℚ) < current ctx := by exact_mod_cast current_pos ctx
    have deep : ((current ctx : Nat) : ℚ) < queued ctx.toMetrics / queuedPerReplicaLimit := by
      rw [lt_div_iff₀ limitPos, mul_comm, ← lt_div_iff₀ countPos]
      exact behind.1
    have overshoot := add_floor_le (current_pos ctx) deep
    have target : (policy ctx).1 = current ctx +
        max 1 ⌊queued ctx.toMetrics / queuedPerReplicaLimit / current ctx⌋ := by
      rw [div_right_comm]
      exact if_pos behind
    rw [target]
    refine overshoot.trans ?_
    simp only [needed]
    omega
  · rw [policy_of_not behind]
    have bounds := idleTarget_bounds ctx
    omega

/-- At any pace, a deployment has no more replicas than it had at the start, or than the
longest queue of the run needs. -/
theorem count_le_needed {ticks : List (Tick (Reading ReplicaID))}
    (run : (args.deployment policy start).Run before ticks after)
    (within : args.Within before) (longest : ℚ)
    (bounded : ∀ tick ∈ ticks, queued tick.reading.toMetrics ≤ longest) :
    after.count ≤ max before.count (needed longest) := by
  apply count_mem_of_run (Set.Iic (max before.count (needed longest))) Set.ordConnected_Iic
    ?_ run (Set.mem_Iic.mpr (le_max_left _ _))
  intro plant tick member inside
  have limitPos : (0 : ℚ) < queuedPerReplicaLimit := by decide +kernel
  have shorter : needed (queued tick.reading.toMetrics) ≤ needed longest := by
    have floors := Int.floor_le_floor
      (div_le_div_of_nonneg_right (bounded tick member) limitPos.le)
    simp only [needed]
    omega
  have target := policy_le (args.context tick.reading plant.count plant.memory)
  apply clamp_le (within.1.trans (le_max_left _ _))
  refine target.trans ?_
  have inside : plant.count ≤ max before.count (needed longest) := inside
  have one : 1 ≤ needed longest := Nat.le_add_left 1 _
  have same : current (args.context tick.reading plant.count plant.memory) =
      max plant.count 1 := rfl
  have sameQueue : queued (args.context tick.reading plant.count plant.memory).toMetrics =
      queued tick.reading.toMetrics := rfl
  rw [same, sameQueue]
  omega

/-- What the policy remembers of the queue. -/
def Plant.queued (plant : Plant QueueState) : ℚ :=
  (plant.memory.map QueueState.queued).getD 0

/-- Two ticks of a queue of ten, and one of a queue of eight. -/
def draining : List (Reading String) :=
  [backedUp.seen, backedUp.seen, { backedUp.seen with totalQueuedRequests := some 8 }]

theorem count_le_needed_draining :
    ∃ ticks after, ticks.map Tick.reading = draining ∧
      (AutoscalingArgs.default.deployment policy ⟨1, none⟩).Run ⟨1, none⟩ ticks after ∧
      after.count ≤ 3 := by
  rcases AutoscalingArgs.default.exists_run_follow policy draining ⟨1, none⟩ with
    ⟨ticks, same, run⟩
  have bounded : ∀ tick ∈ ticks, queued tick.reading.toMetrics ≤ 10 := by
    have readings : ∀ reading ∈ draining, queued reading.toMetrics ≤ 10 := by decide +kernel
    intro tick member
    exact readings _ (same ▸ List.mem_map_of_mem member)
  have within : AutoscalingArgs.default.Within (⟨1, none⟩ : Plant QueueState) :=
    ⟨by decide, by decide⟩
  have overshoot := count_le_needed run within 10 bounded
  have three : max 1 (needed 10) = 3 := by decide +kernel
  exact ⟨ticks, _, same, run, three ▸ overshoot⟩

end QueueLatency

end DistributedInference.CustomAutoscaling
