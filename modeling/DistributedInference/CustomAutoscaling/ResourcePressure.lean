import DistributedInference.CustomAutoscaling.Context
import DistributedInference.Python.Numbers

/-!
# The resource policy

`policy_resource_pressure.policy` moves the number of replicas by one step, on the
worst reading of each metric.  A metric that no replica reports counts as zero.
-/

namespace DistributedInference.CustomAutoscaling.ResourcePressure

open Python

/-- `CPU_HIGH`. -/
def cpuHigh : ℚ := 80

/-- `MEMORY_HIGH`. -/
def memoryHigh : ℚ := 85

/-- `CPU_LOW`. -/
def cpuLow : ℚ := 30

/-- `MEMORY_LOW`. -/
def memoryLow : ℚ := 40

/-- The second value that `policy` returns. -/
structure PressureState where
  reason : String
  maxCpuPercent : Option ℚ := none
  maxMemoryPercent : Option ℚ := none
  reportingReplicas : Nat
  deriving DecidableEq, Repr

variable {ReplicaID : Type} {ctx : Metrics ReplicaID}

/-- `(ctx.aggregated_metrics or {}).get(metric, {})`. -/
def readingsOf (ctx : Metrics ReplicaID) (metric : String) :
    AList fun _ : ReplicaID => ℚ :=
  ((ctx.aggregatedMetrics.getD ∅).lookup metric).getD ∅

/-- `cpu_by_replica`. -/
def cpuByReplica (ctx : Metrics ReplicaID) : AList fun _ : ReplicaID => ℚ :=
  readingsOf ctx "cpu_percent"

/-- `memory_by_replica`. -/
def memoryByReplica (ctx : Metrics ReplicaID) : AList fun _ : ReplicaID => ℚ :=
  readingsOf ctx "memory_percent"

/-- `readings.values()`. -/
def values (readings : AList fun _ : ReplicaID => ℚ) : List ℚ :=
  readings.entries.map Sigma.snd

/-- `max(values, default=0.0)`. -/
def maxOrZero (values : List ℚ) : ℚ :=
  values.max?.getD 0

/-- `policy`. -/
def policy (ctx : AutoscalingContext ReplicaID PressureState) : ℤ × PressureState :=
  let cpu := cpuByReplica ctx.toMetrics
  let memory := memoryByReplica ctx.toMetrics
  let current : ℤ := ctx.currentNumReplicas
  if cpu.entries.isEmpty ∧ memory.entries.isEmpty then
    (current, { reason := "no metrics reported yet", reportingReplicas := 0 })
  else
    let maxCpu := maxOrZero (values cpu)
    let maxMemory := maxOrZero (values memory)
    let (target, reason) :=
      if cpuHigh < maxCpu ∨ memoryHigh < maxMemory then
        (min ctx.capacityAdjustedMaxReplicas (current + 1), "pressure high")
      else if maxCpu < cpuLow ∧ maxMemory < memoryLow then
        (max ctx.capacityAdjustedMinReplicas (current - 1), "pressure low")
      else (current, "in band")
    (target, {
      reason := reason
      maxCpuPercent := some (roundTo 1 maxCpu)
      maxMemoryPercent := some (roundTo 1 maxMemory)
      reportingReplicas := cpu.entries.length })

/-! ## The worst reading -/

/-- The greatest value, or zero if there is none. -/
theorem maxOrZero_cases (values : List ℚ) :
    values = [] ∧ maxOrZero values = 0 ∨
      maxOrZero values ∈ values ∧ ∀ value ∈ values, value ≤ maxOrZero values := by
  cases worst : values.max? with
  | none =>
      have empty := List.max?_eq_none_iff.mp worst
      subst empty
      exact .inl ⟨rfl, rfl⟩
  | some highest =>
      rw [maxOrZero, worst, Option.getD_some]
      exact .inr (List.max?_eq_some_iff.mp worst)

theorem lt_maxOrZero_iff {mark : ℚ} (nonneg : 0 ≤ mark) (values : List ℚ) :
    mark < maxOrZero values ↔ ∃ value ∈ values, mark < value := by
  rcases maxOrZero_cases values with ⟨rfl, zero⟩ | ⟨member, bound⟩
  · rw [zero]
    simpa using nonneg
  · constructor
    · intro above
      exact ⟨maxOrZero values, member, above⟩
    · intro exceeded
      rcases exceeded with ⟨value, found, above⟩
      exact above.trans_le (bound value found)

theorem maxOrZero_lt_iff {mark : ℚ} (positive : 0 < mark) (values : List ℚ) :
    maxOrZero values < mark ↔ ∀ value ∈ values, value < mark := by
  rcases maxOrZero_cases values with ⟨rfl, zero⟩ | ⟨member, bound⟩
  · rw [zero]
    simpa using positive
  · constructor
    · intro below value found
      exact (bound value found).trans_lt below
    · intro all
      exact all _ member

/-! ## The three answers -/

section

variable (ctx : Metrics ReplicaID)

/-- Some replica reported something. -/
def SomeReading : Prop :=
  (cpuByReplica ctx).entries ≠ [] ∨ (memoryByReplica ctx).entries ≠ []

/-- Some reading is above its high mark. -/
def SomeHigh : Prop :=
  (∃ cpu ∈ values (cpuByReplica ctx), cpuHigh < cpu) ∨
    ∃ memory ∈ values (memoryByReplica ctx), memoryHigh < memory

instance : Decidable (SomeHigh ctx) := inferInstanceAs (Decidable (_ ∨ _))

/-- All readings are below their low marks. -/
def AllLow : Prop :=
  (∀ cpu ∈ values (cpuByReplica ctx), cpu < cpuLow) ∧
    ∀ memory ∈ values (memoryByReplica ctx), memory < memoryLow

instance : Decidable (AllLow ctx) := inferInstanceAs (Decidable (_ ∧ _))

end

theorem SomeHigh.not_allLow (high : SomeHigh ctx) : ¬ AllLow ctx := by
  intro low
  rcases high with ⟨cpu, member, above⟩ | ⟨memory, member, above⟩
  · have marks : cpuLow < cpuHigh := by decide +kernel
    exact absurd (above.trans (low.1 cpu member)) marks.not_gt
  · have marks : memoryLow < memoryHigh := by decide +kernel
    exact absurd (above.trans (low.2 memory member)) marks.not_gt

theorem SomeHigh.someReading (high : SomeHigh ctx) : SomeReading ctx := by
  rcases high with ⟨cpu, member, _⟩ | ⟨memory, member, _⟩
  · rcases List.mem_map.mp member with ⟨entry, listed, _⟩
    exact .inl (List.ne_nil_of_mem listed)
  · rcases List.mem_map.mp member with ⟨entry, listed, _⟩
    exact .inr (List.ne_nil_of_mem listed)

/-- The target of `policy`, by what the replicas report. -/
theorem policy_target (ctx : AutoscalingContext ReplicaID PressureState) :
    (SomeHigh ctx.toMetrics → (policy ctx).1 =
      min ctx.capacityAdjustedMaxReplicas (ctx.currentNumReplicas + 1)) ∧
    (SomeReading ctx.toMetrics → AllLow ctx.toMetrics → (policy ctx).1 =
      max ctx.capacityAdjustedMinReplicas (ctx.currentNumReplicas - 1)) ∧
    (¬ SomeHigh ctx.toMetrics → ¬ (SomeReading ctx.toMetrics ∧ AllLow ctx.toMetrics) →
      (policy ctx).1 = ctx.currentNumReplicas) := by
  have heard_iff : ¬ ((cpuByReplica ctx.toMetrics).entries.isEmpty = true ∧
      (memoryByReplica ctx.toMetrics).entries.isEmpty = true) ↔
        SomeReading ctx.toMetrics := by
    rw [List.isEmpty_iff, List.isEmpty_iff, not_and_or]
    rfl
  have high_iff : (cpuHigh < maxOrZero (values (cpuByReplica ctx.toMetrics)) ∨
      memoryHigh < maxOrZero (values (memoryByReplica ctx.toMetrics))) ↔
        SomeHigh ctx.toMetrics := by
    rw [lt_maxOrZero_iff (by decide +kernel), lt_maxOrZero_iff (by decide +kernel)]
    rfl
  have low_iff : (maxOrZero (values (cpuByReplica ctx.toMetrics)) < cpuLow ∧
      maxOrZero (values (memoryByReplica ctx.toMetrics)) < memoryLow) ↔
        AllLow ctx.toMetrics := by
    rw [maxOrZero_lt_iff (by decide +kernel), maxOrZero_lt_iff (by decide +kernel)]
    rfl
  simp only [policy, high_iff, low_iff]
  refine ⟨?_, ?_, ?_⟩
  · intro high
    rw [if_neg (heard_iff.mpr high.someReading), if_pos high]
  · intro reading low
    rw [if_neg (heard_iff.mpr reading), if_neg fun high => high.not_allLow low,
      if_pos low]
  · intro notHigh notLow
    by_cases reading : SomeReading ctx.toMetrics
    · rw [if_neg (heard_iff.mpr reading), if_neg notHigh,
        if_neg fun low => notLow ⟨reading, low⟩]
    · rw [if_pos (not_not.mp (mt heard_iff.mp reading))]

/-! ## Scaling down on missing data -/

/-- The target is below the current number of replicas only on complete and low
readings exactly if two things do not happen: a high reading while the upper bound
is below the current number, and low readings that are incomplete while the lower
bound leaves room. -/
theorem downscalesOnCompleteData_iff
    (ctx : AutoscalingContext ReplicaID PressureState) :
    ((policy ctx).1 < ctx.currentNumReplicas →
      (∀ replica ∈ ctx.runningReplicas,
        replica ∈ cpuByReplica ctx.toMetrics ∧
          replica ∈ memoryByReplica ctx.toMetrics) ∧ AllLow ctx.toMetrics) ↔
    (SomeHigh ctx.toMetrics → ctx.currentNumReplicas ≤ ctx.capacityAdjustedMaxReplicas) ∧
    (SomeReading ctx.toMetrics → AllLow ctx.toMetrics →
      ctx.capacityAdjustedMinReplicas < ctx.currentNumReplicas →
      ∀ replica ∈ ctx.runningReplicas,
        replica ∈ cpuByReplica ctx.toMetrics ∧
          replica ∈ memoryByReplica ctx.toMetrics) := by
  rcases policy_target ctx with ⟨onHigh, onLow, onBand⟩
  by_cases high : SomeHigh ctx.toMetrics
  · have target := onHigh high
    have notLow := high.not_allLow
    constructor
    · intro property
      refine ⟨fun _ => ?_, fun _ low => absurd low notLow⟩
      apply le_of_not_gt
      intro beyond
      exact notLow (property (by omega)).2
    · intro condition below
      have bound := condition.1 high
      omega
  · by_cases low : SomeReading ctx.toMetrics ∧ AllLow ctx.toMetrics
    · have target := onLow low.1 low.2
      constructor
      · intro property
        refine ⟨fun contrary => absurd contrary high, fun _ _ room => ?_⟩
        exact (property (by omega)).1
      · intro condition below
        exact ⟨condition.2 low.1 low.2 (by omega), low.2⟩
    · have target := onBand high low
      constructor
      · intro _
        exact ⟨fun contrary => absurd contrary high,
          fun reading allLow => absurd ⟨reading, allLow⟩ low⟩
      · intro _ below
        omega

/-- Three replicas run, and one has reported. -/
def oneOfThree : AutoscalingContext String PressureState where
  currentNumReplicas := 3
  runningReplicas := ["r0", "r1", "r2"]
  totalNumRequests := 9
  totalQueuedRequests := none
  aggregatedMetrics := some ((AList.singleton "cpu_percent"
    (AList.singleton "r0" 5)).insert "memory_percent" (AList.singleton "r0" 10))
  capacityAdjustedMinReplicas := 1
  capacityAdjustedMaxReplicas := 6

theorem oneOfThree_downscales :
    (policy oneOfThree).1 = 2 ∧
    ¬ ((policy oneOfThree).1 < oneOfThree.currentNumReplicas →
      (∀ replica ∈ oneOfThree.runningReplicas,
        replica ∈ cpuByReplica oneOfThree.toMetrics ∧
          replica ∈ memoryByReplica oneOfThree.toMetrics) ∧
      AllLow oneOfThree.toMetrics) := by
  have target : (policy oneOfThree).1 = 2 := by decide +kernel
  refine ⟨target, ?_⟩
  intro property
  have below : (policy oneOfThree).1 < oneOfThree.currentNumReplicas := by
    rw [target]
    decide
  have reported := ((property below).1 "r1" (by decide)).1
  revert reported
  decide +kernel

/-! ## One step -/

/-- The target is one step away at most, not below the current number on a high
reading and not above it on low ones exactly if the current number is within the
bound that the step is clamped to. -/
theorem oneStep_iff (ctx : AutoscalingContext ReplicaID PressureState) :
    (|(policy ctx).1 - ctx.currentNumReplicas| ≤ 1 ∧
      (SomeHigh ctx.toMetrics → ctx.currentNumReplicas ≤ (policy ctx).1) ∧
      (AllLow ctx.toMetrics → (policy ctx).1 ≤ ctx.currentNumReplicas)) ↔
    (SomeHigh ctx.toMetrics → ctx.currentNumReplicas ≤ ctx.capacityAdjustedMaxReplicas) ∧
    (SomeReading ctx.toMetrics → AllLow ctx.toMetrics →
      ctx.capacityAdjustedMinReplicas ≤ ctx.currentNumReplicas) := by
  rcases policy_target ctx with ⟨onHigh, onLow, onBand⟩
  rw [abs_le]
  by_cases high : SomeHigh ctx.toMetrics
  · have target := onHigh high
    have notLow := high.not_allLow
    simp only [high, notLow, true_implies, false_implies, implies_true, and_true]
    omega
  · by_cases low : SomeReading ctx.toMetrics ∧ AllLow ctx.toMetrics
    · have target := onLow low.1 low.2
      simp only [high, low.1, low.2, true_implies, false_implies, true_and]
      omega
    · have target := onBand high low
      constructor
      · intro _
        exact ⟨fun contrary => absurd contrary high,
          fun reading allLow => absurd ⟨reading, allLow⟩ low⟩
      · intro _
        refine ⟨by omega, fun _ => target.ge, fun _ => target.le⟩

/-- Five replicas run while the upper bound has dropped to three. -/
def overCapacity : AutoscalingContext String PressureState where
  currentNumReplicas := 5
  runningReplicas := ["r0", "r1", "r2", "r3", "r4"]
  totalNumRequests := 25
  totalQueuedRequests := none
  aggregatedMetrics := some ((AList.singleton "cpu_percent"
    (AList.singleton "r0" 95)).insert "memory_percent" (AList.singleton "r0" 60))
  capacityAdjustedMinReplicas := 1
  capacityAdjustedMaxReplicas := 3

theorem overCapacity_dropped :
    SomeHigh overCapacity.toMetrics ∧ (policy overCapacity).1 = 3 ∧
    ¬ (|(policy overCapacity).1 - overCapacity.currentNumReplicas| ≤ 1 ∧
      (SomeHigh overCapacity.toMetrics →
        overCapacity.currentNumReplicas ≤ (policy overCapacity).1) ∧
      (AllLow overCapacity.toMetrics →
        (policy overCapacity).1 ≤ overCapacity.currentNumReplicas)) := by
  have target : (policy overCapacity).1 = 3 := by decide +kernel
  refine ⟨by decide +kernel, target, ?_⟩
  intro property
  have step := property.1
  rw [target] at step
  revert step
  decide

/-! ## More pressure -/

section

variable [DecidableEq ReplicaID]

/-- Every reading of the first map is in the second, and no smaller there. -/
def Covers (first second : AList fun _ : ReplicaID => ℚ) : Prop :=
  ∀ reading ∈ first.entries, ∃ larger ∈ second.lookup reading.1, reading.2 ≤ larger

instance (first second : AList fun _ : ReplicaID => ℚ) :
    Decidable (Covers first second) :=
  inferInstanceAs (Decidable (∀ reading ∈ first.entries, _))

/-- The second context reports at least the pressure of the first. -/
def MorePressure (first second : Metrics ReplicaID) : Prop :=
  Covers (cpuByReplica first) (cpuByReplica second) ∧
    Covers (memoryByReplica first) (memoryByReplica second)

instance (first second : Metrics ReplicaID) : Decidable (MorePressure first second) :=
  inferInstanceAs (Decidable (_ ∧ _))

theorem Covers.exists_value {first second : AList fun _ : ReplicaID => ℚ}
    (covers : Covers first second) {value : ℚ} (member : value ∈ values first) :
    ∃ larger ∈ values second, value ≤ larger := by
  rcases List.mem_map.mp member with ⟨reading, listed, rfl⟩
  rcases covers reading listed with ⟨larger, found, le⟩
  exact ⟨larger, List.mem_map.mpr ⟨_, AList.mem_lookup_iff.mp found, rfl⟩, le⟩

theorem MorePressure.someHigh {first second : Metrics ReplicaID}
    (more : MorePressure first second)
    (high : SomeHigh first) : SomeHigh second := by
  rcases high with ⟨cpu, member, above⟩ | ⟨memory, member, above⟩
  · rcases more.1.exists_value member with ⟨larger, listed, le⟩
    exact .inl ⟨larger, listed, above.trans_le le⟩
  · rcases more.2.exists_value member with ⟨larger, listed, le⟩
    exact .inr ⟨larger, listed, above.trans_le le⟩

theorem MorePressure.allLow {first second : Metrics ReplicaID}
    (more : MorePressure first second) (low : AllLow second) : AllLow first := by
  constructor
  · intro cpu member
    rcases more.1.exists_value member with ⟨larger, listed, le⟩
    exact le.trans_lt (low.1 larger listed)
  · intro memory member
    rcases more.2.exists_value member with ⟨larger, listed, le⟩
    exact le.trans_lt (low.2 larger listed)

variable {first second : AutoscalingContext ReplicaID PressureState}

/-- More pressure never lowers the target, as long as the current number of replicas
is within the bounds. -/
theorem morePressure (sameReplicas : first.currentNumReplicas = second.currentNumReplicas)
    (sameMin : first.capacityAdjustedMinReplicas = second.capacityAdjustedMinReplicas)
    (sameMax : first.capacityAdjustedMaxReplicas = second.capacityAdjustedMaxReplicas)
    (aboveMin : first.capacityAdjustedMinReplicas ≤ first.currentNumReplicas)
    (belowMax : first.currentNumReplicas ≤ first.capacityAdjustedMaxReplicas)
    (reading : SomeReading first.toMetrics)
    (more : MorePressure first.toMetrics second.toMetrics) :
    (policy first).1 ≤ (policy second).1 := by
  rcases policy_target first with ⟨onHigh, onLow, onBand⟩
  rcases policy_target second with ⟨onHigh', onLow', onBand'⟩
  rw [← sameReplicas, ← sameMax] at onHigh'
  rw [← sameReplicas, ← sameMin] at onLow'
  rw [← sameReplicas] at onBand'
  by_cases high : SomeHigh first.toMetrics
  · rw [onHigh high, onHigh' (more.someHigh high)]
  · -- Without a high reading the first target is at most the current number.
    have held : (policy first).1 ≤ first.currentNumReplicas := by
      by_cases low : AllLow first.toMetrics
      · rw [onLow reading low]
        omega
      · exact (onBand high fun both => low both.2).le
    by_cases high' : SomeHigh second.toMetrics
    · rw [onHigh' high']
      omega
    · by_cases low' : SomeReading second.toMetrics ∧ AllLow second.toMetrics
      · rw [onLow reading (more.allLow low'.2), onLow' low'.1 low'.2]
      · rwa [onBand' high' low']

end

/-- The replica that has reported is busier, and a second one reports. -/
def busier : AutoscalingContext String PressureState :=
  { oneOfThree with
    aggregatedMetrics := some (AList.singleton "cpu_percent"
      ((AList.singleton "r0" 50).insert "r1" 60) |>.insert "memory_percent"
        (AList.singleton "r0" 10)) }

theorem morePressure_busier :
    (policy oneOfThree).1 ≤ (policy busier).1 ∧ (policy busier).1 = 3 := by
  have more : MorePressure oneOfThree.toMetrics busier.toMetrics := by decide +kernel
  have reading : SomeReading oneOfThree.toMetrics := .inl (by decide +kernel)
  exact ⟨morePressure rfl rfl rfl (by decide) (by decide) reading more,
    by decide +kernel⟩

end DistributedInference.CustomAutoscaling.ResourcePressure
