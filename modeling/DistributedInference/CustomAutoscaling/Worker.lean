import DistributedInference.CustomAutoscaling.Deployment
import DistributedInference.Python.Checksum
import Mathlib.Algebra.Order.Field.Rat
import Mathlib.Tactic.Linarith

/-!
# The worker and the signal it publishes

A replica of `Worker` computes checksums and reports its own resource use under two
names.  The controller files what the replicas report under these names, and the resource
policy looks them up again, so what it decides can be said in terms of the processes
behind the replicas.
-/

namespace DistributedInference.CustomAutoscaling

open Control Python

/-! ## The worker -/

/-- `WorkRequest`, with the bound that its field is validated against. -/
structure WorkRequest where
  iterations : Nat
  iterations_ge : 1 ≤ iterations

/-- The state of a `Worker`. -/
structure Worker where
  /-- `psutil.virtual_memory().total`, in bytes. -/
  systemMemory : Nat
  systemMemory_pos : 0 < systemMemory
  completed : Nat

/-- What `psutil` says about the process of a replica. -/
structure Usage where
  cpuPercent : ℚ
  /-- `memory_full_info().uss`, in bytes. -/
  uss : Nat

/-- What `work` returns. -/
structure WorkResult where
  checksum : Nat
  elapsedS : ℚ
  completedByThisReplica : Nat
  replica : String
  deriving DecidableEq

namespace Worker

/-- `__init__`. -/
def init (systemMemory : Nat) (positive : 0 < systemMemory) : Worker where
  systemMemory := systemMemory
  systemMemory_pos := positive
  completed := 0

/-- `record_autoscaling_stats`. -/
def recordAutoscalingStats (worker : Worker) (usage : Usage) : List (String × ℚ) :=
  [("cpu_percent", usage.cpuPercent),
    ("memory_percent", (usage.uss : ℚ) / worker.systemMemory * 100)]

/-- `work`, which runs without interruption, with the time it measures and the id of the
replica. -/
def work (worker : Worker) (request : WorkRequest) (elapsed : ℚ) (replica : String) :
    WorkResult × Worker :=
  let checksum := (crc32From (utf8 "payload"))^[request.iterations] 0
  let worker := { worker with completed := worker.completed + 1 }
  ({ checksum := checksum
     elapsedS := roundTo 3 elapsed
     completedByThisReplica := worker.completed
     replica := replica }, worker)

/-- The requests that a replica serves one after another, each with the time it takes. -/
def works (worker : Worker) (replica : String) : List (WorkRequest × ℚ) → List WorkResult
  | [] => []
  | (request, elapsed) :: rest =>
      let (result, worker) := worker.work request elapsed replica
      result :: worker.works replica rest

/-- A checksum depends on nothing but the request, and the results of a replica are
numbered in turn. -/
theorem works_getElem (worker : Worker) (replica : String)
    (requests : List (WorkRequest × ℚ)) (index : Nat) :
    (worker.works replica requests)[index]? =
      (requests[index]?).map fun served =>
        { checksum := crc32 (repeated (utf8 "payload") served.1.iterations)
          elapsedS := roundTo 3 served.2
          completedByThisReplica := worker.completed + index + 1
          replica := replica } := by
  induction requests generalizing worker index with
  | nil => rfl
  | cons served rest ih =>
      cases index with
      | zero => simp [works, work, iterate_crc32From]
      | succ index =>
          simp only [works, work, List.getElem?_cons_succ, ih]
          rw [add_assoc worker.completed, add_comm 1 index, add_assoc]

end Worker

/-! ## From the replicas to the policy -/

namespace ResourcePressure

variable {ReplicaID : Type} {ctx : Metrics ReplicaID}

/-- A replica that has reported, with its worker and its use. -/
abbrev Reporting (ReplicaID : Type) := ReplicaID × Worker × Usage

/-- The controller has filed what the replicas reported: under the name of each metric,
the value of each replica that has reported it. -/
def Files (fleet : List (Reporting ReplicaID)) (ctx : Metrics ReplicaID) : Prop :=
  ∀ name replica value, ⟨replica, value⟩ ∈ (readingsOf ctx name).entries ↔
    ∃ worker usage, (replica, worker, usage) ∈ fleet ∧
      (name, value) ∈ worker.recordAutoscalingStats usage

/-- A process that is above one of its high marks. -/
def Strained (reporting : Reporting ReplicaID) : Prop :=
  80 < reporting.2.2.cpuPercent ∨
    85 * reporting.2.1.systemMemory < 100 * reporting.2.2.uss

/-- A process that is below both of its low marks. -/
def Unused (reporting : Reporting ReplicaID) : Prop :=
  reporting.2.2.cpuPercent < 30 ∧
    100 * reporting.2.2.uss < 40 * reporting.2.1.systemMemory

instance (reporting : Reporting ReplicaID) : Decidable (Strained reporting) :=
  inferInstanceAs (Decidable (_ ∨ _))

instance (reporting : Reporting ReplicaID) : Decidable (Unused reporting) :=
  inferInstanceAs (Decidable (_ ∧ _))

/-- Some process that has reported is strained. -/
def SomeStrained (fleet : List (Reporting ReplicaID)) : Prop :=
  ∃ reporting ∈ fleet, Strained reporting

/-- Some process has reported, and all that have are unused. -/
def AllUnused (fleet : List (Reporting ReplicaID)) : Prop :=
  fleet ≠ [] ∧ ∀ reporting ∈ fleet, Unused reporting

instance (fleet : List (Reporting ReplicaID)) : Decidable (SomeStrained fleet) :=
  inferInstanceAs (Decidable (∃ reporting ∈ fleet, _))

instance (fleet : List (Reporting ReplicaID)) : Decidable (AllUnused fleet) :=
  decidable_of_iff (fleet.isEmpty = false ∧ ∀ reporting ∈ fleet, Unused reporting) (by
    rw [AllUnused, ← List.isEmpty_eq_false_iff])

variable {fleet : List (Reporting ReplicaID)} {value : ℚ}

/-- A column of the table, by what the workers recorded for it. -/
theorem mem_values_iff (files : Files fleet ctx) (name : String) :
    value ∈ values (readingsOf ctx name) ↔ ∃ reporting ∈ fleet,
      (name, value) ∈ reporting.2.1.recordAutoscalingStats reporting.2.2 := by
  rw [values, List.mem_map]
  constructor
  · intro found
    rcases found with ⟨⟨replica, value⟩, listed, rfl⟩
    rcases (files name replica value).mp listed with ⟨worker, usage, member, recorded⟩
    exact ⟨_, member, recorded⟩
  · intro reported
    rcases reported with ⟨⟨replica, worker, usage⟩, member, recorded⟩
    exact ⟨⟨replica, value⟩,
      (files name replica value).mpr ⟨worker, usage, member, recorded⟩, rfl⟩

/-- The names under which a worker reports are those that the policy looks up. -/
theorem mem_values_cpu (files : Files fleet ctx) :
    value ∈ values (cpuByReplica ctx) ↔
      ∃ reporting ∈ fleet, value = reporting.2.2.cpuPercent := by
  rw [cpuByReplica, mem_values_iff files]
  simp [Worker.recordAutoscalingStats]

theorem mem_values_memory (files : Files fleet ctx) :
    value ∈ values (memoryByReplica ctx) ↔ ∃ reporting ∈ fleet,
      value = (reporting.2.2.uss : ℚ) / reporting.2.1.systemMemory * 100 := by
  rw [memoryByReplica, mem_values_iff files]
  simp [Worker.recordAutoscalingStats]

/-- A percentage of the memory against a mark. -/
theorem lt_percent_iff (worker : Worker) (uss mark : Nat) :
    (mark : ℚ) < (uss : ℚ) / worker.systemMemory * 100 ↔
      mark * worker.systemMemory < 100 * uss := by
  have positive : (0 : ℚ) < worker.systemMemory := Nat.cast_pos.mpr worker.systemMemory_pos
  rw [div_mul_eq_mul_div, lt_div_iff₀ positive, mul_comm (uss : ℚ)]
  exact_mod_cast Iff.rfl

theorem percent_lt_iff (worker : Worker) (uss mark : Nat) :
    (uss : ℚ) / worker.systemMemory * 100 < mark ↔
      100 * uss < mark * worker.systemMemory := by
  have positive : (0 : ℚ) < worker.systemMemory := Nat.cast_pos.mpr worker.systemMemory_pos
  rw [div_mul_eq_mul_div, div_lt_iff₀ positive, mul_comm (uss : ℚ)]
  exact_mod_cast Iff.rfl

theorem someHigh_iff (files : Files fleet ctx) : SomeHigh ctx ↔ SomeStrained fleet := by
  rw [SomeHigh]
  constructor
  · intro high
    rcases high with ⟨cpu, listed, above⟩ | ⟨memory, listed, above⟩
    · rcases (mem_values_cpu files).mp listed with ⟨reporting, member, rfl⟩
      exact ⟨reporting, member, .inl above⟩
    · rcases (mem_values_memory files).mp listed with ⟨reporting, member, rfl⟩
      exact ⟨reporting, member, .inr ((lt_percent_iff reporting.2.1 _ 85).mp above)⟩
  · intro strained
    rcases strained with ⟨reporting, member, cpu | memory⟩
    · exact .inl ⟨_, (mem_values_cpu files).mpr ⟨reporting, member, rfl⟩, cpu⟩
    · exact .inr ⟨_, (mem_values_memory files).mpr ⟨reporting, member, rfl⟩,
        (lt_percent_iff reporting.2.1 _ 85).mpr memory⟩

theorem allLow_iff (files : Files fleet ctx) :
    AllLow ctx ↔ ∀ reporting ∈ fleet, Unused reporting := by
  rw [AllLow]
  constructor
  · intro low reporting member
    refine ⟨low.1 _ ((mem_values_cpu files).mpr ⟨reporting, member, rfl⟩), ?_⟩
    apply (percent_lt_iff reporting.2.1 _ 40).mp
    exact low.2 _ ((mem_values_memory files).mpr ⟨reporting, member, rfl⟩)
  · intro unused
    constructor
    · intro cpu listed
      rcases (mem_values_cpu files).mp listed with ⟨reporting, member, rfl⟩
      exact (unused reporting member).1
    · intro memory listed
      rcases (mem_values_memory files).mp listed with ⟨reporting, member, rfl⟩
      exact (percent_lt_iff reporting.2.1 _ 40).mpr (unused reporting member).2

theorem someReading_iff (files : Files fleet ctx) : SomeReading ctx ↔ fleet ≠ [] := by
  constructor
  · intro reading empty
    subst empty
    have nothing (name : String) : (readingsOf ctx name).entries = [] := by
      apply List.eq_nil_iff_forall_not_mem.mpr
      intro entry listed
      rcases (files name entry.1 entry.2).mp listed with ⟨_, _, member, _⟩
      cases member
    rcases reading with cpu | memory
    · exact cpu (nothing _)
    · exact memory (nothing _)
  · intro reported
    rcases List.exists_mem_of_ne_nil fleet reported with ⟨reporting, member⟩
    have listed := (mem_values_cpu files).mpr ⟨reporting, member, rfl⟩
    rcases List.mem_map.mp listed with ⟨entry, found, _⟩
    exact .inl (List.ne_nil_of_mem found)

theorem idle_iff (files : Files fleet ctx) : Idle ctx ↔ AllUnused fleet := by
  rw [Idle, someReading_iff files, allLow_iff files, AllUnused]

/-! ## A deployment of workers -/

/-- The goal of a tick, by the processes that have reported. -/
def goal (args : AutoscalingArgs) (fleet : List (Reporting ReplicaID)) (count : Nat) : Nat :=
  if SomeStrained fleet then min args.maxReplicas (count + 1)
  else if AllUnused fleet then max args.minReplicas (count - 1)
  else count

variable {args : AutoscalingArgs} {start before after : Plant PressureState}

theorem aim_eq_goal {reading : Reading ReplicaID} (files : Files fleet reading.toMetrics)
    {plant : Plant PressureState} (within : args.Within plant) :
    aim (args.controller policy) args.minReplicas args.maxReplicas plant reading =
      goal args fleet plant.count := by
  rw [goal]
  rcases aim_cases args plant reading within with
    ⟨high, aimed⟩ | ⟨calm, idle, aimed⟩ | ⟨calm, busy, aimed⟩
  · rw [aimed, if_pos ((someHigh_iff files).mp high)]
  · rw [aimed, if_neg ((someHigh_iff files).not.mp calm), if_pos ((idle_iff files).mp idle)]
  · rw [aimed, if_neg ((someHigh_iff files).not.mp calm),
      if_neg ((idle_iff files).not.mp busy)]

/-- What a run did to a deployment of workers, by what their processes used in each
tick. -/
structure FollowsFleet (args : AutoscalingArgs) (before : Plant PressureState)
    (fleetOf : Reading ReplicaID → List (Reporting ReplicaID))
    (ticks : List (Tick (Reading ReplicaID)))
    (after : Plant PressureState) : Prop where
  within : args.Within after
  /-- Wherever the deployment is, a tick aims where the processes ask it to. -/
  aims : ∀ tick ∈ ticks, ∀ plant : Plant PressureState, args.Within plant →
    aim (args.controller policy) args.minReplicas args.maxReplicas plant tick.reading =
      goal args (fleetOf tick.reading) plant.count
  /-- Every replica gained took a tick in which one process was strained, -/
  gained : after.count ≤
    before.count + ticks.countP fun tick => SomeStrained (fleetOf tick.reading)
  /-- and every replica lost one in which all processes were unused. -/
  lost : before.count ≤
    after.count + ticks.countP fun tick => AllUnused (fleetOf tick.reading)

/-- At any pace, workers whose reports reach the policy move it as their processes ask,
and nothing else does. -/
theorem followsFleet
    {ticks : List (Tick (Reading ReplicaID))}
    (run : (args.deployment policy start).Run before ticks after)
    (within : args.Within before)
    (fleetOf : Reading ReplicaID → List (Reporting ReplicaID))
    (files : ∀ tick ∈ ticks, Files (fleetOf tick.reading) tick.reading.toMetrics) :
    FollowsFleet args before fleetOf ticks after where
  within := count_bounds_of_run run args.ordered within
  aims tick member _ within := aim_eq_goal (files tick member) within
  gained := by
    have highs : (ticks.countP fun tick => SomeHigh tick.reading.toMetrics) =
        ticks.countP fun tick => SomeStrained (fleetOf tick.reading) := by
      apply List.countP_congr
      intro tick member
      simpa using someHigh_iff (files tick member)
    exact highs ▸ count_le_add_highs run within
  lost := by
    have idles : (ticks.countP fun tick => Idle tick.reading.toMetrics) =
        ticks.countP fun tick => AllUnused (fleetOf tick.reading) := by
      apply List.countP_congr
      intro tick member
      simpa using idle_iff (files tick member)
    exact idles ▸ count_le_add_idles run within

/-- A replica whose processor is busy, and one whose memory is nearly used up. -/
def busyAndFull : List (Reporting String) :=
  [("r0", .init 1000 (by decide), ⟨95, 100⟩), ("r1", .init 2000 (by decide), ⟨10, 1800⟩)]

/-- What the controller has filed for the two. -/
def filedForBoth : Metrics String where
  totalNumRequests := 4
  totalQueuedRequests := none
  aggregatedMetrics := some ((AList.singleton "cpu_percent"
      ((AList.singleton "r0" 95).insert "r1" 10)).insert "memory_percent"
    ((AList.singleton "r0" 10).insert "r1" 90))

/-- Two ticks at which it is read. -/
def seenTwice : List (Reading String) :=
  List.replicate 2 { filedForBoth with running := fun _ => .ofFn fun index => s!"r{index}" }

theorem readingsOf_filedForBoth (name : String) : readingsOf filedForBoth name =
    if name = "memory_percent" then (AList.singleton "r0" 10).insert "r1" 90
    else if name = "cpu_percent" then (AList.singleton "r0" 95).insert "r1" 10
    else ∅ := by
  by_cases memory : name = "memory_percent"
  · subst memory
    rfl
  · by_cases cpu : name = "cpu_percent"
    · subst cpu
      rfl
    · have absent (column : AList fun _ : String => ℚ) :
          ((AList.singleton "cpu_percent" column :
            AList fun _ : String => AList fun _ : String => ℚ)).lookup name = none := by
        rw [AList.lookup_eq_none, AList.mem_keys, AList.keys_singleton, List.mem_singleton]
        exact cpu
      simp [readingsOf, filedForBoth, AList.lookup_insert_ne, memory, cpu, absent]

theorem recorded_busyAndFull (name replica : String) (value : ℚ) :
    (∃ worker usage, (replica, worker, usage) ∈ busyAndFull ∧
      (name, value) ∈ worker.recordAutoscalingStats usage) ↔
    name = "cpu_percent" ∧ (replica = "r0" ∧ value = 95 ∨ replica = "r1" ∧ value = 10) ∨
    name = "memory_percent" ∧
      (replica = "r0" ∧ value = 10 ∨ replica = "r1" ∧ value = 90) := by
  have percents : (100 : ℚ) / 1000 * 100 = 10 ∧ (1800 : ℚ) / 2000 * 100 = 90 := by norm_num
  simp only [busyAndFull, Worker.recordAutoscalingStats, Worker.init, List.mem_cons,
    List.not_mem_nil, or_false, Prod.mk.injEq]
  constructor
  · intro recorded
    rcases recorded with ⟨_, _, ⟨rfl, rfl, rfl⟩ | ⟨rfl, rfl, rfl⟩, named⟩ <;>
      simpa [percents, and_or_left] using named
  · intro listed
    rcases listed with ⟨rfl, ⟨rfl, rfl⟩ | ⟨rfl, rfl⟩⟩ | ⟨rfl, ⟨rfl, rfl⟩ | ⟨rfl, rfl⟩⟩ <;>
      simp [percents]

theorem files_filedForBoth : Files busyAndFull filedForBoth := by
  intro name replica value
  rw [recorded_busyAndFull, readingsOf_filedForBoth]
  split
  next memory => simp [memory, or_comm]
  next other =>
    split
    next cpu => simp [cpu, or_comm]
    next unknown => simp [other, unknown]

theorem followsFleet_busyAndFull :
    ∃ ticks after, ticks.map Tick.reading = seenTwice ∧
      FollowsFleet .default ⟨2, none⟩ (fun _ => busyAndFull) ticks after ∧
      after.count = 4 := by
  rcases AutoscalingArgs.default.exists_run_follow policy seenTwice ⟨2, none⟩ with
    ⟨ticks, same, run⟩
  refine ⟨ticks, _, same, followsFleet run ⟨by decide, by decide⟩ _ ?_, ?_⟩
  · intro tick member
    have listed : tick.reading ∈ seenTwice := same ▸ List.mem_map_of_mem member
    rw [List.eq_of_mem_replicate listed]
    exact files_filedForBoth
  · decide +kernel

end ResourcePressure

end DistributedInference.CustomAutoscaling
