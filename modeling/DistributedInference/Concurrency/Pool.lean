import DistributedInference.Transition.System
import Mathlib.Algebra.BigOperators.Group.List.Basic
import Mathlib.Tactic.Abel

/-!
# Tasks behind a semaphore

Tasks over shared memory, each of which needs a permit.  A task that has been admitted
keeps its permit to its end, and runs from one suspension to the next without being
interrupted.  Which task moves next is open, so the runs are all interleavings.

What the tasks contribute to the shared memory is accounted for by a conservation law:
if no move changes the sum of what is stored and what a task still has to deliver, no
run does.
-/

namespace DistributedInference.Concurrency

open Transition

universe u v w x

/-- How far a task is. -/
inductive Phase (Job : Type u) (Frame : Type v) where
  | waiting (job : Job)
  | running (frame : Frame)
  | finished
  deriving DecidableEq

/-- What a task does when it is admitted, and from one suspension to the next.  It ends
when it leaves no frame. -/
structure Task (Job : Type u) (Frame : Type v) (Shared : Type w) where
  enter : Job → Frame
  resume : Frame → Shared → Option Frame × Shared

/-- The tasks, the permits that are left, and the memory that the tasks share. -/
structure Pool (Job : Type u) (Frame : Type v) (Shared : Type w) where
  phases : List (Phase Job Frame)
  permits : Nat
  shared : Shared
  deriving DecidableEq

variable {Job : Type u} {Frame : Type v} {Shared : Type w}

namespace Phase

def isRunning : Phase Job Frame → Bool
  | .running _ => true
  | _ => false

end Phase

namespace Pool

/-- No task has been admitted yet. -/
def start (jobs : List Job) (limit : Nat) (shared : Shared) : Pool Job Frame Shared where
  phases := jobs.map .waiting
  permits := limit
  shared := shared

/-- The number of tasks that run. -/
def inFlight (pool : Pool Job Frame Shared) : Nat :=
  pool.phases.countP Phase.isRunning

/-- All tasks have ended. -/
def Complete (pool : Pool Job Frame Shared) : Prop :=
  ∀ phase ∈ pool.phases, phase = .finished

end Pool

namespace Task

variable {task : Task Job Frame Shared}

/-- One move of a task, with the permits and the memory it leaves. -/
def move (task : Task Job Frame Shared) :
    Phase Job Frame → Nat → Shared → Option (Phase Job Frame × Nat × Shared)
  | .waiting _, 0, _ => none
  | .waiting job, permits + 1, shared =>
      some (.running (task.enter job), permits, shared)
  | .running frame, permits, shared =>
      match task.resume frame shared with
      | (some frame, shared) => some (.running frame, permits, shared)
      | (none, shared) => some (.finished, permits + 1, shared)
  | .finished, _, _ => none

/-- The task at an index moves. -/
def step (task : Task Job Frame Shared) (pool : Pool Job Frame Shared)
    (index : Nat) : Option (Pool Job Frame Shared) :=
  pool.phases[index]?.bind fun phase =>
    (task.move phase pool.permits pool.shared).map fun (next, permits, shared) =>
      ⟨pool.phases.set index next, permits, shared⟩

/-- Some jobs, with as many permits as may run at a time. -/
def pool (task : Task Job Frame Shared) (jobs : List Job) (limit : Nat)
    (shared : Shared) : System (Pool Job Frame Shared) Nat :=
  .ofFunction (.start jobs limit shared) task.step

/-! ## Moves and steps -/

/-- A step is a move of one task, and the others stay as they are. -/
theorem step_cases {before after : Pool Job Frame Shared} {index : Nat}
    (taken : task.step before index = some after) :
    ∃ earlier phase next later,
      before.phases = earlier ++ phase :: later ∧
      after.phases = earlier ++ next :: later ∧
      task.move phase before.permits before.shared =
        some (next, after.permits, after.shared) := by
  rcases Option.bind_eq_some_iff.mp taken with ⟨phase, found, rest⟩
  rcases Option.map_eq_some_iff.mp rest with ⟨⟨next, permits, shared⟩, moved, same⟩
  cases same
  rcases List.getElem?_eq_some_iff.mp found with ⟨inRange, rfl⟩
  rcases List.exists_of_set inRange with ⟨earlier, later, whole, _, replaced⟩
  exact ⟨earlier, _, next, later, whole, replaced, moved⟩

/-- A running task can always move, and a waiting one if there is a permit. -/
theorem exists_step {before : Pool Job Frame Shared} {phase : Phase Job Frame}
    (member : phase ∈ before.phases)
    (enabled : (task.move phase before.permits before.shared).isSome) :
    ∃ index after, task.step before index = some after := by
  rcases List.mem_iff_getElem?.mp member with ⟨index, found⟩
  rcases Option.isSome_iff_exists.mp enabled with ⟨⟨next, permits, shared⟩, moved⟩
  refine ⟨index, ⟨before.phases.set index next, permits, shared⟩, ?_⟩
  rw [step, found, Option.bind_some, moved, Option.map_some]

/-! ## Conservation -/

/-- What all tasks together hold. -/
def held {Quantity : Type x} [AddCommMonoid Quantity] (share : Phase Job Frame → Quantity)
    (pool : Pool Job Frame Shared) : Quantity :=
  (pool.phases.map share).sum

section

variable {Quantity : Type x} [AddCommMonoid Quantity]
variable {share : Phase Job Frame → Quantity} {stored : Nat → Shared → Quantity}

/-- No move changes the sum of what the task holds and what is stored. -/
def Conserves (task : Task Job Frame Shared) (share : Phase Job Frame → Quantity)
    (stored : Nat → Shared → Quantity) : Prop :=
  ∀ phase permits shared next permits' shared',
    task.move phase permits shared = some (next, permits', shared') →
    share next + stored permits' shared' = share phase + stored permits shared

theorem Conserves.step (conserves : task.Conserves share stored)
    {before after : Pool Job Frame Shared} {index : Nat}
    (taken : task.step before index = some after) :
    held share after + stored after.permits after.shared =
      held share before + stored before.permits before.shared := by
  rcases step_cases taken with ⟨earlier, phase, next, later, whole, replaced, moved⟩
  have same := conserves _ _ _ _ _ _ moved
  calc held share after + stored after.permits after.shared
      = (earlier.map share).sum + (later.map share).sum +
          (share next + stored after.permits after.shared) := by
        rw [held, replaced, List.map_append, List.sum_append, List.map_cons,
          List.sum_cons]
        abel
    _ = (earlier.map share).sum + (later.map share).sum +
          (share phase + stored before.permits before.shared) := by
        rw [same]
    _ = held share before + stored before.permits before.shared := by
        rw [held, whole, List.map_append, List.sum_append, List.map_cons,
          List.sum_cons]
        abel

/-- Nothing is lost and nothing is counted twice, in whatever order the tasks move. -/
theorem Conserves.reachable (conserves : task.Conserves share stored)
    {jobs : List Job} {limit : Nat} {shared : Shared} {reached : Pool Job Frame Shared}
    (reachable : (task.pool jobs limit shared).Reachable reached) :
    held share reached + stored reached.permits reached.shared =
      (jobs.map fun job => share (.waiting job)).sum + stored limit shared := by
  apply reachable.invariant fun reached =>
    held share reached + stored reached.permits reached.shared =
      (jobs.map fun job => share (.waiting job)).sum + stored limit shared
  case initial =>
    intro reached starts
    cases starts
    rw [held, Pool.start, List.map_map]
    rfl
  case step =>
    intro before index after _ conserved taken
    exact (conserves.step taken).trans conserved

/-- When all tasks have ended, what is stored is what the jobs hold at the start. -/
theorem Conserves.complete (conserves : task.Conserves share stored)
    (spent : share .finished = 0)
    {jobs : List Job} {limit : Nat} {shared : Shared} {reached : Pool Job Frame Shared}
    (reachable : (task.pool jobs limit shared).Reachable reached)
    (complete : reached.Complete) :
    stored reached.permits reached.shared =
      (jobs.map fun job => share (.waiting job)).sum + stored limit shared := by
  have nothing : held share reached = 0 := by
    apply List.sum_eq_zero
    intro quantity member
    rcases List.mem_map.mp member with ⟨phase, listed, rfl⟩
    rw [complete phase listed, spent]
  rw [← conserves.reachable reachable, nothing, zero_add]

end

/-! ## The permits -/

/-- A permit is either left or held by a running task. -/
theorem conserves_permits :
    task.Conserves (fun phase => if phase.isRunning then 1 else 0)
      fun permits _ => permits := by
  intro phase permits shared next permits' shared' moved
  cases phase with
  | waiting job =>
      cases permits with
      | zero => cases moved
      | succ permits =>
          cases moved
          exact Nat.add_comm _ _ |>.trans (Nat.zero_add _).symm
  | running frame =>
      simp only [move] at moved
      split at moved
      next => cases moved; rfl
      next => cases moved; exact (Nat.zero_add _).trans (Nat.add_comm _ _)
  | finished => cases moved

theorem held_permits (pool : Pool Job Frame Shared) :
    held (fun phase => if phase.isRunning then 1 else 0) pool = pool.inFlight := by
  rw [held, Pool.inFlight, List.countP_eq_length_filter]
  induction pool.phases with
  | nil => rfl
  | cons phase phases ih =>
      rw [List.map_cons, List.sum_cons, ih, List.filter_cons]
      split
      · rw [List.length_cons, Nat.add_comm]
      · rw [Nat.zero_add]

section

variable {jobs : List Job} {limit : Nat} {shared : Shared}
variable {reached : Pool Job Frame Shared}

theorem inFlight_add_permits
    (reachable : (task.pool jobs limit shared).Reachable reached) :
    reached.inFlight + reached.permits = limit := by
  have conserved := conserves_permits.reachable reachable
  rw [held_permits] at conserved
  rw [conserved]
  simp [Phase.isRunning]

/-- No more tasks run than there are permits. -/
theorem inFlight_le (reachable : (task.pool jobs limit shared).Reachable reached) :
    reached.inFlight ≤ limit :=
  Nat.le.intro (inFlight_add_permits reachable)

/-- As long as a task has not ended, some task can move. -/
theorem complete_or_step (positive : 0 < limit)
    (reachable : (task.pool jobs limit shared).Reachable reached) :
    reached.Complete ∨ ∃ index after, task.step reached index = some after := by
  by_cases complete : reached.Complete
  · exact .inl complete
  · right
    simp only [Pool.Complete, not_forall] at complete
    rcases complete with ⟨phase, member, unfinished⟩
    by_cases idle : reached.inFlight = 0
    · -- All permits are left, so one is there for the task.
      have permits := inFlight_add_permits reachable
      rw [idle, Nat.zero_add] at permits
      apply exists_step member
      cases phase with
      | waiting job =>
          rcases Nat.exists_eq_succ_of_ne_zero positive.ne' with ⟨left, counts⟩
          rw [permits, counts]
          rfl
      | running frame =>
          exact absurd rfl (List.countP_eq_zero.mp idle _ member)
      | finished => exact absurd rfl unfinished
    · rcases List.countP_pos_iff.mp (Nat.pos_of_ne_zero idle) with ⟨phase, member, runs⟩
      apply exists_step member
      cases phase with
      | running frame =>
          simp only [move]
          split <;> rfl
      | waiting | finished => cases runs

end

/-! ## The length of runs -/

/-- If every move of a task takes something off its work, no run is longer than the
work of all jobs. -/
theorem length_le {work : Phase Job Frame → Nat}
    (decreases : ∀ phase permits shared next permits' shared',
      task.move phase permits shared = some (next, permits', shared') →
      work next < work phase)
    {before after : Pool Job Frame Shared} {jobs : List Job} {limit : Nat}
    {shared : Shared} {indices : List Nat}
    (run : (task.pool jobs limit shared).Run before indices after) :
    indices.length + held work after ≤ held work before := by
  induction run with
  | nil => exact (Nat.zero_add _).le
  | @cons before middle after index indices taken _ ih =>
      rcases step_cases taken with ⟨earlier, phase, next, later, whole, replaced, moved⟩
      have less := decreases _ _ _ _ _ _ moved
      have shrinks : held work middle < held work before := by
        rw [held, held, whole, replaced]
        simp only [List.map_append, List.sum_append, List.map_cons, List.sum_cons]
        omega
      rw [List.length_cons]
      omega

end Task

end DistributedInference.Concurrency
