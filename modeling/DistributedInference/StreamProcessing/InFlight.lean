import DistributedInference.StreamProcessing.Moves

/-!
# The in-flight table

`processing_requests` is written by the poll loop and cleared by the tasks.  The
correspondence with the running tasks is `Registry.Exact`, and every way out of a
task passes through `release`, so the table is proved exact once for `forward`
and once for `release`.
-/

namespace DistributedInference.StreamProcessing

open Transition

variable {Pixels : Type} {inFlight : Registry String (Task Pixels)}

/-- The table lists the running tasks, and no `del` has missed its key. -/
structure Consistent (inFlight : Registry String (Task Pixels)) : Prop where
  exact : inFlight.Exact Task.running
  found : ∀ task ∈ inFlight.jobs, task.phase ≠ .finished .missingKey

theorem consistent_empty :
    Consistent (.empty : Registry String (Task Pixels)) where
  exact := Registry.exact_empty
  found := by simp

/-- Creating a task for an id that is not in the table. -/
theorem Consistent.start (consistent : Consistent inFlight) {message : Message}
    (absent : message.messageId ∉ inFlight.table) :
    Consistent (inFlight.start message.messageId (Task.created message)) where
  exact := consistent.exact.start absent (Task.running_created message)
  found := by
    intro task member
    simp only [Registry.start_jobs, List.mem_append, List.mem_singleton] at member
    rcases member with old | new
    · exact consistent.found task old
    · simp [new, Task.created]

/-- A task that moves to its next `await`. -/
theorem Consistent.advance (consistent : Consistent inFlight) {index : Nat}
    {before after : Task Pixels} (at_index : inFlight.jobs[index]? = some before)
    (same : after.running = before.running)
    (found : after.phase ≠ .finished .missingKey) :
    Consistent (inFlight.advance index after) where
  exact := consistent.exact.advance at_index same
  found := by
    intro task member
    rcases List.mem_or_eq_of_mem_set member with old | new
    · exact consistent.found task old
    · simpa only [new] using found

/-- In a consistent registry the `del` of a running task finds its key. -/
theorem Consistent.release_eq (consistent : Consistent inFlight) {index : Nat}
    {task : Task Pixels} {result : TaskResult}
    (at_index : inFlight.jobs[index]? = some task)
    (runs : task.running = some task.queueMessage.messageId) :
    release inFlight index task result =
      inFlight.retire index (task.finish result)
        task.queueMessage.messageId := by
  rw [release, if_pos (consistent.exact.mem_table at_index runs)]

/-- The end of a task, on any of its exit paths. -/
theorem Consistent.release (consistent : Consistent inFlight) {index : Nat}
    {task : Task Pixels} {result : TaskResult}
    (at_index : inFlight.jobs[index]? = some task)
    (runs : task.running = some task.queueMessage.messageId)
    (reached : result ≠ .missingKey) :
    Consistent (release inFlight index task result) := by
  rw [consistent.release_eq at_index runs]
  constructor
  · exact consistent.exact.retire at_index runs (Task.running_finish task result)
  · intro other member
    rcases List.mem_or_eq_of_mem_set member with old | new
    · exact consistent.found other old
    · simpa [new, Task.finish] using reached

/-- The dispatch loop checks the table before each insertion, so a repeated id in
one batch is skipped like a redelivered one. -/
theorem Consistent.forward (consistent : Consistent inFlight)
    (remote : String → Option Failure) (messages : List Message) :
    Consistent (forward remote inFlight messages).inFlight := by
  induction messages generalizing inFlight with
  | nil => exact consistent
  | cons message rest ih =>
      simp only [StreamProcessing.forward]
      split
      next => exact ih consistent
      next absent =>
        split
        next => exact consistent
        next => exact ih (consistent.start absent)

/-- Every exception inside the `try` ends the task through its `finally`. -/
theorem Consistent.tryRaises {state : State Pixels}
    (consistent : Consistent state.inFlight) {index : Nat} {task : Task Pixels}
    (failure : Failure) (at_index : state.inFlight.jobs[index]? = some task)
    (runs : task.running = some task.queueMessage.messageId) :
    Consistent (state.tryRaises index task failure).inFlight := by
  cases failure with
  | backPressureError => exact consistent.release at_index runs nofun
  | other => exact consistent.release at_index runs nofun

/-- So does the `else` clause, whatever `delete` does. -/
theorem Consistent.elseClause {state : State Pixels}
    (consistent : Consistent state.inFlight) {index : Nat} {task : Task Pixels}
    (delete : DeleteOutcome) (at_index : state.inFlight.jobs[index]? = some task)
    (runs : task.running = some task.queueMessage.messageId) :
    Consistent (state.elseClause index task delete).inFlight := by
  cases delete with
  | succeeds => exact consistent.release at_index runs nofun
  | raises failure tookEffect =>
      cases tookEffect with
      | false => exact consistent.release at_index runs nofun
      | true => exact consistent.release at_index runs nofun

/-- One step keeps the table exact. -/
theorem Consistent.moves {state next : State Pixels} {action : Action Pixels}
    (consistent : Consistent state.inFlight) (moves : Moves state action next) :
    Consistent next.inFlight := by
  cases moves with
  | send => exact consistent
  | pollWakes =>
      unfold State.checkShutdown
      split
      · exact consistent
      · exact consistent
  | receiveReturns => exact consistent
  | receiveRaises => exact consistent
  | dispatch => exact consistent.forward _ _
  | receiveFailed => exact consistent
  | responseReturns suspended => exact consistent.advance suspended rfl nofun
  | responseRaises suspended => exact consistent.tryRaises _ suspended rfl
  | putLands suspended => exact consistent.advance suspended rfl nofun
  | uploadReturns suspended => exact consistent.elseClause _ suspended rfl
  | uploadRaises suspended => exact consistent.tryRaises _ suspended rfl
  | shutdownRequested => exact consistent
  | drainWakes => exact consistent

/-- Every run keeps the table exact. -/
theorem consistent_of_reachable {state : State Pixels}
    (reachable : (poller Pixels).Reachable state) :
    Consistent state.inFlight := by
  apply State.invariant (fun state => Consistent state.inFlight)
    consistent_empty ?_ reachable
  intro state action next _ consistent moves
  exact consistent.moves moves

/-- What the poller relies on `processing_requests` for. -/
structure TableExact (state : State Pixels) : Prop where
  /-- The keys are the ids of the unfinished tasks. -/
  keys : ∀ messageId, messageId ∈ state.inFlight.table.keys ↔
    ∃ task ∈ state.inFlight.jobs,
      task.queueMessage.messageId = messageId ∧ task.Unfinished
  /-- No id has two unfinished tasks. -/
  unique : ∀ (left right : Nat) (leftTask rightTask : Task Pixels),
    state.inFlight.jobs[left]? = some leftTask → leftTask.Unfinished →
    state.inFlight.jobs[right]? = some rightTask → rightTask.Unfinished →
    leftTask.queueMessage.messageId = rightTask.queueMessage.messageId →
    left = right
  /-- No `finally` clause has missed its key. -/
  found : ∀ task ∈ state.inFlight.jobs, task.phase ≠ .finished .missingKey

/-- In every reachable state `processing_requests` is exact. -/
theorem processingRequests_exact {state : State Pixels}
    (reachable : (poller Pixels).Reachable state) : TableExact state := by
  have consistent := consistent_of_reachable reachable
  constructor
  · intro messageId
    rw [← AList.mem_keys, consistent.exact.mem_table_iff]
    simp only [Task.running_eq_some_iff]
  · intro left right leftTask rightTask at_left leftRuns at_right rightRuns same
    have leftKey := (Task.running_eq_some_iff leftTask _).mpr ⟨rfl, leftRuns⟩
    have rightKey := (Task.running_eq_some_iff rightTask _).mpr
      ⟨same.symm, rightRuns⟩
    exact consistent.exact.unique at_left at_right leftKey rightKey
  · exact consistent.found

/-- One receive returns the same message twice; the second is skipped. -/
def repeatedBatch : List (Action Unit) :=
  [.send ⟨"a", "prompt"⟩, .pollWakes,
    .receiveReturns [⟨"a", "prompt"⟩, ⟨"a", "prompt"⟩],
    .pollResumes fun _ => none]

theorem processingRequests_exact_repeatedBatch :
    ∃ state, System.execute State.step .initial repeatedBatch = some state ∧
      state.inFlight.table.keys = ["a"] ∧ TableExact state :=
  ⟨_, rfl, rfl, processingRequests_exact
    (System.reachable_of_execute repeatedBatch rfl)⟩

end DistributedInference.StreamProcessing
