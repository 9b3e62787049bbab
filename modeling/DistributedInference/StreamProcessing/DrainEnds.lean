import DistributedInference.StreamProcessing.Drain

/-!
# The drain ends

The drain loop waits for a table that `run` may still enlarge after the event is set.
It can do so once: a receive that is under way brings at most ten messages, and the
check of the event that follows ends the loop.  Every job of the registry has finished
or has its key in the table, so the completions still to come are bounded by the table
and that one batch.
-/

namespace DistributedInference.StreamProcessing

open Transition

variable {Pixels : Type} {state next start finish : State Pixels}
variable {action : Action Pixels} {actions : List (Action Pixels)}

/-- The number of finished tasks. -/
def finishedTasks (inFlight : Registry String (Task Pixels)) : Nat :=
  inFlight.jobs.countP fun task => task.running.isNone

namespace State

/-- The completions so far. -/
def completed (state : State Pixels) : Nat := finishedTasks state.inFlight

/-- The number of entries of `processing_requests`. -/
def outstanding (state : State Pixels) : Nat :=
  state.inFlight.table.keys.length

end State

/-- Every task created has finished or has its entry. -/
theorem Consistent.outstanding_add_completed (consistent : Consistent state.inFlight) :
    state.outstanding + state.completed = state.inFlight.jobs.length :=
  consistent.exact.length_keys

/-- With all tasks finished the condition of the drain loop is false. -/
theorem Consistent.empty_of_finished (consistent : Consistent state.inFlight)
    (finished : ∀ task ∈ state.inFlight.jobs, ¬task.Unfinished) :
    state.inFlight.table.keys = [] := by
  apply List.eq_nil_iff_forall_not_mem.mpr
  intro messageId listed
  rw [← AList.mem_keys, consistent.exact.mem_table_iff] at listed
  rcases listed with ⟨task, member, runs⟩
  exact finished task member ((Task.running_eq_some_iff task messageId).mp runs).2

/-! ## The batch under way -/

/-- The messages that `run` can still hand over before its next check of the event. -/
def PollPhase.incoming : PollPhase → Nat
  | .receiving _ => maxNumberOfMessages
  | .received (.ok messages) => messages.length
  | _ => 0

/-- A receive returns ten messages at most. -/
theorem incoming_le_of_reachable (reachable : (poller Pixels).Reachable state) :
    state.poll.incoming ≤ maxNumberOfMessages := by
  apply State.invariant (fun state => state.poll.incoming ≤ maxNumberOfMessages)
    (Nat.zero_le _) ?_ reachable
  intro state action next _ bounded moves
  cases moves with
  | send => exact bounded
  | pollWakes =>
      unfold State.checkShutdown
      split
      · exact Nat.zero_le _
      · exact le_rfl
  | receiveReturns _ few => exact few
  | receiveRaises => exact Nat.zero_le _
  | dispatch =>
      simp only [State.dispatch]
      split
      · exact Nat.zero_le _
      · exact Nat.zero_le _
  | receiveFailed => exact Nat.zero_le _
  | responseReturns => exact bounded
  | responseRaises => simpa using bounded
  | putLands => exact bounded
  | uploadReturns => simpa using bounded
  | uploadRaises => simpa using bounded
  | shutdownRequested => exact bounded
  | drainWakes => exact bounded

/-- The dispatch loop hands over a part of its batch and creates a task for no more
messages than that. -/
theorem forward_length_le (remote : String → Option Failure)
    (inFlight : Registry String (Task Pixels)) (messages : List Message) :
    (forward remote inFlight messages).handed.length ≤ messages.length ∧
    (forward remote inFlight messages).inFlight.jobs.length ≤
      inFlight.jobs.length + messages.length := by
  induction messages generalizing inFlight with
  | nil => exact ⟨le_rfl, le_rfl⟩
  | cons message rest ih =>
      simp only [forward]
      split
      next =>
        have skipped := ih inFlight
        simp only [List.length_cons]
        omega
      next =>
        split
        next => simp
        next =>
          have started := ih (inFlight.start message.messageId (.created message))
          simp only [Registry.start_jobs, List.length_append, List.length_singleton]
            at started
          simp only [List.length_cons]
          omega

theorem length_release (inFlight : Registry String (Task Pixels)) (index : Nat)
    (task : Task Pixels) (result : TaskResult) :
    (release inFlight index task result).jobs.length = inFlight.jobs.length := by
  rw [release]
  split
  · exact List.length_set
  · exact List.length_set

theorem length_tryRaises (state : State Pixels) (index : Nat) (task : Task Pixels)
    (failure : Failure) :
    (state.tryRaises index task failure).inFlight.jobs.length =
      state.inFlight.jobs.length := by
  rcases tryRaises_inFlight state index task failure with ⟨result, released⟩
  rw [released, length_release]

theorem length_elseClause (state : State Pixels) (index : Nat) (task : Task Pixels)
    (delete : DeleteOutcome) :
    (state.elseClause index task delete).inFlight.jobs.length =
      state.inFlight.jobs.length := by
  rcases elseClause_inFlight state index task delete with ⟨result, released⟩
  rw [released, length_release]

/-- Where a run can be after the event was set in `start`: what it has handed over
and what it can still hand over was on its way in `start`. -/
structure WindingDown (start state : State Pixels) : Prop where
  shutdown : state.shutdownEvent = true
  handed : ∃ batch, state.handed = start.handed ++ batch ∧
    batch.length + state.poll.incoming ≤ start.poll.incoming
  created : state.inFlight.jobs.length + state.poll.incoming ≤
    start.inFlight.jobs.length + start.poll.incoming

namespace WindingDown

theorem refl (requested : start.shutdownEvent = true) : WindingDown start start where
  shutdown := requested
  handed := ⟨[], (List.append_nil _).symm, by simp⟩
  created := le_rfl

/-- A move that creates no task, hands nothing over and announces no messages. -/
theorem frame (winding : WindingDown start state) (handed : next.handed = state.handed)
    (jobs : next.inFlight.jobs.length = state.inFlight.jobs.length)
    (incoming : next.poll.incoming ≤ state.poll.incoming)
    (shutdown : next.shutdownEvent = true) : WindingDown start next where
  shutdown := shutdown
  handed := by
    rcases winding.handed with ⟨batch, same, bounded⟩
    exact ⟨batch, handed.trans same, (Nat.add_le_add_left incoming _).trans bounded⟩
  created := by
    rw [jobs]
    exact (Nat.add_le_add_left incoming _).trans winding.created

/-- The batch that was on its way is handed over. -/
theorem dispatch (winding : WindingDown start state) {messages : List Message}
    (remote : String → Option Failure) (received : state.poll = .received (.ok messages)) :
    WindingDown start (state.dispatch remote messages) := by
  have bounds := forward_length_le remote state.inFlight messages
  have announced : state.poll.incoming = messages.length := by
    rw [received]
    rfl
  have nothingLeft : (state.dispatch remote messages).poll.incoming = 0 := by
    simp only [State.dispatch]
    split
    · rfl
    · rfl
  constructor
  · exact winding.shutdown
  · rcases winding.handed with ⟨batch, same, bounded⟩
    refine ⟨batch ++ (forward remote state.inFlight messages).handed, ?_, ?_⟩
    · rw [← List.append_assoc, ← same]
      rfl
    · rw [nothingLeft, List.length_append]
      omega
  · have created := winding.created
    rw [nothingLeft]
    exact le_trans bounds.2 (by omega)

theorem moves (winding : WindingDown start state) (moves : Moves state action next) :
    WindingDown start next := by
  have shutdown := winding.shutdown
  cases moves with
  | send => exact winding.frame rfl rfl le_rfl shutdown
  | pollWakes =>
      rw [State.checkShutdown, if_pos shutdown]
      exact winding.frame rfl rfl (Nat.zero_le _) shutdown
  | receiveReturns receiving few =>
      exact winding.frame rfl rfl (receiving ▸ few) shutdown
  | receiveRaises => exact winding.frame rfl rfl (Nat.zero_le _) shutdown
  | dispatch received => exact winding.dispatch _ received
  | receiveFailed => exact winding.frame rfl rfl (Nat.zero_le _) shutdown
  | responseReturns => exact winding.frame rfl List.length_set le_rfl shutdown
  | responseRaises =>
      exact winding.frame (by simp) (length_tryRaises _ _ _ _) (by simp) (by simpa)
  | putLands => exact winding.frame rfl List.length_set le_rfl shutdown
  | uploadReturns =>
      exact winding.frame (by simp) (length_elseClause _ _ _ _) (by simp) (by simpa)
  | uploadRaises =>
      exact winding.frame (by simp) (length_tryRaises _ _ _ _) (by simp) (by simpa)
  | shutdownRequested => exact winding.frame rfl rfl le_rfl rfl
  | drainWakes => exact winding.frame rfl rfl le_rfl shutdown

theorem of_run (requested : start.shutdownEvent = true)
    (run : (poller Pixels).Run start actions finish) : WindingDown start finish :=
  run.preserves (WindingDown start)
    (fun winding taken => winding.moves (moves_of_step taken)) (refl requested)

end WindingDown

/-! ## The loop after the event -/

/-- `run` goes on after a receive. -/
def Action.resumesPoll : Action Pixels → Bool
  | .pollResumes _ => true
  | _ => false

/-- The times that `run` can still go on after a receive before its next check. -/
def PollPhase.resumptions : PollPhase → Nat
  | .receiving _ => 1
  | .received _ => 1
  | _ => 0

theorem resumptions_le_one (phase : PollPhase) : phase.resumptions ≤ 1 := by
  cases phase with
  | scheduled | sleeping | ended => exact Nat.zero_le _
  | receiving | received => exact le_rfl

theorem resumptions_moves (shutdown : state.shutdownEvent = true)
    (moves : Moves state action next) :
    next.poll.resumptions + (if action.resumesPoll then 1 else 0) ≤
      state.poll.resumptions := by
  cases moves with
  | send => exact le_rfl
  | pollWakes =>
      rw [State.checkShutdown, if_pos shutdown]
      exact Nat.zero_le _
  | receiveReturns receiving => exact receiving ▸ le_rfl
  | receiveRaises receiving => exact receiving ▸ le_rfl
  | dispatch received =>
      simp only [State.dispatch, received]
      split
      · exact le_rfl
      · exact le_rfl
  | receiveFailed received => exact received ▸ le_rfl
  | responseReturns => exact le_rfl
  | responseRaises => simp [Action.resumesPoll]
  | putLands => exact le_rfl
  | uploadReturns => simp [Action.resumesPoll]
  | uploadRaises => simp [Action.resumesPoll]
  | shutdownRequested => exact le_rfl
  | drainWakes => exact le_rfl

theorem shutdownEvent_moves (shutdown : state.shutdownEvent = true)
    (moves : Moves state action next) : next.shutdownEvent = true :=
  ((WindingDown.refl shutdown).moves moves).shutdown

/-- At most one batch is handed over. -/
theorem countP_resumesPoll_le (requested : start.shutdownEvent = true)
    (run : (poller Pixels).Run start actions finish) :
    finish.poll.resumptions + actions.countP Action.resumesPoll ≤
      start.poll.resumptions := by
  induction run with
  | nil => exact le_rfl
  | cons taken _ ih =>
      have moves := moves_of_step taken
      have first := resumptions_moves requested moves
      have later := ih (shutdownEvent_moves requested moves)
      rw [List.countP_cons]
      omega

theorem ended_moves {raised : Option Failure} (ended : state.poll = .ended raised)
    (moves : Moves state action next) : next.poll = .ended raised := by
  cases moves with
  | pollWakes resting =>
      rcases resting with scheduled | ⟨milliseconds, sleeping⟩
      · cases ended.symm.trans scheduled
      · cases ended.symm.trans sleeping
  | receiveReturns receiving => cases ended.symm.trans receiving
  | receiveRaises receiving => cases ended.symm.trans receiving
  | dispatch received => cases ended.symm.trans received
  | receiveFailed received => cases ended.symm.trans received
  | send => exact ended
  | responseReturns => exact ended
  | responseRaises => simpa using ended
  | putLands => exact ended
  | uploadReturns => simpa using ended
  | uploadRaises => simpa using ended
  | shutdownRequested => exact ended
  | drainWakes => exact ended

/-- The check of the event ends the loop for good. -/
theorem ended_of_pollWakes (requested : start.shutdownEvent = true)
    (run : (poller Pixels).Run start actions finish) (woke : .pollWakes ∈ actions) :
    finish.poll = .ended none := by
  induction run with
  | nil => cases woke
  | @cons start middle finish action actions taken rest ih =>
      have moves := moves_of_step taken
      rcases List.mem_cons.mp woke with here | later
      · have checked : middle.poll = .ended none := by
          subst here
          cases moves with
          | pollWakes => rw [State.checkShutdown, if_pos requested]
        exact rest.preserves (fun state => state.poll = .ended none)
          (fun ended taken => ended_moves ended (moves_of_step taken)) checked
      · exact ih (shutdownEvent_moves requested moves) later

/-! ## One entry for each finished task -/

/-- One step of a table that only loses entries, one for each finished task. -/
inductive LosesFinished (before after : Registry String (Task Pixels)) : Prop
  | unchanged (table : after.table = before.table)
      (finished : finishedTasks after = finishedTasks before)
  | finished {task : Task Pixels} (listed : task ∈ before.jobs)
      (unfinished : task.Unfinished)
      (present : task.queueMessage.messageId ∈ before.table)
      (table : after.table = before.table.erase task.queueMessage.messageId)
      (finished : finishedTasks after = finishedTasks before + 1)

section

variable {inFlight : Registry String (Task Pixels)} {index : Nat} {task : Task Pixels}

theorem losesFinished_advance {after : Task Pixels}
    (at_index : inFlight.jobs[index]? = some task) (same : after.running = task.running) :
    LosesFinished inFlight (inFlight.advance index after) := by
  have counted := countP_set_of_getElem? (fun task : Task Pixels => task.running.isNone)
    after at_index
  rw [same] at counted
  exact .unchanged rfl (Nat.add_right_cancel counted)

theorem Consistent.losesFinished_release (consistent : Consistent inFlight)
    {result : TaskResult} (at_index : inFlight.jobs[index]? = some task)
    (runs : task.running = some task.queueMessage.messageId) :
    LosesFinished inFlight (StreamProcessing.release inFlight index task result) := by
  have counted := countP_set_of_getElem? (fun task : Task Pixels => task.running.isNone)
    (task.finish result) at_index
  rw [runs, Task.running_finish] at counted
  have unfinished := ((Task.running_eq_some_iff task _).mp runs).2
  rw [consistent.release_eq at_index runs]
  exact .finished (List.mem_of_getElem? at_index) unfinished
    (consistent.exact.mem_table at_index runs) rfl counted

end

theorem Consistent.losesFinished_tryRaises (consistent : Consistent state.inFlight)
    {index : Nat} {task : Task Pixels} (failure : Failure)
    (at_index : state.inFlight.jobs[index]? = some task)
    (runs : task.running = some task.queueMessage.messageId) :
    LosesFinished state.inFlight (state.tryRaises index task failure).inFlight := by
  rcases tryRaises_inFlight state index task failure with ⟨result, released⟩
  exact released ▸ consistent.losesFinished_release at_index runs

/-- Once `run` has ended, the table only loses the entries of finished tasks. -/
theorem Consistent.losesFinished_moves (consistent : Consistent state.inFlight)
    (ended : state.poll = .ended none) (moves : Moves state action next) :
    LosesFinished state.inFlight next.inFlight := by
  cases moves with
  | dispatch received => cases ended.symm.trans received
  | pollWakes resting =>
      rcases resting with scheduled | ⟨milliseconds, sleeping⟩
      · cases ended.symm.trans scheduled
      · cases ended.symm.trans sleeping
  | send => exact .unchanged rfl rfl
  | receiveReturns => exact .unchanged rfl rfl
  | receiveRaises => exact .unchanged rfl rfl
  | receiveFailed => exact .unchanged rfl rfl
  | responseReturns suspended => exact losesFinished_advance suspended rfl
  | responseRaises suspended => exact consistent.losesFinished_tryRaises _ suspended rfl
  | putLands suspended => exact losesFinished_advance suspended rfl
  | @uploadReturns index delete response message image suspended =>
      rcases elseClause_inFlight state index ⟨response, message, .uploading image true⟩
        delete with ⟨result, released⟩
      exact released ▸ consistent.losesFinished_release suspended rfl
  | uploadRaises suspended => exact consistent.losesFinished_tryRaises _ suspended rfl
  | shutdownRequested => exact .unchanged rfl rfl
  | drainWakes => exact .unchanged rfl rfl

/-! ## The drain -/

/-- What a run does after the event was set in `start`. -/
structure DrainsFrom (start : State Pixels) (actions : List (Action Pixels))
    (finish : State Pixels) : Prop where
  /-- What is handed over is one batch, which was on its way. -/
  oneBatch : actions.countP Action.resumesPoll ≤ 1 ∧
    ∃ batch, finish.handed = start.handed ++ batch ∧
      batch.length ≤ maxNumberOfMessages ∧
      (batch ≠ [] → start.poll.BatchOnItsWay)
  /-- After the next check `run` has ended, and every step finishes a task together
  with its entry or leaves the table alone. -/
  endsAtCheck : .pollWakes ∈ actions → finish.poll = .ended none ∧
    ∀ action next, finish.step action = some next →
      LosesFinished finish.inFlight next.inFlight
  /-- The completions since `start`, and the tasks still to complete. -/
  bounded : finish.completed + finish.outstanding ≤
    start.completed + start.outstanding + maxNumberOfMessages
  /-- When the outstanding tasks have finished, the condition of the drain loop is
  false. -/
  emptied : (∀ task ∈ finish.inFlight.jobs, ¬task.Unfinished) →
    finish.inFlight.table.keys = []
  /-- The drain loop returns at the first look at an empty table, and goes on until then. -/
  returns : finish.drain = .waiting → ∃ next, finish.step .drainWakes = some next ∧
    (next.drain = .returned ↔ finish.inFlight.table.keys = [])

/-- From every reachable state with the event set, every run drains. -/
theorem drainsFrom (reachable : (poller Pixels).Reachable start)
    (requested : start.shutdownEvent = true)
    (run : (poller Pixels).Run start actions finish) :
    DrainsFrom start actions finish := by
  have consistent := consistent_of_reachable (reachable.run run)
  have winding := WindingDown.of_run requested run
  have announced := incoming_le_of_reachable reachable
  constructor
  · constructor
    · have counted := countP_resumesPoll_le requested run
      have single := resumptions_le_one start.poll
      omega
    · rcases winding.handed with ⟨batch, handed, bounded⟩
      refine ⟨batch, handed, by omega, ?_⟩
      intro nonempty
      by_contra noBatch
      have quiet : finish.handed = start.handed := Quiet.run ⟨requested, noBatch⟩ run
      rw [handed] at quiet
      exact nonempty (List.append_right_eq_self.mp quiet)
  · intro woke
    have ended := ended_of_pollWakes requested run woke
    refine ⟨ended, ?_⟩
    intro action next taken
    exact consistent.losesFinished_moves ended (moves_of_step taken)
  · have atStart := (consistent_of_reachable reachable).outstanding_add_completed
    have atFinish := consistent.outstanding_add_completed
    have created := winding.created
    omega
  · exact consistent.empty_of_finished
  · intro waiting
    refine ⟨finish.checkDrained, by simp only [State.step, waiting], ?_⟩
    rw [State.checkDrained]
    split
    next empty => exact iff_of_true rfl empty
    next listed => exact iff_of_false (by simp) listed

/-- One message is with the model and a receive is under way when the shutdown is
requested. -/
def secondReceive : List (Action Unit) :=
  [.send ⟨"a", "first"⟩, .send ⟨"b", "second"⟩, .pollWakes,
    .receiveReturns [⟨"a", "first"⟩], .pollResumes fun _ => none, .pollWakes,
    .shutdownRequested]

/-- The receive brings a second message, and both tasks finish. -/
def lastTwo : List (Action Unit) :=
  [.receiveReturns [⟨"b", "second"⟩], .pollResumes fun _ => none, .pollWakes,
    .responseRaises 0 .other, .responseReturns 1 (), .putLands 1,
    .uploadReturns 1 .succeeds, .drainWakes]

theorem drainsFrom_lastTwo :
    ∃ start finish, System.execute State.step .initial secondReceive = some start ∧
      System.execute State.step start lastTwo = some finish ∧
      start.outstanding = 1 ∧ finish.completed = 2 ∧ finish.drain = .returned ∧
      DrainsFrom start lastTwo finish := by
  have executed : (System.execute State.step .initial secondReceive).bind (fun start =>
      (System.execute State.step start lastTwo).map fun finish =>
        (start.shutdownEvent, start.outstanding, finish.completed, finish.drain)) =
      some (true, 1, 2, .returned) := rfl
  rcases Option.bind_eq_some_iff.mp executed with ⟨start, before, executed⟩
  rcases Option.map_eq_some_iff.mp executed with ⟨finish, after, seen⟩
  simp only [Prod.mk.injEq] at seen
  rcases seen with ⟨requested, outstanding, completed, returned⟩
  exact ⟨start, finish, before, after, outstanding, completed, returned,
    drainsFrom (System.reachable_of_execute secondReceive before) requested
      (System.run_of_execute after)⟩

end DistributedInference.StreamProcessing
