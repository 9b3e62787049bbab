import Mathlib.Data.Set.Finite.Basic
import DistributedInference.StreamProcessing.InFlight

/-!
# The graceful drain

`__del__` sets the event and waits until `processing_requests` is empty.  The
table says nothing about a batch that `run` is still waiting for: the loop checks
the event only before a receive, so a batch that is on its way when the drain
returns is still dispatched.

A drain is clean when no task is left and the poller hands nothing to the model
afterwards.  Which drains are clean is decided by the phase of `run` at the last
check of `__del__`.
-/

namespace DistributedInference.StreamProcessing

open Transition

variable {Pixels : Type} {state next : State Pixels} {action : Action Pixels}

/-- `run` is suspended in its receive and a batch is still to come, or a
non-empty one has been fetched already. -/
def PollPhase.BatchOnItsWay : PollPhase → Prop
  | .receiving _ => True
  | .received (.ok (_ :: _)) => True
  | _ => False

/-- No task is left, and no continuation hands a message to the model. -/
structure DrainedCleanly (state : State Pixels) : Prop where
  finished : ∀ task ∈ state.inFlight.jobs, ¬task.Unfinished
  quiet : ∀ actions final, (poller Pixels).Run state actions final →
    final.handed = state.handed

/-! ## The last check of the drain -/

/-- A step by which `__del__` returns is one of its checks of the table, and
changes neither the table nor the phase of `run`. -/
structure LastCheck (state next : State Pixels) : Prop where
  poll : next.poll = state.poll
  inFlight : next.inFlight = state.inFlight
  empty : state.inFlight.table.keys = []

theorem checkDrained_returned (returned : state.checkDrained.drain = .returned) :
    state.inFlight.table.keys = [] := by
  simp only [State.checkDrained] at returned
  split at returned
  next empty => exact empty
  next => contradiction

theorem lastCheck_of_moves (moves : Moves state action next)
    (before : state.drain ≠ .returned) (after : next.drain = .returned) :
    LastCheck state next := by
  cases moves with
  | pollWakes =>
      unfold State.checkShutdown at after
      split at after
      · exact absurd after before
      · exact absurd after before
  | send => exact absurd after before
  | receiveReturns => exact absurd after before
  | receiveRaises => exact absurd after before
  | dispatch => exact absurd after before
  | receiveFailed => exact absurd after before
  | responseReturns => exact absurd after before
  | responseRaises => simp [before] at after
  | putLands => exact absurd after before
  | uploadReturns => simp [before] at after
  | uploadRaises => simp [before] at after
  | shutdownRequested => exact ⟨rfl, rfl, checkDrained_returned after⟩
  | drainWakes => exact ⟨rfl, rfl, checkDrained_returned after⟩

/-- With an empty table every task has finished. -/
theorem Consistent.finished_of_empty {inFlight : Registry String (Task Pixels)}
    (consistent : Consistent inFlight) (empty : inFlight.table.keys = []) :
    ∀ task ∈ inFlight.jobs, ¬task.Unfinished := by
  intro task member unfinished
  have present : task.queueMessage.messageId ∈ inFlight.table := by
    rw [consistent.exact.mem_table_iff]
    exact ⟨task, member, (Task.running_eq_some_iff task _).mpr ⟨rfl, unfinished⟩⟩
  rw [AList.mem_keys, empty] at present
  contradiction

/-! ## Quiet continuations -/

/-- The event stays set once `__del__` has started. -/
theorem shutdownEvent_of_drain (reachable : (poller Pixels).Reachable state) :
    state.drain ≠ .idle → state.shutdownEvent = true := by
  apply State.invariant
    (fun state => state.drain ≠ .idle → state.shutdownEvent = true) ?_ ?_ reachable
  · simp [State.initial]
  · intro state action next _ holds moves
    cases moves with
    | pollWakes =>
        unfold State.checkShutdown
        split
        · exact holds
        · exact holds
    | send => exact holds
    | receiveReturns => exact holds
    | receiveRaises => exact holds
    | dispatch => exact holds
    | receiveFailed => exact holds
    | responseReturns => exact holds
    | responseRaises => simpa using holds
    | putLands => exact holds
    | uploadReturns => simpa using holds
    | uploadRaises => simpa using holds
    | shutdownRequested => exact fun _ => rfl
    | drainWakes waiting => exact fun _ => holds (by simp [waiting])

/-- The event is set and no batch is on its way. -/
structure Quiet (state : State Pixels) : Prop where
  shutdown : state.shutdownEvent = true
  noBatch : ¬state.poll.BatchOnItsWay

/-- One step of a quiet poller hands nothing over and leaves it quiet. -/
theorem Quiet.moves (quiet : Quiet state) (moves : Moves state action next) :
    Quiet next ∧ next.handed = state.handed := by
  rcases quiet with ⟨shutdown, noBatch⟩
  cases moves with
  | pollWakes =>
      -- The check of the event ends the loop before it can receive again.
      simp only [State.checkShutdown, shutdown, if_true]
      exact ⟨⟨rfl, nofun⟩, trivial⟩
  | receiveReturns receiving => simp [receiving, PollPhase.BatchOnItsWay] at noBatch
  | receiveRaises => exact ⟨⟨shutdown, nofun⟩, rfl⟩
  | @dispatch remote messages received =>
      cases messages with
      | nil => exact ⟨⟨shutdown, nofun⟩, List.append_nil _⟩
      | cons message rest => simp [received, PollPhase.BatchOnItsWay] at noBatch
  | receiveFailed => exact ⟨⟨shutdown, nofun⟩, rfl⟩
  | responseRaises => exact ⟨⟨by simpa, by simpa⟩, by simp⟩
  | uploadReturns => exact ⟨⟨by simpa, by simpa⟩, by simp⟩
  | uploadRaises => exact ⟨⟨by simpa, by simpa⟩, by simp⟩
  | send => exact ⟨⟨shutdown, noBatch⟩, rfl⟩
  | responseReturns => exact ⟨⟨shutdown, noBatch⟩, rfl⟩
  | putLands => exact ⟨⟨shutdown, noBatch⟩, rfl⟩
  | shutdownRequested => exact ⟨⟨rfl, noBatch⟩, rfl⟩
  | drainWakes => exact ⟨⟨shutdown, noBatch⟩, rfl⟩

/-- No run of a quiet poller hands anything over. -/
theorem Quiet.run {actions : List (Action Pixels)} {final : State Pixels}
    (quiet : Quiet state) (run : (poller Pixels).Run state actions final) :
    final.handed = state.handed := by
  have both := run.preserves
    (fun current => Quiet current ∧ current.handed = state.handed)
    (fun holds taken =>
      have stepped := holds.1.moves (moves_of_step taken)
      ⟨stepped.1, stepped.2.trans holds.2⟩)
    ⟨quiet, rfl⟩
  exact both.2

/-! ## A batch that comes after the drain -/

/-- The first message of a batch is handed over when it is not in the table,
whether or not the call then raises. -/
theorem forward_handed_cons (remote : String → Option Failure)
    {inFlight : Registry String (Task Pixels)} {message : Message}
    (rest : List Message) (absent : message.messageId ∉ inFlight.table) :
    ∃ later, (forward remote inFlight (message :: rest)).handed =
      message :: later := by
  simp only [forward, if_neg absent]
  split
  · exact ⟨[], rfl⟩
  · exact ⟨_, rfl⟩

/-- Resuming with a non-empty batch and an empty table hands a message over. -/
theorem handed_ne_of_resume {message : Message} {rest : List Message}
    (received : state.poll = .received (.ok (message :: rest)))
    (empty : state.inFlight.table.keys = []) :
    ∃ final, (poller Pixels).Run state [.pollResumes fun _ => none] final ∧
      final.handed ≠ state.handed := by
  have absent : message.messageId ∉ state.inFlight.table := by
    simp [AList.mem_keys, empty]
  have taken : state.step (.pollResumes fun _ => none) =
      some (state.dispatch (fun _ => none) (message :: rest)) := by
    simp only [State.step, received]
  refine ⟨_, .single taken, ?_⟩
  rcases forward_handed_cons (fun _ => none) rest absent with ⟨later, handed⟩
  simp [State.dispatch, handed]

/-- A producer can always send a message that a receive under way may return. -/
theorem exists_fresh_message (used : List String) :
    ∃ message : Message, message.messageId ∉ used := by
  rcases Infinite.exists_notMem_finset used.toFinset with ⟨messageId, fresh⟩
  exact ⟨⟨messageId, ""⟩, by simpa using fresh⟩

theorem handed_ne_of_batchOnItsWay (batch : state.poll.BatchOnItsWay)
    (empty : state.inFlight.table.keys = []) :
    ∃ actions final, (poller Pixels).Run state actions final ∧
      final.handed ≠ state.handed := by
  cases phase : state.poll with
  | receiving gone =>
      rcases exists_fresh_message (state.sent.map Message.messageId ++ gone) with
        ⟨message, fresh⟩
      simp only [List.mem_append, not_or] at fresh
      let sent : State Pixels :=
        { state with
          sent := state.sent ++ [message]
          queue := state.queue ++ [message] }
      let fetched : State Pixels := { sent with poll := .received (.ok [message]) }
      have sends : state.step (.send message) = some sent := by
        simp only [State.step, if_neg fresh.1, sent]
      have fetches : sent.step (.receiveReturns [message]) = some fetched := by
        simp [State.step, sent, fetched, phase, fresh.2, maxNumberOfMessages]
      have received : fetched.poll = .received (.ok [message]) := rfl
      rcases handed_ne_of_resume received empty with ⟨final, resumes, handed⟩
      exact ⟨_, final, .cons sends (.cons fetches resumes), handed⟩
  | received outcome =>
      cases outcome with
      | error failure => simp [phase, PollPhase.BatchOnItsWay] at batch
      | ok messages =>
          cases messages with
          | nil => simp [phase, PollPhase.BatchOnItsWay] at batch
          | cons message rest =>
              rcases handed_ne_of_resume phase empty with ⟨final, run, handed⟩
              exact ⟨_, final, run, handed⟩
  | scheduled => simp [phase, PollPhase.BatchOnItsWay] at batch
  | sleeping milliseconds => simp [phase, PollPhase.BatchOnItsWay] at batch
  | ended raised => simp [phase, PollPhase.BatchOnItsWay] at batch

/-! ## Exactly the clean drains -/

/-- In every run, at the step by which `__del__` returns: the drain is clean if
and only if `run` has no batch on its way at that moment. -/
theorem drainedCleanly_iff (reachable : (poller Pixels).Reachable state)
    (taken : state.step action = some next) (before : state.drain ≠ .returned)
    (after : next.drain = .returned) :
    DrainedCleanly next ↔ ¬state.poll.BatchOnItsWay := by
  have check := lastCheck_of_moves (moves_of_step taken) before after
  have reached : (poller Pixels).Reachable next := reachable.step taken
  have empty : next.inFlight.table.keys = [] := check.inFlight ▸ check.empty
  constructor
  · intro clean batch
    rw [← check.poll] at batch
    rcases handed_ne_of_batchOnItsWay batch empty with ⟨actions, final, run, handed⟩
    exact handed (clean.quiet actions final run)
  · intro noBatch
    have shutdown := shutdownEvent_of_drain reached (by simp [after])
    have quiet : Quiet next := ⟨shutdown, check.poll ▸ noBatch⟩
    exact ⟨(consistent_of_reachable reached).finished_of_empty empty,
      fun _ _ run => quiet.run run⟩

/-- One message is with the model when the shutdown is requested. -/
def shutdownInFlight : List (Action Unit) :=
  [.send ⟨"a", "prompt"⟩, .pollWakes, .receiveReturns [⟨"a", "prompt"⟩],
    .pollResumes fun _ => none, .shutdownRequested]

/-- The model answers, and the task ends while `run` sleeps. -/
def lastTask : List (Action Unit) :=
  [.responseReturns 0 (), .putLands 0, .uploadReturns 0 .succeeds]

theorem drainedCleanly_iff_lastTask :
    ∃ busy idle next, System.execute State.step .initial shutdownInFlight = some busy ∧
      System.execute State.step busy lastTask = some idle ∧
      busy.inFlight.table.keys = ["a"] ∧ busy.drain = .waiting ∧
      idle.step .drainWakes = some next ∧ DrainedCleanly next := by
  have executed : (System.execute State.step .initial shutdownInFlight).bind (fun busy =>
      (System.execute State.step busy lastTask).map fun idle =>
        (busy.inFlight.table.keys, busy.drain, idle.inFlight.table.keys, idle.drain,
          idle.poll)) =
      some (["a"], .waiting, [], .waiting, .sleeping 100) := rfl
  rcases Option.bind_eq_some_iff.mp executed with ⟨busy, before, executed⟩
  rcases Option.map_eq_some_iff.mp executed with ⟨idle, after, seen⟩
  simp only [Prod.mk.injEq] at seen
  rcases seen with ⟨listed, waits, empty, waiting, asleep⟩
  have reachable : (poller Unit).Reachable idle :=
    (System.reachable_of_execute shutdownInFlight before).run (System.run_of_execute after)
  have wakes : idle.step .drainWakes = some idle.checkDrained := by
    simp only [State.step, waiting]
  have returned : idle.checkDrained.drain = .returned := if_pos empty
  have clean := (drainedCleanly_iff reachable wakes (by simp [waiting]) returned).mpr
    (by simp [asleep, PollPhase.BatchOnItsWay])
  exact ⟨busy, idle, _, before, after, listed, waits, wakes, clean⟩

/-- A poller whose drain has returned during the first long poll. -/
def drainedWhileReceiving : State Unit :=
  { State.initial with
    poll := .receiving []
    shutdownEvent := true
    drain := .returned }

/-- What can follow: the receive returns a message, and `run` resumes. -/
def lateBatch : List (Action Unit) :=
  [.send ⟨"a", "prompt"⟩, .receiveReturns [⟨"a", "prompt"⟩],
    .pollResumes fun _ => none]

/-- Shutdown is requested while `run` is suspended in its long poll.  The table is
empty, so `__del__` returns at once, and the drain is not clean. -/
theorem drainedWhileReceiving_not_clean :
    System.execute State.step .initial [.pollWakes, .shutdownRequested] =
        some drainedWhileReceiving ∧
      ¬DrainedCleanly drainedWhileReceiving := by
  refine ⟨rfl, ?_⟩
  intro clean
  have handed : [(⟨"a", "prompt"⟩ : Message)] = [] :=
    clean.quiet lateBatch _ (System.run_of_execute rfl)
  contradiction

end DistributedInference.StreamProcessing
