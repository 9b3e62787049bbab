import DistributedInference.StreamProcessing.Moves
import DistributedInference.Transition.History
import Mathlib.Data.Finset.Card

/-!
# The backoff

A round of `run` hands over a batch and then waits; the wait doubles with every
increment of `backpressure_counter`.  The counter is incremented by each rejected
message, not by each round that had messages rejected, and `process_finished_request`
resets it before the delete, so also for a message whose delete then raises.  The waits
are 2 s, 4 s, 8 s and 10 s only if neither makes a difference.

A history beside the poller keeps what the counter leaves out: which round created
which task, and the rounds of the messages rejected since the last success.
-/

namespace DistributedInference.StreamProcessing

open Transition

variable {Pixels : Type} {state next : State Pixels} {action : Action Pixels}

/-- What a run of the poller has seen. -/
structure PollHistory where
  /-- For each round, the number of tasks created before it. -/
  rounds : List Nat := []
  /-- For each message rejected since one was last processed, the round that handed it
  over. -/
  rejections : List Nat := []
  /-- The number of messages rejected since an upload last returned. -/
  rejectedSinceUpload : Nat := 0
  deriving DecidableEq, Repr

namespace PollHistory

/-- The round that created the task at an index. -/
def roundOf (history : PollHistory) (index : Nat) : Nat :=
  history.rounds.countP fun earlier => earlier ≤ index

/-- The number of rounds with a message rejected since one was last processed. -/
def overloadedRounds (history : PollHistory) : Nat :=
  history.rejections.toFinset.card

/-- A message of the task at an index is rejected. -/
def reject (history : PollHistory) (index : Nat) : PollHistory :=
  { history with
    rejections := history.rejections ++ [history.roundOf index]
    rejectedSinceUpload := history.rejectedSinceUpload + 1 }

/-- A round begins, a message is rejected, or an upload returns.  The message is
processed if its delete succeeds. -/
def record (state : State Pixels) (action : Action Pixels) (history : PollHistory) :
    PollHistory :=
  match action with
  | .pollResumes _ =>
      { history with rounds := history.rounds ++ [state.inFlight.jobs.length] }
  | .responseRaises index .backPressureError | .uploadRaises index .backPressureError =>
      history.reject index
  | .uploadReturns _ .succeeds =>
      { history with rejections := [], rejectedSinceUpload := 0 }
  | .uploadReturns _ (.raises _ _) => { history with rejectedSinceUpload := 0 }
  | _ => history

end PollHistory

/-- The poller with its history. -/
def watchedPoller (Pixels : Type) : System (State Pixels × PollHistory) (Action Pixels) :=
  .ofFunction (.initial, {}) (System.recording State.step PollHistory.record)

/-! ## What the counter counts -/

theorem tryRaises_counter (index : Nat) (task : Task Pixels) (failure : Failure) :
    (state.tryRaises index task failure).backpressureCounter =
      match failure with
      | .backPressureError => state.backpressureCounter + 1
      | .other => state.backpressureCounter := by
  cases failure with
  | backPressureError => rfl
  | other => rfl

theorem elseClause_counter (index : Nat) (task : Task Pixels) (delete : DeleteOutcome) :
    (state.elseClause index task delete).backpressureCounter = 0 := by
  cases delete with
  | succeeds => rfl
  | raises failure tookEffect => cases tookEffect <;> rfl

/-- One step keeps the counter at the number of messages rejected since an upload last
returned. -/
theorem counter_moves {history : PollHistory}
    (counted : state.backpressureCounter = history.rejectedSinceUpload)
    (moves : Moves state action next) :
    next.backpressureCounter =
      (history.record state action).rejectedSinceUpload := by
  cases moves with
  | pollWakes =>
      unfold State.checkShutdown
      split
      · exact counted
      · exact counted
  | @responseRaises index failure =>
      rw [tryRaises_counter]
      cases failure with
      | backPressureError => exact congrArg (· + 1) counted
      | other => exact counted
  | @uploadRaises index failure =>
      rw [tryRaises_counter]
      cases failure with
      | backPressureError => exact congrArg (· + 1) counted
      | other => exact counted
  | @uploadReturns index delete =>
      rw [elseClause_counter]
      cases delete <;> rfl
  | send => exact counted
  | receiveReturns => exact counted
  | receiveRaises => exact counted
  | dispatch => exact counted
  | receiveFailed => exact counted
  | responseReturns => exact counted
  | putLands => exact counted
  | shutdownRequested => exact counted
  | drainWakes => exact counted

theorem counter_of_reachable {watched : State Pixels × PollHistory}
    (reachable : (watchedPoller Pixels).Reachable watched) :
    watched.1.backpressureCounter = watched.2.rejectedSinceUpload := by
  apply reachable.invariant
    (fun watched => watched.1.backpressureCounter = watched.2.rejectedSinceUpload)
  · intro watched initial
    rw [initial]
    rfl
  · intro watched action next _ counted taken
    rcases Option.map_eq_some_iff.mp taken with ⟨after, stepped, same⟩
    rw [← same]
    exact counter_moves counted (moves_of_step stepped)

/-! ## The wait -/

theorem min_pow_of_lt {exponent : Nat} (below : exponent < 4) :
    min 10 (2 ^ exponent) = 2 ^ exponent := by
  have power := Nat.pow_le_pow_right (n := 2) (by decide) (Nat.le_of_lt_succ below)
  exact min_eq_right (by omega)

theorem min_pow_of_le {exponent : Nat} (capped : 4 ≤ exponent) :
    min 10 (2 ^ exponent) = 10 := by
  have power := Nat.pow_le_pow_right (n := 2) (by decide) capped
  exact min_eq_left (by omega)

/-- Waits with the cap are equal exactly if their exponents are or both reach the
cap. -/
theorem min_pow_inj {exponent other : Nat} :
    min 10 (2 ^ exponent) = min 10 (2 ^ other) ↔
      exponent = other ∨ 4 ≤ exponent ∧ 4 ≤ other := by
  have small {exponent : Nat} (below : exponent < 4) : 2 ^ exponent ≠ 10 := by
    have power := Nat.pow_le_pow_right (n := 2) (by decide) (Nat.le_of_lt_succ below)
    omega
  rcases lt_or_ge exponent 4 with below | capped <;>
    rcases lt_or_ge other 4 with otherBelow | otherCapped
  · rw [min_pow_of_lt below, min_pow_of_lt otherBelow,
      (Nat.pow_right_injective le_rfl).eq_iff]
    omega
  · rw [min_pow_of_lt below, min_pow_of_le otherCapped]
    exact iff_of_false (small below) (by omega)
  · rw [min_pow_of_le capped, min_pow_of_lt otherBelow]
    exact iff_of_false (small otherBelow).symm (by omega)
  · rw [min_pow_of_le capped, min_pow_of_le otherCapped]
    exact iff_of_true rfl (.inr ⟨capped, otherCapped⟩)

/-- The wait after a number of rejections is the one after a number of rounds exactly
if the two are equal, or both reach the cap. -/
theorem pollDelay_eq_iff {rounds rejections : Nat} (overloaded : 1 ≤ rounds) :
    pollDelay rejections = 1000 * min 10 (2 ^ rounds) ↔
      rejections = rounds ∨ 4 ≤ rejections ∧ 4 ≤ rounds := by
  rcases Nat.eq_zero_or_pos rejections with rfl | positive
  · -- Without a rejection the wait is 100 ms.
    have power : 0 < 2 ^ rounds := Nat.two_pow_pos rounds
    have longer : 1 ≤ min 10 (2 ^ rounds) := le_min (by decide) power
    rw [pollDelay, if_pos rfl]
    omega
  · rw [pollDelay, if_neg positive.ne', Nat.mul_right_inj (by decide), min_pow_inj]

namespace PollHistory

/-- The rejections since an upload last returned are as many as the rounds overloaded
since a message was last processed, or there are at least four of both. -/
def CountsRounds (history : PollHistory) : Prop :=
  history.rejectedSinceUpload = history.overloadedRounds ∨
    4 ≤ history.rejectedSinceUpload ∧ 4 ≤ history.overloadedRounds

/-- Where the counter holds every rejection since the last success, it counts rounds
if no round had two messages rejected, or at least four were overloaded. -/
theorem countsRounds_iff {history : PollHistory}
    (allCounted : history.rejectedSinceUpload = history.rejections.length) :
    history.CountsRounds ↔
      history.rejections.Nodup ∨ 4 ≤ history.overloadedRounds := by
  have fewer : history.overloadedRounds ≤ history.rejections.length :=
    List.toFinset_card_le _
  have once : history.rejections.length = history.overloadedRounds ↔
      history.rejections.Nodup := by
    rw [eq_comm, ← Multiset.coe_nodup, ← Multiset.toFinset_card_eq_card_iff_nodup]
    rfl
  have both : 4 ≤ history.rejections.length ∧ 4 ≤ history.overloadedRounds ↔
      4 ≤ history.overloadedRounds := by omega
  rw [CountsRounds, allCounted, once, both]

end PollHistory

/-- If `run` goes to sleep and some rounds were overloaded since the last success, its
wait is that of the number of those rounds. -/
def WaitDoubles (watched : State Pixels × PollHistory) : Action Pixels → Prop
  | .pollResumes remote => ∀ next milliseconds,
      watched.1.step (.pollResumes remote) = some next →
      next.poll = .sleeping milliseconds → 1 ≤ watched.2.overloadedRounds →
      milliseconds = 1000 * min 10 (2 ^ watched.2.overloadedRounds)
  | _ => True

/-- If `run` goes to sleep and some rounds were overloaded since the last success, the
rejections that the counter holds count those rounds. -/
def RejectionsCountRounds (watched : State Pixels × PollHistory) :
    Action Pixels → Prop
  | .pollResumes remote => ∀ messages, watched.1.poll = .received (.ok messages) →
      (forward remote watched.1.inFlight messages).raised = none →
      1 ≤ watched.2.overloadedRounds → watched.2.CountsRounds
  | _ => True

theorem dispatch_sleeping_iff {remote : String → Option Failure}
    {messages : List Message} {milliseconds : Nat} :
    (state.dispatch remote messages).poll = .sleeping milliseconds ↔
      (forward remote state.inFlight messages).raised = none ∧
        milliseconds = pollDelay state.backpressureCounter := by
  simp only [State.dispatch]
  cases (forward remote state.inFlight messages).raised with
  | none => simp [eq_comm]
  | some failure => simp

/-- What decides about one wait. -/
theorem waitDoubles_iff {watched : State Pixels × PollHistory}
    (counted : watched.1.backpressureCounter = watched.2.rejectedSinceUpload) :
    WaitDoubles watched action ↔ RejectionsCountRounds watched action := by
  cases action with
  | pollResumes remote =>
      constructor
      · intro doubles messages received returns overloaded
        have taken : watched.1.step (.pollResumes remote) =
            some (watched.1.dispatch remote messages) := by
          simp only [State.step, received]
        have wait := doubles _ _ taken (dispatch_sleeping_iff.mpr ⟨returns, rfl⟩)
          overloaded
        rw [counted] at wait
        exact (pollDelay_eq_iff overloaded).mp wait
      · intro counts next milliseconds taken sleeping overloaded
        cases moves_of_step taken with
        | @dispatch _ messages received =>
            rcases dispatch_sleeping_iff.mp sleeping with ⟨returns, wait⟩
            rw [wait, counted]
            exact (pollDelay_eq_iff overloaded).mpr
              (counts messages received returns overloaded)
        | receiveFailed => cases sleeping
  | send | pollWakes | receiveReturns | receiveRaises | responseReturns
  | responseRaises | putLands | uploadReturns | uploadRaises | shutdownRequested
  | drainWakes => exact Iff.rfl

/-- In every run, the waits double with the overloaded rounds exactly if at each wait
under overload the rejections that the counter holds count those rounds. -/
theorem waitsDouble_iff (actions : List (Action Pixels)) :
    (watchedPoller Pixels).EachStep WaitDoubles (.initial, {}) actions ↔
      (watchedPoller Pixels).EachStep RejectionsCountRounds (.initial, {}) actions := by
  have decided : ∀ {earlier : List (Action Pixels)} {watched action},
      (watchedPoller Pixels).Run (.initial, {}) earlier watched →
        (WaitDoubles watched action ↔ RejectionsCountRounds watched action) := by
    intro earlier watched action run
    exact waitDoubles_iff (counter_of_reachable ⟨_, earlier, rfl, run⟩)
  constructor
  · intro double earlier action later watched split run
    exact (decided run).mp (double earlier action later watched split run)
  · intro counts earlier action later watched split run
    exact (decided run).mpr (counts earlier action later watched split run)

/-- A delete does not raise. -/
def DeletesSucceed (_ : State Pixels × PollHistory) : Action Pixels → Prop
  | .uploadReturns _ delete => delete = .succeeds
  | _ => True

/-- While no delete raises, the waits double at every point where no round had two
messages rejected since the last success, or at least four were overloaded. -/
theorem countsRounds_iff_of_reachable {watched : State Pixels × PollHistory}
    (reachable : ((watchedPoller Pixels).restrict DeletesSucceed).Reachable watched) :
    watched.2.CountsRounds ↔
      watched.2.rejections.Nodup ∨ 4 ≤ watched.2.overloadedRounds := by
  apply PollHistory.countsRounds_iff
  apply reachable.invariant
    (fun watched => watched.2.rejectedSinceUpload = watched.2.rejections.length)
  · intro watched initial
    rw [initial]
    rfl
  · intro watched action next _ allCounted taken
    rcases taken with ⟨succeeds, taken⟩
    rcases Option.map_eq_some_iff.mp taken with ⟨after, _, rfl⟩
    cases action with
    | responseRaises index failure | uploadRaises index failure =>
        cases failure with
        | backPressureError =>
            simp [PollHistory.record, PollHistory.reject, allCounted]
        | other => exact allCounted
    | uploadReturns index delete =>
        rw [DeletesSucceed] at succeeds
        subst succeeds
        rfl
    | _ => exact allCounted

/-- The history leaves the runs of the poller as they are. -/
theorem run_watchedPoller_iff (actions : List (Action Pixels)) :
    (∃ history, (watchedPoller Pixels).Run (.initial, {}) actions (state, history)) ↔
      (poller Pixels).Run .initial actions state := by
  constructor
  · intro watched
    rcases watched with ⟨history, run⟩
    exact run.forget
  · intro run
    exact run.recorded PollHistory.record {} _

/-- One poll hands over two messages, and the model rejects both. -/
def twoRejections : List (Action Unit) :=
  [.send ⟨"a", "first"⟩, .send ⟨"b", "second"⟩, .pollWakes,
    .receiveReturns [⟨"a", "first"⟩, ⟨"b", "second"⟩], .pollResumes fun _ => none,
    .responseRaises 0 .backPressureError, .responseRaises 1 .backPressureError,
    .pollWakes, .receiveReturns []]

/-- The first wait under overload is 4 s. -/
theorem twoRejections_waitsFour :
    ∃ watched, (watchedPoller Unit).Run (.initial, {}) twoRejections watched ∧
      watched.2.overloadedRounds = 1 ∧
      ((watched.1.step (.pollResumes fun _ => none)).map State.poll) =
        some (.sleeping 4000) ∧
      ¬(watchedPoller Unit).EachStep WaitDoubles (.initial, {})
        (twoRejections ++ [.pollResumes fun _ => none]) := by
  have executed : (System.execute (System.recording State.step PollHistory.record)
      ((.initial, {}) : State Unit × PollHistory) twoRejections).map (fun watched =>
        (watched.2.overloadedRounds,
          (watched.1.step (.pollResumes fun _ => none)).map State.poll)) =
      some (1, some (.sleeping 4000)) := rfl
  rcases Option.map_eq_some_iff.mp executed with ⟨watched, reached, seen⟩
  simp only [Prod.mk.injEq] at seen
  rcases seen with ⟨overloaded, sleeps⟩
  have run : (watchedPoller Unit).Run (.initial, {}) twoRejections watched :=
    System.run_of_execute reached
  refine ⟨watched, run, overloaded, sleeps, ?_⟩
  intro doubles
  rcases Option.map_eq_some_iff.mp sleeps with ⟨next, taken, sleeping⟩
  have wait := doubles twoRejections (.pollResumes fun _ => none) [] watched rfl run
    next 4000 taken sleeping overloaded.ge
  rw [overloaded] at wait
  contradiction

-- One of two messages is rejected, the upload of the other one returns and its delete
-- raises: no message was processed, and `run` waits 100 ms.
example : (System.execute (System.recording State.step PollHistory.record)
    ((.initial, {}) : State Unit × PollHistory)
      (twoRejections.take 6 ++ [.responseReturns 1 (), .putLands 1,
        .uploadReturns 1 (.raises .other false), .pollWakes, .receiveReturns [],
        .pollResumes fun _ => none])).map
      (fun watched => (watched.2.overloadedRounds, watched.1.poll)) =
    some (1, .sleeping 100) := rfl

end DistributedInference.StreamProcessing
