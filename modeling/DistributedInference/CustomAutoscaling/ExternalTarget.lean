import DistributedInference.Json.Reading
import DistributedInference.Transition.System
import Mathlib.Algebra.Order.Ring.Rat
import Mathlib.Tactic.Linarith

/-!
# A target from outside the cluster

`ExternalTargetPolicy` reads a replica count from a file, but not on every call: a
read, failed or not, is the last one for an interval, and the last good value is held
meanwhile.  The controller decides when it calls and with which time, and the file
changes as its owner likes, so a run is any sequence of calls.

`json.loads`, indexing and `int` are parameters, with the exceptions they raise.
-/

namespace DistributedInference.CustomAutoscaling.ExternalTarget

open Transition

/-- The parts of the Python library between the text of the file and the target.
Everything they raise is an `Exception`. -/
structure Library (Raised Document : Type) where
  loads : String → Except Raised Document
  getItem : Document → String → Except Raised Document
  int : Document → Except Raised ℤ

/-- The state of an `ExternalTargetPolicy`. -/
structure ExternalTargetPolicy where
  filePath : String
  pollIntervalS : ℚ
  desiredReplicas : ℤ
  lastPollS : ℚ
  deriving DecidableEq

/-- One call of the policy: the time of its context, and what reading the file gives
at that moment. -/
structure Call (Raised : Type) where
  currentTime : Option ℚ
  file : Except Raised String

/-- `ctx.current_time or 0.0`. -/
def Call.nowS {Raised : Type} (call : Call Raised) : ℚ :=
  call.currentTime.getD 0

/-- The second component of what the policy returns. -/
structure PolicyState where
  source : String
  target : ℤ
  deriving DecidableEq

/-- What a call returns, what it leaves behind, and what it read if it read the
file. -/
structure Outcome (Raised : Type) where
  target : ℤ
  policyState : PolicyState
  policy : ExternalTargetPolicy
  read : Option (Except Raised ℤ)

section

variable {Raised Document : Type}

/-- `int(json.loads(self._file_path.read_text())["replicas"])`. -/
def readReplicas (library : Library Raised Document) (file : Except Raised String) :
    Except Raised ℤ := do
  let text ← file
  let document ← library.loads text
  let replicas ← library.getItem document "replicas"
  library.int replicas

namespace ExternalTargetPolicy

/-- `__init__`. -/
def init (filePath : String) (pollIntervalS : ℚ := 5) : ExternalTargetPolicy where
  filePath := filePath
  pollIntervalS := pollIntervalS
  desiredReplicas := 1
  lastPollS := 0

/-- `_maybe_poll`, with what it read if it read the file. -/
def maybePoll (library : Library Raised Document) (policy : ExternalTargetPolicy)
    (nowS : ℚ) (file : Except Raised String) :
    Except Raised (ExternalTargetPolicy × Option (Except Raised ℤ)) :=
  if nowS - policy.lastPollS < policy.pollIntervalS then .ok (policy, none)
  else
    let policy := { policy with lastPollS := nowS }
    let read := readReplicas library file
    tryCatch
      (do
        let desiredReplicas ← read
        return ({ policy with desiredReplicas := desiredReplicas }, some read))
      fun _ => return (policy, some read)

/-- `__call__`. -/
def call (library : Library Raised Document) (policy : ExternalTargetPolicy)
    (call : Call Raised) : Except Raised (Outcome Raised) := do
  let (policy, read) ← policy.maybePoll library call.nowS call.file
  return {
    target := policy.desiredReplicas
    policyState := ⟨policy.filePath, policy.desiredReplicas⟩
    policy := policy
    read := read }

variable {library : Library Raised Document} {policy : ExternalTargetPolicy}
variable {tick : Call Raised}

/-- Within the interval the file is not read. -/
theorem call_of_recent
    (recent : tick.nowS - policy.lastPollS < policy.pollIntervalS) :
    policy.call library tick = .ok {
      target := policy.desiredReplicas
      policyState := ⟨policy.filePath, policy.desiredReplicas⟩
      policy := policy
      read := none } := by
  rw [call, maybePoll, if_pos recent]
  rfl

/-- Otherwise the file is read, and a failed read leaves the target alone. -/
theorem call_of_due
    (due : ¬ tick.nowS - policy.lastPollS < policy.pollIntervalS) :
    let read := readReplicas library tick.file
    let target := read.toOption.getD policy.desiredReplicas
    policy.call library tick = .ok {
      target := target
      policyState := ⟨policy.filePath, target⟩
      policy := { policy with lastPollS := tick.nowS, desiredReplicas := target }
      read := some read } := by
  intro read target
  rw [call, maybePoll, if_neg due]
  cases computed : readReplicas library tick.file with
  | error raised =>
      have kept : target = policy.desiredReplicas := by
        simp only [target, read, computed]
        rfl
      rw [kept]
      simp only [read, computed]
      rfl
  | ok replicas =>
      have changed : target = replicas := by
        simp only [target, read, computed]
        rfl
      rw [changed]
      simp only [read, computed]
      rfl

/-- A call returns, whatever the file holds. -/
theorem exists_call (library : Library Raised Document)
    (policy : ExternalTargetPolicy) (tick : Call Raised) :
    ∃ outcome, policy.call library tick = .ok outcome := by
  by_cases recent : tick.nowS - policy.lastPollS < policy.pollIntervalS
  · exact ⟨_, call_of_recent recent⟩
  · exact ⟨_, call_of_due recent⟩

end ExternalTargetPolicy

/-! ## Sequences of calls -/

/-- What an observer sees of a call: its time, what it read if it read the file, and
its target. -/
structure Observation (Raised : Type) where
  nowS : ℚ
  read : Option (Except Raised ℤ)
  target : ℤ

/-- A policy with everything observed of it, the first call first. -/
structure Session (Raised : Type) where
  policy : ExternalTargetPolicy
  history : List (Observation Raised)

namespace Session

/-- The controller calls the policy; there is no next state if the call raises. -/
def step (library : Library Raised Document) (session : Session Raised)
    (tick : Call Raised) : Option (Session Raised) :=
  match session.policy.call library tick with
  | .error _ => none
  | .ok outcome =>
      some {
        policy := outcome.policy
        history := session.history ++ [⟨tick.nowS, outcome.read, outcome.target⟩] }

/-- A policy that was never called. -/
def init (filePath : String) (pollIntervalS : ℚ) : Session Raised where
  policy := .init filePath pollIntervalS
  history := []

end Session

/-- All sequences of calls. -/
def sessions (library : Library Raised Document) (filePath : String)
    (pollIntervalS : ℚ) : System (Session Raised) (Call Raised) :=
  .ofFunction (Session.init filePath pollIntervalS) (Session.step library)

/-- The reads of the file with their times, failed ones included. -/
def reads (history : List (Observation Raised)) : List (ℚ × Except Raised ℤ) :=
  history.filterMap fun observation =>
    observation.read.map fun read => (observation.nowS, read)

/-- The time of the last read attempt; the clock of the policy starts at 0. -/
def lastAttempt (history : List (Observation Raised)) : ℚ :=
  ((reads history).map Prod.fst).getLast?.getD 0

/-- The integer from the most recent successful read, or 1 if none succeeded. -/
def lastGood (history : List (Observation Raised)) : ℤ :=
  ((reads history).filterMap fun read => read.2.toOption).getLast?.getD 1

section History

variable {history : List (Observation Raised)} {nowS : ℚ} {target : ℤ}

theorem reads_append_unread :
    reads (history ++ [⟨nowS, none, target⟩]) = reads history := by
  simp [reads]

theorem reads_append_read {read : Except Raised ℤ} :
    reads (history ++ [⟨nowS, some read, target⟩]) = reads history ++ [(nowS, read)] := by
  simp [reads]

theorem lastAttempt_append_read {read : Except Raised ℤ} :
    lastAttempt (history ++ [⟨nowS, some read, target⟩]) = nowS := by
  simp [lastAttempt, reads_append_read]

theorem lastGood_append_read {read : Except Raised ℤ} :
    lastGood (history ++ [⟨nowS, some read, target⟩]) =
      read.toOption.getD (lastGood history) := by
  rw [lastGood, reads_append_read, List.filterMap_append]
  cases read with
  | error raised => simp [lastGood, Except.toOption]
  | ok replicas => simp [Except.toOption]

end History

/-- What holds after every call.  The policy remembers the time of the last attempt
and the last good value, the attempts are an interval apart, and the last call came
within an interval after the last attempt. -/
structure RateLimited (pollIntervalS : ℚ) (session : Session Raised) : Prop where
  interval : session.policy.pollIntervalS = pollIntervalS
  lastPoll : session.policy.lastPollS = lastAttempt session.history
  desired : session.policy.desiredReplicas = lastGood session.history
  spaced : ((reads session.history).map Prod.fst).Pairwise
    fun earlier later => earlier + pollIntervalS ≤ later
  before : ∀ time ∈ (reads session.history).map Prod.fst,
    time ≤ lastAttempt session.history
  fresh : ∀ observation, session.history.getLast? = some observation →
    observation.nowS - lastAttempt session.history < pollIntervalS
  held : ∀ observation, session.history.getLast? = some observation →
    observation.target = lastGood session.history

theorem rateLimited_init (filePath : String) (pollIntervalS : ℚ) :
    RateLimited pollIntervalS (Session.init filePath pollIntervalS : Session Raised) where
  interval := rfl
  lastPoll := rfl
  desired := rfl
  spaced := .nil
  before time member := by cases member
  fresh observation last := by cases last
  held observation last := by cases last

variable {library : Library Raised Document} {filePath : String} {pollIntervalS : ℚ}
variable {session next : Session Raised} {tick : Call Raised}

namespace RateLimited

/-- A call that does not read adds an observation of what is remembered. -/
theorem unread (limited : RateLimited pollIntervalS session)
    (recent : tick.nowS - session.policy.lastPollS < session.policy.pollIntervalS) :
    RateLimited pollIntervalS {
      policy := session.policy
      history := session.history ++
        [⟨tick.nowS, none, session.policy.desiredReplicas⟩] } := by
  have sameAttempt : lastAttempt (session.history ++
      [⟨tick.nowS, none, session.policy.desiredReplicas⟩]) =
        lastAttempt session.history := by
    rw [lastAttempt, reads_append_unread, lastAttempt]
  have sameGood : lastGood (session.history ++
      [⟨tick.nowS, none, session.policy.desiredReplicas⟩]) =
        lastGood session.history := by
    rw [lastGood, reads_append_unread, lastGood]
  constructor
  · exact limited.interval
  · exact limited.lastPoll.trans sameAttempt.symm
  · exact limited.desired.trans sameGood.symm
  · rw [reads_append_unread]
    exact limited.spaced
  · rw [reads_append_unread, sameAttempt]
    exact limited.before
  · intro observation last
    rw [List.getLast?_concat] at last
    cases last
    rw [sameAttempt, ← limited.lastPoll, ← limited.interval]
    exact recent
  · intro observation last
    rw [List.getLast?_concat] at last
    cases last
    rw [sameGood]
    exact limited.desired

/-- A call that reads starts a new interval and remembers what it read, if it
succeeded. -/
theorem due (limited : RateLimited pollIntervalS session) (positive : 0 < pollIntervalS)
    (late : ¬ tick.nowS - session.policy.lastPollS < session.policy.pollIntervalS)
    (read : Except Raised ℤ) :
    let target := read.toOption.getD session.policy.desiredReplicas
    RateLimited pollIntervalS {
      policy := { session.policy with lastPollS := tick.nowS, desiredReplicas := target }
      history := session.history ++ [⟨tick.nowS, some read, target⟩] } := by
  intro target
  have apart : lastAttempt session.history + pollIntervalS ≤ tick.nowS := by
    rw [limited.lastPoll, limited.interval] at late
    linarith
  have good : target = lastGood (session.history ++ [⟨tick.nowS, some read, target⟩]) := by
    rw [lastGood_append_read, ← limited.desired]
  constructor
  · exact limited.interval
  · exact lastAttempt_append_read.symm
  · exact good
  · rw [reads_append_read, List.map_append, List.pairwise_append]
    refine ⟨limited.spaced, List.pairwise_singleton _ _, ?_⟩
    intro earlier member later new
    cases List.mem_singleton.mp new
    exact le_trans (by linarith [limited.before earlier member]) apart
  · intro time member
    rw [lastAttempt_append_read]
    rw [reads_append_read, List.map_append] at member
    rcases List.mem_append.mp member with old | new
    · linarith [limited.before time old]
    · exact (List.mem_singleton.mp new).le
  · intro observation last
    rw [List.getLast?_concat] at last
    cases last
    rw [lastAttempt_append_read, sub_self]
    exact positive
  · intro observation last
    rw [List.getLast?_concat] at last
    cases last
    exact good

theorem step (limited : RateLimited pollIntervalS session) (positive : 0 < pollIntervalS)
    (taken : session.step library tick = some next) :
    RateLimited pollIntervalS next := by
  rw [Session.step] at taken
  by_cases recent : tick.nowS - session.policy.lastPollS < session.policy.pollIntervalS
  · rw [ExternalTargetPolicy.call_of_recent recent] at taken
    cases taken
    exact limited.unread recent
  · rw [ExternalTargetPolicy.call_of_due recent] at taken
    cases taken
    exact limited.due positive recent _

end RateLimited

theorem rateLimited_of_reachable (positive : 0 < pollIntervalS)
    (reachable : (sessions library filePath pollIntervalS).Reachable session) :
    RateLimited pollIntervalS session := by
  apply reachable.invariant
  · intro start initial
    exact initial ▸ rateLimited_init filePath pollIntervalS
  · intro before tick after _ limited taken
    exact limited.step positive taken

/-- After every sequence of calls: the next call does not raise, the reads are an
interval apart, the last call came within an interval after the last attempt, and its
target is the integer from the most recent successful read. -/
theorem limitsAndHolds (positive : 0 < pollIntervalS)
    (reachable : (sessions library filePath pollIntervalS).Reachable session) :
    (∀ tick, ∃ outcome, session.policy.call library tick = .ok outcome) ∧
    ((reads session.history).map Prod.fst).Pairwise
      (fun earlier later => earlier + pollIntervalS ≤ later) ∧
    ∀ observation, session.history.getLast? = some observation →
      observation.nowS - lastAttempt session.history < pollIntervalS ∧
      observation.target = lastGood session.history := by
  have limited := rateLimited_of_reachable positive reachable
  refine ⟨session.policy.exists_call library, limited.spaced, ?_⟩
  intro observation last
  exact ⟨limited.fresh observation last, limited.held observation last⟩

/-! ## A run -/

inductive ReadError where
  | fileNotFoundError
  | jsonDecodeError
  | keyError
  | typeError
  deriving DecidableEq

/-- The library on files whose replica count is a whole number. -/
def wholeNumberLibrary : Library ReadError Json.Value where
  loads text :=
    match Json.loads text.toList with
    | some document => .ok document
    | none => .error .jsonDecodeError
  getItem document key :=
    match document.get key with
    | some value => .ok value
    | none => .error .keyError
  int
    | .number number =>
        .ok (number.literal.foldl (fun value digit => 10 * value + (digit.toNat - 48)) 0)
    | _ => .error .typeError

end

/-- The text of a file that holds a replica count. -/
def targetFile (replicas : Json.Number) : String :=
  .ofList (Json.Value.dumps (.object [("replicas", .number replicas)]))

/-- The file is missing at 6 s and holds a target at 11 s; the calls at 8 s and 4 s
do not read it. -/
theorem limitsAndHolds_missingThenWritten :
    ∃ session, (sessions wholeNumberLibrary "target.json" 5).Reachable session ∧
      (reads session.history).map Prod.fst = [6, 11] ∧
      ∀ observation, session.history.getLast? = some observation →
        observation.target = 4 := by
  have executed : (System.execute (Session.step wholeNumberLibrary)
      (Session.init "target.json" 5)
      [⟨none, .error .fileNotFoundError⟩, ⟨some 6, .error .fileNotFoundError⟩,
        ⟨some 8, .ok (targetFile ⟨['9'], by decide⟩)⟩, ⟨some 4, .ok "[]"⟩,
        ⟨some 11, .ok (targetFile ⟨['4'], by decide⟩)⟩, ⟨some 12, .ok "x"⟩]).map
          (fun session => ((reads session.history).map Prod.fst,
            lastGood session.history)) =
      some ([6, 11], 4) := by
    decide +kernel
  rcases Option.map_eq_some_iff.mp executed with ⟨session, run, seen⟩
  have reachable := System.reachable_of_execute _ run
  rcases Prod.mk.inj seen with ⟨times, good⟩
  refine ⟨session, reachable, times, ?_⟩
  intro observation last
  have held := (limitsAndHolds (by decide +kernel) reachable).2.2 observation last
  exact held.2.trans good

end DistributedInference.CustomAutoscaling.ExternalTarget
