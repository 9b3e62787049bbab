import DistributedInference.Transition.System
import Mathlib.Data.List.Basic

/-!
# Task queues with a result store

Jobs are accepted under tickets and put into a broker; workers take them, run a handler
on them and report what has become of them.  A message stays with the broker until its
task has been reported: it is delivered again when its worker is lost, and may be
delivered again before that.  So one job can be run any number of times, by several
workers at once.

A job that was withdrawn may be discarded instead of being run.  A job whose handler
raises is put back a number of times and then into a queue for failed ones.  The store
keeps the first success of a ticket against every later report.

The handler is a function of the job and of what it reads from its surroundings, such as
a clock.  The step function of the queue is a parameter.  `Laws` says what a step may do,
`Delivers` what it can do; the two are independent, since a broker that keeps its messages
from the workers breaks no law.
-/

namespace DistributedInference.Delivery

open Transition

universe u v w x y

/-- What the store says about a ticket; nothing is known about one that is pending. -/
inductive TaskStatus (Result : Type w) where
  | pending
  | started
  | retry
  | success (result : Result)
  | failure
  | revoked
  deriving DecidableEq

namespace TaskStatus

variable {Result : Type w}

/-- The terminal states. -/
def Done : TaskStatus Result → Prop
  | .success _ | .failure | .revoked => True
  | .pending | .started | .retry => False

def isSuccess : TaskStatus Result → Bool
  | .success _ => true
  | _ => false

theorem isSuccess_iff {status : TaskStatus Result} :
    status.isSuccess = true ↔ ∃ result, status = .success result := by
  cases status <;> simp [isSuccess]

end TaskStatus

/-- A task queue: the accepted jobs by ticket, the messages in the broker, the running
executions, and the store. -/
structure TaskQueue (Ticket : Type u) (Job : Type v) (Result : Type w) where
  job : Ticket → Option Job
  waiting : List Ticket
  running : List Ticket
  withdrawn : List Ticket
  status : Ticket → TaskStatus Result
  retries : Ticket → Nat
  /-- The queue for failed tasks. -/
  dead : List Ticket

/-- The events of a task queue. -/
inductive TaskEvent (Ticket : Type u) (Job : Type v) (Reading : Type x) where
  | enqueue (ticket : Ticket) (job : Job)
  | withdraw (ticket : Ticket)
  /-- A worker receives a message and runs it; that it has started may be reported. -/
  | take (ticket : Ticket) (tracked : Bool)
  | discard (ticket : Ticket)
  /-- The handler ends. -/
  | finish (ticket : Ticket) (reading : Reading)
  /-- A worker is lost in the middle of a task. -/
  | lose (ticket : Ticket)
  | redeliver (ticket : Ticket)

def TaskEvent.ticket {Ticket : Type u} {Job : Type v} {Reading : Type x} :
    TaskEvent Ticket Job Reading → Ticket
  | .enqueue ticket _ | .withdraw ticket | .take ticket _ | .discard ticket
  | .finish ticket _ | .lose ticket | .redeliver ticket => ticket

/-- The events of the broker and the workers. -/
def TaskEvent.isWork {Ticket : Type u} {Job : Type v} {Reading : Type x} :
    TaskEvent Ticket Job Reading → Bool
  | .enqueue _ _ | .withdraw _ => false
  | _ => true

namespace TaskQueue

variable {Ticket : Type u} {Job : Type v} {Result : Type w} {Reading : Type x}
variable {Error : Type y}

def empty : TaskQueue Ticket Job Result where
  job _ := none
  waiting := []
  running := []
  withdrawn := []
  status _ := .pending
  retries _ := 0
  dead := []

section Steps

variable [DecidableEq Ticket]

/-- A job has been accepted. -/
def accepted (queue : TaskQueue Ticket Job Result) (ticket : Ticket) (job : Job) :
    TaskQueue Ticket Job Result :=
  { queue with
    job := Function.update queue.job ticket (some job)
    waiting := ticket :: queue.waiting }

omit [DecidableEq Ticket] in
def withdraw (queue : TaskQueue Ticket Job Result) (ticket : Ticket) :
    TaskQueue Ticket Job Result :=
  { queue with withdrawn := ticket :: queue.withdrawn }

/-- The store after a report.  A success is final. -/
def report (statuses : Ticket → TaskStatus Result) (ticket : Ticket)
    (status : TaskStatus Result) : Ticket → TaskStatus Result :=
  if (statuses ticket).isSuccess then statuses
  else Function.update statuses ticket status

/-- A worker has received a message. -/
def received (queue : TaskQueue Ticket Job Result) (ticket : Ticket) (tracked : Bool) :
    TaskQueue Ticket Job Result :=
  { queue with
    waiting := queue.waiting.erase ticket
    running := ticket :: queue.running
    status := if tracked then report queue.status ticket .started else queue.status }

/-- A worker has received a message and thrown it away. -/
def discarded (queue : TaskQueue Ticket Job Result) (ticket : Ticket) :
    TaskQueue Ticket Job Result :=
  { queue with
    waiting := queue.waiting.erase ticket
    status := report queue.status ticket .revoked }

/-- A task whose handler has raised. -/
def raised (maxRetries : Nat) (queue : TaskQueue Ticket Job Result) (ticket : Ticket) :
    TaskQueue Ticket Job Result :=
  if queue.retries ticket < maxRetries then
    { queue with
      running := queue.running.erase ticket
      waiting := ticket :: queue.waiting
      status := report queue.status ticket .retry
      retries := Function.update queue.retries ticket (queue.retries ticket + 1) }
  else
    { queue with
      running := queue.running.erase ticket
      status := report queue.status ticket .failure
      dead := ticket :: queue.dead }

/-- A task whose handler has returned. -/
def returned (queue : TaskQueue Ticket Job Result) (ticket : Ticket) (result : Result) :
    TaskQueue Ticket Job Result :=
  { queue with
    running := queue.running.erase ticket
    status := report queue.status ticket (.success result) }

/-- A task whose handler has come to its end. -/
def ended (maxRetries : Nat) (queue : TaskQueue Ticket Job Result) (ticket : Ticket) :
    Except Error Result → TaskQueue Ticket Job Result
  | .error _ => queue.raised maxRetries ticket
  | .ok result => queue.returned ticket result

/-- The message of a lost worker is back in the broker. -/
def requeued (queue : TaskQueue Ticket Job Result) (ticket : Ticket) :
    TaskQueue Ticket Job Result :=
  { queue with
    running := queue.running.erase ticket
    waiting := ticket :: queue.waiting }

omit [DecidableEq Ticket] in
/-- A message that a worker holds is in the broker once more. -/
def redelivered (queue : TaskQueue Ticket Job Result) (ticket : Ticket) :
    TaskQueue Ticket Job Result :=
  { queue with waiting := ticket :: queue.waiting }

end Steps

/-- A step function of a task queue; `none` when the event cannot happen. -/
abbrev Stepper (Ticket : Type u) (Job : Type v) (Result : Type w) (Reading : Type x) :=
  TaskQueue Ticket Job Result → TaskEvent Ticket Job Reading →
    Option (TaskQueue Ticket Job Result)

/-- The queue with its workers. -/
def system (step : Stepper Ticket Job Result Reading) :
    System (TaskQueue Ticket Job Result) (TaskEvent Ticket Job Reading) :=
  .ofFunction empty step

/-! ## The laws -/

section Laws

variable [DecidableEq Ticket]

/-- What a broker, its workers and its result store may do.  The reports go through
`report`, so that a success is final. -/
structure Laws (handle : Job → Reading → Except Error Result) (maxRetries : Nat)
    (step : Stepper Ticket Job Result Reading) : Prop where
  /-- The ids of tasks are new, and the message of an accepted job is in the broker. -/
  new_ids : ∀ {queue next ticket job}, step queue (.enqueue ticket job) = some next →
    queue.job ticket = none ∧ next = queue.accepted ticket job
  /-- The workers hear of a withdrawal; the message stays where it is. -/
  withdrawal_marks : ∀ {queue next ticket}, step queue (.withdraw ticket) = some next →
    next = queue.withdraw ticket
  /-- Workers receive what is in the broker.  Reporting that a task has started is left
  to them. -/
  takes_waiting : ∀ {queue next ticket tracked},
    step queue (.take ticket tracked) = some next →
      ticket ∈ queue.waiting ∧ next = queue.received ticket tracked
  /-- Only the message of a withdrawn job is thrown away. -/
  discards_withdrawn : ∀ {queue next ticket}, step queue (.discard ticket) = some next →
    (ticket ∈ queue.waiting ∧ ticket ∈ queue.withdrawn) ∧ next = queue.discarded ticket
  /-- What a worker reports is how the handler has ended on the job of the ticket. -/
  reports_handler : ∀ {queue next ticket reading},
    step queue (.finish ticket reading) = some next →
      ticket ∈ queue.running ∧ ∃ job, queue.job ticket = some job ∧
        next = queue.ended maxRetries ticket (handle job reading)
  /-- Messages are acknowledged late: the one of a lost worker goes back. -/
  requeues_lost : ∀ {queue next ticket}, step queue (.lose ticket) = some next →
    ticket ∈ queue.running ∧ next = queue.requeued ticket
  redelivers_running : ∀ {queue next ticket}, step queue (.redeliver ticket) = some next →
    ticket ∈ queue.running ∧ next = queue.redelivered ticket

omit [DecidableEq Ticket] in
/-- No message reaches a worker. -/
structure Undelivered (step : Stepper Ticket Job Result Reading) : Prop where
  take : ∀ queue ticket tracked, step queue (.take ticket tracked) = none
  discard : ∀ queue ticket, step queue (.discard ticket) = none

/-- The queue that does whatever the laws allow, except that its messages reach the
workers only if it is connected to them. -/
def lawful (connected : Bool) (handle : Job → Reading → Except Error Result)
    (maxRetries : Nat) : Stepper Ticket Job Result Reading
  | queue, .enqueue ticket job =>
      if queue.job ticket = none then some (queue.accepted ticket job) else none
  | queue, .withdraw ticket => some (queue.withdraw ticket)
  | queue, .take ticket tracked =>
      if connected = true ∧ ticket ∈ queue.waiting then
        some (queue.received ticket tracked)
      else none
  | queue, .discard ticket =>
      if connected = true ∧ ticket ∈ queue.waiting ∧ ticket ∈ queue.withdrawn then
        some (queue.discarded ticket)
      else none
  | queue, .finish ticket reading =>
      if ticket ∈ queue.running then
        (queue.job ticket).map fun job =>
          queue.ended maxRetries ticket (handle job reading)
      else none
  | queue, .lose ticket =>
      if ticket ∈ queue.running then some (queue.requeued ticket) else none
  | queue, .redeliver ticket =>
      if ticket ∈ queue.running then some (queue.redelivered ticket) else none

variable {handle : Job → Reading → Except Error Result} {maxRetries : Nat}
variable {connected : Bool}

theorem undelivered_lawful :
    Undelivered (lawful false handle maxRetries : Stepper Ticket Job Result Reading) where
  take queue ticket tracked := by simp [lawful]
  discard queue ticket := by simp [lawful]

end Laws

/-! ## What a step leaves alone -/

section Frame

variable [DecidableEq Ticket] {handle : Job → Reading → Except Error Result}
variable {maxRetries : Nat} {queue next : TaskQueue Ticket Job Result}
variable {event : TaskEvent Ticket Job Reading}
variable {step : Stepper Ticket Job Result Reading}

/-- A step leaves everything about the other tickets alone. -/
structure SameAt (queue next : TaskQueue Ticket Job Result) (ticket : Ticket) : Prop where
  job : next.job ticket = queue.job ticket
  waiting : ticket ∈ next.waiting ↔ ticket ∈ queue.waiting
  running : ticket ∈ next.running ↔ ticket ∈ queue.running
  withdrawn : ticket ∈ next.withdrawn ↔ ticket ∈ queue.withdrawn
  status : next.status ticket = queue.status ticket
  retries : next.retries ticket = queue.retries ticket
  dead : ticket ∈ next.dead ↔ ticket ∈ queue.dead

theorem report_of_ne {statuses : Ticket → TaskStatus Result} {ticket other : Ticket}
    {status : TaskStatus Result} (differ : other ≠ ticket) :
    report statuses ticket status other = statuses other := by
  unfold report
  split
  · rfl
  · exact Function.update_of_ne differ _ _

/-- A report is taken over unless there is a success already. -/
theorem report_self {statuses : Ticket → TaskStatus Result} {ticket : Ticket}
    {status : TaskStatus Result} :
    report statuses ticket status ticket = status ∨
      ∃ result, statuses ticket = .success result ∧
        report statuses ticket status ticket = .success result := by
  unfold report
  split
  next success =>
    rcases TaskStatus.isSuccess_iff.mp success with ⟨result, known⟩
    exact .inr ⟨result, known, known⟩
  next => exact .inl (Function.update_self _ _ _)

theorem report_of_success {statuses : Ticket → TaskStatus Result} {ticket other : Ticket}
    {status : TaskStatus Result} {result : Result}
    (known : statuses other = .success result) :
    report statuses ticket status other = .success result := by
  by_cases same : other = ticket
  · subst same
    rw [report, if_pos (TaskStatus.isSuccess_iff.mpr ⟨result, known⟩), known]
  · rw [report_of_ne same, known]

theorem Laws.sameAt (laws : Laws handle maxRetries step)
    (taken : step queue event = some next) {other : Ticket}
    (differ : other ≠ event.ticket) : SameAt queue next other := by
  have added (tickets : List Ticket) :
      other ∈ event.ticket :: tickets ↔ other ∈ tickets :=
    List.mem_cons.trans (or_iff_right differ)
  have removed (tickets : List Ticket) :
      other ∈ tickets.erase event.ticket ↔ other ∈ tickets :=
    List.mem_erase_of_ne differ
  cases event with
  | enqueue ticket job =>
      rcases laws.new_ids taken with ⟨_, rfl⟩
      exact ⟨Function.update_of_ne differ _ _, added _, .rfl, .rfl, rfl, rfl, .rfl⟩
  | withdraw ticket =>
      cases laws.withdrawal_marks taken
      exact ⟨rfl, .rfl, .rfl, added _, rfl, rfl, .rfl⟩
  | take ticket tracked =>
      rcases laws.takes_waiting taken with ⟨_, rfl⟩
      refine ⟨rfl, removed _, added _, .rfl, ?_, rfl, .rfl⟩
      cases tracked with
      | false => rfl
      | true => exact report_of_ne differ
  | discard ticket =>
      rcases laws.discards_withdrawn taken with ⟨_, rfl⟩
      exact ⟨rfl, removed _, .rfl, .rfl, report_of_ne differ, rfl, .rfl⟩
  | finish ticket reading =>
      rcases laws.reports_handler taken with ⟨_, job, _, rfl⟩
      cases handle job reading with
      | error error =>
          rw [ended, raised]
          split
          · exact ⟨rfl, added _, removed _, .rfl, report_of_ne differ,
              Function.update_of_ne differ _ _, .rfl⟩
          · exact ⟨rfl, .rfl, removed _, .rfl, report_of_ne differ, rfl, added _⟩
      | ok result => exact ⟨rfl, .rfl, removed _, .rfl, report_of_ne differ, rfl, .rfl⟩
  | lose ticket =>
      rcases laws.requeues_lost taken with ⟨_, rfl⟩
      exact ⟨rfl, added _, removed _, .rfl, rfl, rfl, .rfl⟩
  | redeliver ticket =>
      rcases laws.redelivers_running taken with ⟨_, rfl⟩
      exact ⟨rfl, added _, .rfl, .rfl, rfl, rfl, .rfl⟩

end Frame

/-! ## What holds of every ticket -/

section Sound

/-- The handler raises on a job, in some surroundings. -/
def Raises (handle : Job → Reading → Except Error Result) (job : Job) : Prop :=
  ∃ reading error, handle job reading = .error error

/-- What has to have happened for a status to be reported. -/
def Explains (handle : Job → Reading → Except Error Result) (job : Option Job)
    (withdrawn : Prop) : TaskStatus Result → Prop
  | .pending | .started => True
  | .retry | .failure => ∃ accepted, job = some accepted ∧ Raises handle accepted
  | .success result => ∃ accepted, job = some accepted ∧
      ∃ reading, handle accepted reading = .ok result
  | .revoked => withdrawn

/-- What a task queue promises about a ticket. -/
structure SoundAt (handle : Job → Reading → Except Error Result) (maxRetries : Nat)
    (queue : TaskQueue Ticket Job Result) (ticket : Ticket) : Prop where
  /-- Only what was accepted is delivered. -/
  known : ticket ∈ queue.waiting ∨ ticket ∈ queue.running → queue.job ticket ≠ none
  untouched : queue.job ticket = none → queue.status ticket = .pending
  /-- A result is one of the own job, and only a withdrawn job is revoked. -/
  explained : Explains handle (queue.job ticket) (ticket ∈ queue.withdrawn)
    (queue.status ticket)
  /-- Nothing that was accepted is lost. -/
  kept : queue.job ticket ≠ none →
    ticket ∈ queue.waiting ∨ ticket ∈ queue.running ∨ (queue.status ticket).Done
  failed : ticket ∈ queue.dead → ∃ job, queue.job ticket = some job ∧ Raises handle job
  retries : queue.retries ticket ≤ maxRetries

variable {handle : Job → Reading → Except Error Result} {maxRetries : Nat}
variable {queue next start finish : TaskQueue Ticket Job Result}
variable {event : TaskEvent Ticket Job Reading} {ticket : Ticket}
variable {step : Stepper Ticket Job Result Reading}

theorem soundAt_empty : SoundAt handle maxRetries empty ticket where
  known := by simp [empty]
  untouched _ := rfl
  explained := trivial
  kept := by simp [empty]
  failed := by simp [empty]
  retries := Nat.zero_le _

variable [DecidableEq Ticket]

theorem explains_report {statuses : Ticket → TaskStatus Result}
    {status : TaskStatus Result} {job : Option Job} {withdrawn : Prop}
    (before : Explains handle job withdrawn (statuses ticket))
    (reported : Explains handle job withdrawn status) :
    Explains handle job withdrawn (report statuses ticket status ticket) := by
  rcases @report_self _ _ _ statuses ticket status with taken | ⟨result, known, kept⟩
  · rw [taken]
    exact reported
  · rw [kept, ← known]
    exact before

theorem done_report {statuses : Ticket → TaskStatus Result} {status : TaskStatus Result}
    (done : status.Done) : (report statuses ticket status ticket).Done := by
  rcases @report_self _ _ _ statuses ticket status with taken | ⟨result, _, kept⟩
  · rw [taken]
    exact done
  · rw [kept]
    trivial

namespace SoundAt

omit [DecidableEq Ticket] in
theorem of_same (sound : SoundAt handle maxRetries queue ticket)
    (same : SameAt queue next ticket) : SoundAt handle maxRetries next ticket where
  known := by
    rw [same.waiting, same.running, same.job]
    exact sound.known
  untouched := by
    rw [same.job, same.status]
    exact sound.untouched
  explained := by
    rw [same.job, same.status, propext same.withdrawn]
    exact sound.explained
  kept := by
    rw [same.job, same.waiting, same.running, same.status]
    exact sound.kept
  failed := by
    rw [same.dead, same.job]
    exact sound.failed
  retries := same.retries ▸ sound.retries

/-- The handler of the ticket raises: it waits again, or has failed for good. -/
theorem raised {job : Job} (sound : SoundAt handle maxRetries queue ticket)
    (accepted : queue.job ticket = some job) (raises : Raises handle job) :
    SoundAt handle maxRetries (queue.raised maxRetries ticket) ticket := by
  have some : queue.job ticket ≠ none := by simp [accepted]
  have explains : ∃ accepted, queue.job ticket = .some accepted ∧ Raises handle accepted :=
    ⟨job, accepted, raises⟩
  unfold TaskQueue.raised
  split
  next again =>
    exact {
      known := fun _ => some
      untouched := fun none => absurd none some
      explained := explains_report sound.explained explains
      kept := fun _ => .inl List.mem_cons_self
      failed := sound.failed
      retries := (Function.update_self ticket _ queue.retries).trans_le again }
  next exhausted =>
    exact {
      known := fun _ => some
      untouched := fun none => absurd none some
      explained := explains_report sound.explained explains
      kept := fun _ => .inr (.inr (done_report trivial))
      failed := fun _ => explains
      retries := sound.retries }

omit [DecidableEq Ticket] in
/-- The message of a running task is in the broker again. -/
theorem waitsAgain (sound : SoundAt handle maxRetries queue ticket)
    (runs : ticket ∈ queue.running) (running : List Ticket) :
    SoundAt handle maxRetries
      { queue with running := running, waiting := ticket :: queue.waiting } ticket where
  known _ := sound.known (.inr runs)
  untouched := sound.untouched
  explained := sound.explained
  kept _ := .inl List.mem_cons_self
  failed := sound.failed
  retries := sound.retries

theorem step_self (laws : Laws handle maxRetries step)
    (sound : SoundAt handle maxRetries queue event.ticket)
    (taken : step queue event = some next) :
    SoundAt handle maxRetries next event.ticket := by
  cases event with
  | enqueue ticket job =>
      rcases laws.new_ids taken with ⟨fresh, rfl⟩
      have pending : queue.status ticket = .pending := sound.untouched fresh
      have accepted : Function.update queue.job ticket (some job) ticket = some job :=
        Function.update_self _ _ _
      exact {
        known := fun _ none => nomatch accepted.symm.trans none
        untouched := fun _ => pending
        explained := by
          change Explains _ _ _ (queue.status ticket)
          rw [pending]
          trivial
        kept := fun _ => .inl List.mem_cons_self
        failed := fun dead => by
          rcases sound.failed dead with ⟨other, known, _⟩
          cases fresh.symm.trans known
        retries := sound.retries }
  | withdraw ticket =>
      cases laws.withdrawal_marks taken
      exact {
        sound with
        explained := by
          have before := sound.explained
          change Explains _ _ _ (queue.status _)
          cases status : queue.status _ <;> rw [status] at before <;>
            first
              | exact before
              | exact List.mem_cons_self }
  | take ticket tracked =>
      rcases laws.takes_waiting taken with ⟨waits, rfl⟩
      have some : queue.job ticket ≠ none := sound.known (.inl waits)
      exact {
        known := fun _ => some
        untouched := fun none => absurd none some
        explained := by
          cases tracked with
          | false => exact sound.explained
          | true => exact explains_report sound.explained trivial
        kept := fun _ => .inr (.inl List.mem_cons_self)
        failed := sound.failed
        retries := sound.retries }
  | discard ticket =>
      rcases laws.discards_withdrawn taken with ⟨⟨waits, withdrawn⟩, rfl⟩
      have some : queue.job ticket ≠ none := sound.known (.inl waits)
      exact {
        known := fun _ => some
        untouched := fun none => absurd none some
        explained := explains_report sound.explained withdrawn
        kept := fun _ => .inr (.inr (done_report trivial))
        failed := sound.failed
        retries := sound.retries }
  | finish ticket reading =>
      rcases laws.reports_handler taken with ⟨_, job, accepted, rfl⟩
      cases handled : handle job reading with
      | error error => exact sound.raised accepted ⟨_, _, handled⟩
      | ok result =>
          have some : queue.job ticket ≠ none := by simp [accepted]
          exact {
            known := fun _ => some
            untouched := fun none => absurd none some
            explained := explains_report sound.explained ⟨job, accepted, reading, handled⟩
            kept := fun _ => .inr (.inr (done_report trivial))
            failed := sound.failed
            retries := sound.retries }
  | lose ticket =>
      rcases laws.requeues_lost taken with ⟨runs, rfl⟩
      exact sound.waitsAgain runs _
  | redeliver ticket =>
      rcases laws.redelivers_running taken with ⟨runs, rfl⟩
      exact sound.waitsAgain runs _

end SoundAt

theorem soundAt_of_reachable (laws : Laws handle maxRetries step)
    (reachable : (system step).Reachable queue) (ticket : Ticket) :
    SoundAt handle maxRetries queue ticket := by
  revert ticket
  apply reachable.invariant fun queue => ∀ ticket, SoundAt handle maxRetries queue ticket
  · rintro start rfl ticket
    exact soundAt_empty
  · intro queue event next _ sound taken ticket
    by_cases own : ticket = event.ticket
    · exact own ▸ (sound event.ticket).step_self laws taken
    · exact (sound ticket).of_same (laws.sameAt taken own)

end Sound

/-! ## What only grows -/

section Growth

variable [DecidableEq Ticket] {handle : Job → Reading → Except Error Result}
variable {maxRetries : Nat} {queue next start finish : TaskQueue Ticket Job Result}
variable {event : TaskEvent Ticket Job Reading}
variable {events : List (TaskEvent Ticket Job Reading)}
variable {step : Stepper Ticket Job Result Reading}

/-- What a later state of the queue still says. -/
structure Extends (before after : TaskQueue Ticket Job Result) : Prop where
  job : ∀ ticket job, before.job ticket = some job → after.job ticket = some job
  withdrawn : ∀ ticket, ticket ∈ before.withdrawn → ticket ∈ after.withdrawn
  success : ∀ ticket result, before.status ticket = .success result →
    after.status ticket = .success result

omit [DecidableEq Ticket] in
theorem Extends.refl (queue : TaskQueue Ticket Job Result) : Extends queue queue :=
  ⟨fun _ _ => id, fun _ => id, fun _ _ => id⟩

omit [DecidableEq Ticket] in
theorem Extends.trans {before middle after : TaskQueue Ticket Job Result}
    (first : Extends before middle) (second : Extends middle after) :
    Extends before after where
  job ticket job known := second.job ticket job (first.job ticket job known)
  withdrawn ticket known := second.withdrawn ticket (first.withdrawn ticket known)
  success ticket result known :=
    second.success ticket result (first.success ticket result known)

theorem extends_of_step (laws : Laws handle maxRetries step)
    (taken : step queue event = some next) : Extends queue next := by
  cases event with
  | enqueue ticket job =>
      rcases laws.new_ids taken with ⟨fresh, rfl⟩
      refine ⟨fun other known accepted => ?_, fun _ => id, fun _ _ => id⟩
      by_cases same : other = ticket
      · cases fresh.symm.trans (same ▸ accepted)
      · exact (Function.update_of_ne same _ _).trans accepted
  | withdraw ticket =>
      cases laws.withdrawal_marks taken
      exact ⟨fun _ _ => id, fun _ => List.mem_cons_of_mem _, fun _ _ => id⟩
  | take ticket tracked =>
      rcases laws.takes_waiting taken with ⟨_, rfl⟩
      refine ⟨fun _ _ => id, fun _ => id, fun other result known => ?_⟩
      cases tracked with
      | false => exact known
      | true => exact report_of_success known
  | discard ticket =>
      rcases laws.discards_withdrawn taken with ⟨_, rfl⟩
      exact ⟨fun _ _ => id, fun _ => id, fun _ _ => report_of_success⟩
  | finish ticket reading =>
      rcases laws.reports_handler taken with ⟨_, job, _, rfl⟩
      cases handle job reading with
      | error error =>
          rw [ended, raised]
          split <;> exact ⟨fun _ _ => id, fun _ => id, fun _ _ => report_of_success⟩
      | ok result => exact ⟨fun _ _ => id, fun _ => id, fun _ _ => report_of_success⟩
  | lose ticket =>
      rcases laws.requeues_lost taken with ⟨_, rfl⟩
      exact ⟨fun _ _ => id, fun _ => id, fun _ _ => id⟩
  | redeliver ticket =>
      rcases laws.redelivers_running taken with ⟨_, rfl⟩
      exact ⟨fun _ _ => id, fun _ => id, fun _ _ => id⟩

theorem extends_of_run (laws : Laws handle maxRetries step)
    (run : (system step).Run start events finish) : Extends start finish :=
  run.preserves (Extends start)
    (fun before taken => before.trans (extends_of_step laws taken)) (.refl start)

end Growth

/-! ## Running to the end -/

section Progress

variable [DecidableEq Ticket] {handle : Job → Reading → Except Error Result}
variable {maxRetries : Nat} {queue : TaskQueue Ticket Job Result}
variable {step : Stepper Ticket Job Result Reading}

/-- The broker and the workers leave the rest of the queue alone. -/
structure Works (before after : TaskQueue Ticket Job Result) : Prop where
  job : after.job = before.job
  withdrawn : after.withdrawn = before.withdrawn

/-- If no message reaches a worker, nothing is ever reported. -/
theorem pending_of_undelivered (laws : Laws handle maxRetries step)
    (undelivered : Undelivered step) (reachable : (system step).Reachable queue)
    (ticket : Ticket) : queue.status ticket = .pending := by
  suffices idle : queue.running = [] ∧ queue.status = fun _ => .pending from
    congrFun idle.2 ticket
  apply reachable.invariant fun queue => queue.running = [] ∧ queue.status = fun _ => .pending
  · rintro start rfl
    exact ⟨rfl, rfl⟩
  · intro queue event next _ idle taken
    have nobody {ticket : Ticket} (runs : ticket ∈ queue.running) : False := by
      simp [idle.1] at runs
    cases event with
    | enqueue ticket job =>
        rcases laws.new_ids taken with ⟨_, rfl⟩
        exact idle
    | withdraw ticket =>
        cases laws.withdrawal_marks taken
        exact idle
    | take ticket tracked => cases (undelivered.take _ _ _).symm.trans taken
    | discard ticket => cases (undelivered.discard _ _).symm.trans taken
    | finish ticket reading => exact (nobody (laws.reports_handler taken).1).elim
    | lose ticket => exact (nobody (laws.requeues_lost taken).1).elim
    | redeliver ticket => exact (nobody (laws.redelivers_running taken).1).elim

end Progress

end TaskQueue

end DistributedInference.Delivery
