import DistributedInference.StreamProcessing.Duplicates
import DistributedInference.StreamProcessing.Wiring

/-!
# No message is stuck

Safety says where a message is; it does not say that the message can still move.
Until the shutdown event is set, what a message needs is a body that the generator can
answer, and either a task that already holds it or a poll loop that can still fetch
it.  The message that has this can be processed from every reachable state, by a run
that processes all such messages; the message that lacks it is never deleted.

A task is run to its end first, then the loop is brought to its next batch, and the
run for a list of messages is composed of these.
-/

namespace DistributedInference.StreamProcessing

open Transition

variable {Pixels : Type} {pipes : Set (String → Nat → Nat → List Pixels)}
variable {state next start middle finish : State Pixels}
variable {action : Action Pixels} {actions : List (Action Pixels)}

/-- What a run that only processes messages keeps: nothing is sent and nobody asks for
a shutdown, the loop stays alive, and a message leaves the table by its deletion. -/
structure Continues (start finish : State Pixels) : Prop where
  sent : finish.sent = start.sent
  shutdownEvent : finish.shutdownEvent = start.shutdownEvent
  drain : finish.drain = start.drain
  alive : ¬start.poll.Dead → ¬finish.poll.Dead
  deleted : ∀ messageId ∈ start.deleted, messageId ∈ finish.deleted
  table : ∀ messageId ∈ start.inFlight.table,
    messageId ∈ finish.inFlight.table ∨ messageId ∈ finish.deleted

theorem Continues.refl (state : State Pixels) : Continues state state where
  sent := rfl
  shutdownEvent := rfl
  drain := rfl
  alive := id
  deleted _ := id
  table _ := Or.inl

theorem Continues.trans (first : Continues start middle)
    (second : Continues middle finish) : Continues start finish where
  sent := second.sent.trans first.sent
  shutdownEvent := second.shutdownEvent.trans first.shutdownEvent
  drain := second.drain.trans first.drain
  alive alive := second.alive (first.alive alive)
  deleted messageId gone := second.deleted messageId (first.deleted messageId gone)
  table messageId present := by
    rcases first.table messageId present with still | gone
    · exact second.table messageId still
    · exact Or.inr (second.deleted messageId gone)

/-! ## A task runs to its end -/

/-- A run that finishes one task as processed: its message is deleted and leaves the
table, and nothing else does. -/
structure Processes (pipes : Set (String → Nat → Nat → List Pixels))
    (messageId : String) (start finish : State Pixels) : Prop where
  run : ∃ actions, (wired pipes).Run start actions finish
  sent : finish.sent = start.sent
  shutdownEvent : finish.shutdownEvent = start.shutdownEvent
  drain : finish.drain = start.drain
  poll : finish.poll = start.poll
  deleted : finish.deleted = messageId :: start.deleted
  table : finish.inFlight.table = start.inFlight.table.erase messageId

theorem Processes.continues {messageId : String}
    (processes : Processes pipes messageId start finish) : Continues start finish where
  sent := processes.sent
  shutdownEvent := processes.shutdownEvent
  drain := processes.drain
  alive := by simp [processes.poll]
  deleted other gone := by
    rw [processes.deleted]
    exact List.mem_cons_of_mem _ gone
  table other present := by
    rw [processes.deleted, processes.table, AList.mem_erase, List.mem_cons]
    by_cases same : other = messageId
    · exact Or.inr (Or.inl same)
    · exact Or.inl ⟨same, present⟩

/-- A step in front that touches the task and its files only. -/
theorem Processes.after {messageId : String} (taken : start.step action = some middle)
    (permitted : Permitted pipes start action)
    (processes : Processes pipes messageId middle finish)
    (sent : middle.sent = start.sent)
    (shutdownEvent : middle.shutdownEvent = start.shutdownEvent)
    (drain : middle.drain = start.drain) (poll : middle.poll = start.poll)
    (deleted : middle.deleted = start.deleted)
    (table : middle.inFlight.table = start.inFlight.table) :
    Processes pipes messageId start finish where
  run := by
    rcases processes.run with ⟨actions, run⟩
    exact ⟨action :: actions, .cons ⟨permitted, taken⟩ run⟩
  sent := processes.sent.trans sent
  shutdownEvent := processes.shutdownEvent.trans shutdownEvent
  drain := processes.drain.trans drain
  poll := processes.poll.trans poll
  deleted := by rw [processes.deleted, deleted]
  table := by rw [processes.table, table]

section Task

variable {index : Nat} {response : String} {message : Message} {image : Image Pixels}

variable (pipes) in
/-- After its put, a task deletes its message. -/
theorem processes_of_landed (coherent : Coherent state)
    (suspended : state.inFlight.jobs[index]? =
      some ⟨response, message, .uploading image true⟩) :
    ∃ finish, Processes pipes message.messageId state finish := by
  have taken : state.step (.uploadReturns index .succeeds) =
      some (state.elseClause index ⟨response, message, .uploading image true⟩
        .succeeds) := by
    simp only [State.step, suspended]
  refine ⟨_, ⟨[.uploadReturns index .succeeds], .single ⟨trivial, taken⟩⟩, rfl, rfl,
    rfl, rfl, rfl, ?_⟩
  exact congrArg Registry.table (coherent.consistent.release_eq suspended rfl)

variable (pipes) in
/-- Before it, the put comes first. -/
theorem processes_of_uploading (coherent : Coherent state)
    (suspended : state.inFlight.jobs[index]? =
      some ⟨response, message, .uploading image false⟩) :
    ∃ finish, Processes pipes message.messageId state finish := by
  have taken : state.step (.putLands index) = some { state with
      bucket := uploadToS3 state.bucket image message.messageId
      inFlight := state.inFlight.advance index
        ⟨response, message, .uploading image true⟩ } := by
    simp only [State.step, suspended]
  have bound := (List.getElem?_eq_some_iff.mp suspended).1
  rcases processes_of_landed pipes (coherent.step taken)
    (List.getElem?_set_self bound) with ⟨finish, processes⟩
  exact ⟨finish, .after taken trivial processes rfl rfl rfl rfl rfl rfl⟩

variable (pipes) in
/-- And before the upload, the response. -/
theorem processes_of_awaiting (coherent : Coherent state)
    (answerable : Answerable pipes response)
    (suspended : state.inFlight.jobs[index]? =
      some ⟨response, message, .awaitingResponse⟩) :
    ∃ finish, Processes pipes message.messageId state finish := by
  rcases answerable with ⟨pixels, answers⟩
  have permitted : Permitted pipes state (.responseReturns index pixels) := by
    intro task at_index
    cases suspended.symm.trans at_index
    exact answers
  have taken : state.step (.responseReturns index pixels) = some { state with
      returned := state.returned ++ [⟨response, pixels⟩]
      inFlight := state.inFlight.advance index
        ⟨response, message, .uploading ⟨response, pixels⟩ false⟩ } := by
    simp only [State.step, suspended]
  have bound := (List.getElem?_eq_some_iff.mp suspended).1
  rcases processes_of_uploading pipes (coherent.step taken)
    (List.getElem?_set_self bound) with ⟨finish, processes⟩
  exact ⟨finish, .after taken permitted processes rfl rfl rfl rfl rfl rfl⟩

end Task

variable (pipes) in
/-- A message in flight can be processed when the generator can answer its body. -/
theorem processes_of_mem_table (coherent : Coherent state)
    {message : Message} (sent : message ∈ state.sent)
    (answerable : Answerable pipes message.body)
    (present : message.messageId ∈ state.inFlight.table) :
    ∃ finish, Processes pipes message.messageId state finish := by
  rcases (coherent.consistent.exact.mem_table_iff _).mp present with ⟨task, member, runs⟩
  have backed := coherent.justified.tasks task member
  rcases (Task.running_eq_some_iff task _).mp runs with ⟨named, unfinished⟩
  have own := coherent.eq_of_messageId_eq backed.sent sent named
  rcases List.getElem?_of_mem member with ⟨index, at_index⟩
  cases task with
  | mk response queueMessage phase =>
      cases own
      cases phase with
      | awaitingResponse =>
          have body : response = queueMessage.body := backed.response
          exact processes_of_awaiting pipes coherent (body ▸ answerable) at_index
      | uploading image landed =>
          cases landed with
          | false => exact processes_of_uploading pipes coherent at_index
          | true => exact processes_of_landed pipes coherent at_index
      | finished result => exact absurd rfl (unfinished result)

/-! ## The loop fetches a batch -/

/-- A run of the poll loop alone. -/
structure Fetches (pipes : Set (String → Nat → Nat → List Pixels))
    (start finish : State Pixels) : Prop where
  run : ∃ actions, (wired pipes).Run start actions finish
  sent : finish.sent = start.sent
  shutdownEvent : finish.shutdownEvent = start.shutdownEvent
  drain : finish.drain = start.drain
  deleted : finish.deleted = start.deleted
  table : ∀ messageId ∈ start.inFlight.table, messageId ∈ finish.inFlight.table

theorem Fetches.continues (fetches : Fetches pipes start finish)
    (alive : ¬finish.poll.Dead) : Continues start finish where
  sent := fetches.sent
  shutdownEvent := fetches.shutdownEvent
  drain := fetches.drain
  alive _ := alive
  deleted _ gone := fetches.deleted ▸ gone
  table messageId present := Or.inl (fetches.table messageId present)

theorem Fetches.refl (state : State Pixels) : Fetches pipes state state where
  run := ⟨[], .nil state⟩
  sent := rfl
  shutdownEvent := rfl
  drain := rfl
  deleted := rfl
  table _ := id

theorem Fetches.trans (first : Fetches pipes start middle)
    (second : Fetches pipes middle finish) : Fetches pipes start finish where
  run := by
    rcases first.run with ⟨earlier, before⟩
    rcases second.run with ⟨later, after⟩
    exact ⟨earlier ++ later, before.append after⟩
  sent := second.sent.trans first.sent
  shutdownEvent := second.shutdownEvent.trans first.shutdownEvent
  drain := second.drain.trans first.drain
  deleted := second.deleted.trans first.deleted
  table messageId present := second.table messageId (first.table messageId present)

/-- When no call raises, every message of the batch is in flight after the loop. -/
theorem mem_table_forward_of_returns (inFlight : Registry String (Task Pixels))
    (messages : List Message) (messageId : String)
    (known : messageId ∈ inFlight.table ∨
      ∃ message ∈ messages, message.messageId = messageId) :
    messageId ∈ (forward (fun _ => none) inFlight messages).inFlight.table := by
  induction messages generalizing inFlight with
  | nil =>
      rcases known with present | ⟨message, member, _⟩
      · exact present
      · cases member
  | cons head rest ih =>
      simp only [forward]
      split
      next inTable =>
        apply ih
        rcases known with present | ⟨message, member, named⟩
        · exact Or.inl present
        · rcases List.mem_cons.mp member with here | later
          · exact Or.inl (named ▸ here ▸ inTable)
          · exact Or.inr ⟨message, later, named⟩
      next =>
        apply ih
        simp only [Registry.start_table, AList.mem_insert]
        rcases known with present | ⟨message, member, named⟩
        · exact Or.inl (Or.inr present)
        · rcases List.mem_cons.mp member with here | later
          · exact Or.inl (Or.inl (named ▸ here ▸ rfl))
          · exact Or.inr ⟨message, later, named⟩

variable (pipes) in
/-- A batch that has arrived is handed over. -/
theorem fetches_of_received {messages : List Message}
    (received : state.poll = .received (.ok messages)) :
    ∃ finish milliseconds, Fetches pipes state finish ∧
      finish.poll = .sleeping milliseconds ∧
      ∀ message ∈ messages, message.messageId ∈ finish.inFlight.table := by
  have taken : state.step (.pollResumes fun _ => none) =
      some (state.dispatch (fun _ => none) messages) := by
    simp only [State.step, received]
  have completes := (forward_raised_eq_none_iff (fun _ => none) state.inFlight
    messages).mpr (fun _ _ _ => rfl)
  have asleep : (state.dispatch (fun _ => none) messages).poll =
      .sleeping (pollDelay state.backpressureCounter) := by
    simp [State.dispatch, completes]
  have listed := mem_table_forward_of_returns state.inFlight messages
  refine ⟨_, _, ⟨⟨[.pollResumes fun _ => none], .single ⟨trivial, taken⟩⟩, rfl, rfl, rfl,
    rfl, ?_⟩, asleep, ?_⟩
  · exact fun messageId present => listed messageId (Or.inl present)
  · exact fun message member => listed _ (Or.inr ⟨message, member, rfl⟩)

variable (pipes) in
/-- A receive that is under way can return any few messages that were not deleted
before it. -/
theorem fetches_of_receiving {gone : List String} (messages : List Message)
    (receiving : state.poll = .receiving gone)
    (few : messages.length ≤ maxNumberOfMessages)
    (available : ∀ message ∈ messages, message ∈ state.sent ∧ message.messageId ∉ gone) :
    ∃ finish milliseconds, Fetches pipes state finish ∧
      finish.poll = .sleeping milliseconds ∧
      ∀ message ∈ messages, message.messageId ∈ finish.inFlight.table := by
  have taken : state.step (.receiveReturns messages) =
      some { state with poll := .received (.ok messages) } := by
    simp only [State.step, receiving, few, true_and]
    exact if_pos available
  have arrives : Fetches pipes state { state with poll := .received (.ok messages) } :=
    ⟨⟨[.receiveReturns messages], .single ⟨trivial, taken⟩⟩, rfl, rfl, rfl, rfl,
      fun _ => id⟩
  have received : { state with poll := .received (.ok messages) }.poll =
      .received (.ok messages) := rfl
  rcases fetches_of_received pipes received with
    ⟨finish, milliseconds, fetches, asleep, listed⟩
  exact ⟨finish, milliseconds, arrives.trans fetches, asleep, listed⟩

variable (pipes) in
/-- A living loop comes to its next rest. -/
theorem fetches_rest (alive : ¬state.poll.Dead) :
    ∃ finish, Fetches pipes state finish ∧ (finish.poll = .scheduled ∨
      ∃ milliseconds, finish.poll = .sleeping milliseconds) := by
  cases phase : state.poll with
  | scheduled => exact ⟨state, .refl state, Or.inl phase⟩
  | sleeping milliseconds => exact ⟨state, .refl state, Or.inr ⟨milliseconds, phase⟩⟩
  | receiving gone =>
      rcases fetches_of_receiving pipes [] phase (Nat.zero_le _) (by simp)
        with ⟨finish, milliseconds, fetches, asleep, _⟩
      exact ⟨finish, fetches, Or.inr ⟨milliseconds, asleep⟩⟩
  | ended raised => simp [phase, PollPhase.Dead] at alive
  | received outcome =>
      cases outcome with
      | error failure => simp [phase, PollPhase.Dead] at alive
      | ok messages =>
          rcases fetches_of_received pipes phase with
            ⟨finish, milliseconds, fetches, asleep, _⟩
          exact ⟨finish, fetches, Or.inr ⟨milliseconds, asleep⟩⟩

variable (pipes) in
/-- A living loop can fetch any message that is not deleted. -/
theorem exists_fetches (unset : state.shutdownEvent = false) (alive : ¬state.poll.Dead)
    {message : Message} (sent : message ∈ state.sent)
    (retained : message.messageId ∉ state.deleted) :
    ∃ finish, Fetches pipes state finish ∧ ¬finish.poll.Dead ∧
      message.messageId ∈ finish.inFlight.table := by
  rcases fetches_rest pipes alive with ⟨resting, rests, phase⟩
  have wakes := run_pollWakes (rests.shutdownEvent.trans unset) phase
  have receives : Fetches pipes resting
      { resting with poll := .receiving resting.deleted } := by
    refine ⟨⟨[.pollWakes], ?_⟩, rfl, rfl, rfl, rfl, fun _ => id⟩
    cases wakes with
    | cons taken rest =>
        cases rest
        exact .single ⟨trivial, taken⟩
  have available : ∀ other ∈ [message], other ∈ resting.sent ∧
      other.messageId ∉ resting.deleted := by
    simp only [List.mem_singleton, forall_eq, rests.sent, rests.deleted]
    exact ⟨sent, retained⟩
  have receiving : { resting with poll := .receiving resting.deleted }.poll =
      .receiving resting.deleted := rfl
  rcases fetches_of_receiving pipes [message] receiving
    (by simp [maxNumberOfMessages]) available with
    ⟨finish, milliseconds, fetches, asleep, listed⟩
  refine ⟨finish, (rests.trans receives).trans fetches, ?_, listed message (by simp)⟩
  simp [asleep, PollPhase.Dead]

/-! ## Every message that can be processed -/

/-- What a sent message needs to be processed from `state` on. -/
def Deliverable (pipes : Set (String → Nat → Nat → List Pixels)) (state : State Pixels)
    (message : Message) : Prop :=
  message.messageId ∈ state.deleted ∨ Answerable pipes message.body ∧
    (message.messageId ∈ state.inFlight.table ∨ ¬state.poll.Dead)

theorem Deliverable.continues {message : Message}
    (deliverable : Deliverable pipes start message) (continues : Continues start finish) :
    Deliverable pipes finish message := by
  rcases deliverable with gone | ⟨answerable, present | alive⟩
  · exact Or.inl (continues.deleted _ gone)
  · rcases continues.table _ present with still | gone
    · exact Or.inr ⟨answerable, Or.inl still⟩
    · exact Or.inl gone
  · exact Or.inr ⟨answerable, Or.inr (continues.alive alive)⟩

/-- One message is processed: by its task, which is fetched first when it has none. -/
theorem exists_run_processes (coherent : Coherent state)
    (unset : state.shutdownEvent = false) {message : Message}
    (sent : message ∈ state.sent) (deliverable : Deliverable pipes state message) :
    ∃ actions finish, (wired pipes).Run state actions finish ∧ Continues state finish ∧
      message.messageId ∈ finish.deleted := by
  by_cases gone : message.messageId ∈ state.deleted
  · exact ⟨[], state, .nil state, .refl state, gone⟩
  have needs := deliverable.resolve_left gone
  by_cases present : message.messageId ∈ state.inFlight.table
  · rcases processes_of_mem_table pipes coherent sent needs.1 present with
      ⟨finish, processes⟩
    rcases processes.run with ⟨actions, run⟩
    exact ⟨actions, finish, run, processes.continues, by simp [processes.deleted]⟩
  · rcases exists_fetches pipes unset (needs.2.resolve_left present) sent gone
      with ⟨middle, fetches, alive, listed⟩
    rcases fetches.run with ⟨earlier, before⟩
    rcases processes_of_mem_table pipes (coherent.run before)
      (fetches.sent ▸ sent) needs.1 listed with ⟨finish, processes⟩
    rcases processes.run with ⟨later, after⟩
    exact ⟨earlier ++ later, finish, before.append after,
      (fetches.continues alive).trans processes.continues, by simp [processes.deleted]⟩

/-- The runs for the messages of a list, one after the other. -/
theorem exists_run_processes_all (coherent : Coherent state)
    (unset : state.shutdownEvent = false) (messages : List Message)
    (sent : ∀ message ∈ messages, message ∈ state.sent)
    (deliverable : ∀ message ∈ messages, Deliverable pipes state message) :
    ∃ actions finish, (wired pipes).Run state actions finish ∧ Continues state finish ∧
      ∀ message ∈ messages, message.messageId ∈ finish.deleted := by
  induction messages generalizing state with
  | nil => exact ⟨[], state, .nil state, .refl state, by simp⟩
  | cons head rest ih =>
      rw [List.forall_mem_cons] at sent deliverable
      rcases exists_run_processes coherent unset sent.1 deliverable.1 with
        ⟨earlier, middle, before, continues, gone⟩
      rcases ih (coherent.run before) (continues.shutdownEvent.trans unset)
        (fun message member => continues.sent ▸ sent.2 message member)
        (fun message member => (deliverable.2 message member).continues continues) with
        ⟨later, finish, after, continued, others⟩
      refine ⟨earlier ++ later, finish, before.append after, continues.trans continued, ?_⟩
      rw [List.forall_mem_cons]
      exact ⟨continued.deleted _ gone, others⟩

/-! ## And no other message -/

/-- What was uploaded or deleted had a body that the generator can answer. -/
structure Answered (pipes : Set (String → Nat → Nat → List Pixels))
    (state : State Pixels) : Prop where
  uploading : ∀ task ∈ state.inFlight.jobs, ∀ image landed,
    task.phase = .uploading image landed → Answerable pipes task.response
  deleted : ∀ messageId ∈ state.deleted, ∃ message ∈ state.sent,
    message.messageId = messageId ∧ Answerable pipes message.body

namespace Answered

theorem frame (answered : Answered pipes state) (sent : next.sent = state.sent)
    (deleted : next.deleted = state.deleted)
    (jobs : ∀ task ∈ next.inFlight.jobs, task ∈ state.inFlight.jobs ∨
      ∀ image landed, task.phase = .uploading image landed →
        Answerable pipes task.response) : Answered pipes next where
  uploading := by
    intro task member image landed phase
    rcases jobs task member with old | new
    · exact answered.uploading task old image landed phase
    · exact new image landed phase
  deleted := by
    rw [deleted, sent]
    exact answered.deleted

/-- The jobs after the end of a task: the older ones, or one that has finished. -/
theorem jobs_release {index : Nat} {task : Task Pixels} {result : TaskResult}
    {inFlight : Registry String (Task Pixels)} :
    ∀ other ∈ (release inFlight index task result).jobs, other ∈ inFlight.jobs ∨
      ∀ image landed, other.phase = .uploading image landed →
        Answerable pipes other.response := by
  intro other member
  rcases mem_release member with old | ⟨final, ended⟩
  · exact Or.inl old
  · exact Or.inr (by simp [ended, Task.finish])

theorem tryRaises (answered : Answered pipes state) (index : Nat) (task : Task Pixels)
    (failure : Failure) : Answered pipes (state.tryRaises index task failure) := by
  cases failure with
  | backPressureError => exact answered.frame rfl rfl jobs_release
  | other => exact answered.frame rfl rfl jobs_release

/-- A delete: its task has uploaded an image, so the body was answered. -/
theorem elseClause (answered : Answered pipes state) {index : Nat} {task : Task Pixels}
    (backed : Backed state task) (answerable : Answerable pipes task.response)
    (delete : DeleteOutcome) : Answered pipes (state.elseClause index task delete) := by
  have own : ∀ messageId ∈ task.queueMessage.messageId :: state.deleted,
      ∃ message ∈ state.sent, message.messageId = messageId ∧
        Answerable pipes message.body := by
    rw [List.forall_mem_cons]
    exact ⟨⟨task.queueMessage, backed.sent, rfl, backed.response ▸ answerable⟩,
      answered.deleted⟩
  have kept : Answered pipes { state with
      inFlight := release state.inFlight index task .processed } :=
    answered.frame rfl rfl jobs_release
  cases delete with
  | succeeds => exact ⟨kept.uploading, own⟩
  | raises failure tookEffect =>
      cases tookEffect with
      | false => exact answered.frame rfl rfl jobs_release
      | true =>
          have raised : Answered pipes { state with
              inFlight := release state.inFlight index task (.raised failure) } :=
            answered.frame rfl rfl jobs_release
          exact ⟨raised.uploading, own⟩

theorem advance (answered : Answered pipes state) {index : Nat} {after : Task Pixels}
    (sent : next.sent = state.sent) (deleted : next.deleted = state.deleted)
    (inFlight : next.inFlight = state.inFlight.advance index after)
    (answerable : Answerable pipes after.response) : Answered pipes next := by
  apply answered.frame sent deleted
  intro task member
  rw [inFlight] at member
  rcases List.mem_or_eq_of_mem_set member with old | new
  · exact Or.inl old
  · exact Or.inr (by simp [new, answerable])

theorem moves (answered : Answered pipes state) (justified : Justified state)
    (permitted : Permitted pipes state action) (moves : Moves state action next) :
    Answered pipes next := by
  have unchanged : ∀ task ∈ state.inFlight.jobs, task ∈ state.inFlight.jobs ∨
      ∀ image landed, task.phase = .uploading image landed →
        Answerable pipes task.response := fun _ => Or.inl
  cases moves with
  | send =>
      refine ⟨answered.uploading, ?_⟩
      intro messageId gone
      rcases answered.deleted messageId gone with ⟨message, known, named⟩
      exact ⟨message, List.mem_append_left _ known, named⟩
  | pollWakes =>
      unfold State.checkShutdown
      split
      · exact answered.frame rfl rfl unchanged
      · exact answered.frame rfl rfl unchanged
  | dispatch =>
      refine answered.frame rfl rfl ?_
      intro task member
      rcases mem_forward member with old | ⟨message, _, made⟩
      · exact Or.inl old
      · exact Or.inr (by simp [made, Task.created])
  | responseReturns suspended =>
      have answers := permitted _ suspended
      exact answered.advance rfl rfl rfl ⟨_, answers⟩
  | responseRaises => exact answered.tryRaises _ _ _
  | putLands suspended =>
      have answerable := answered.uploading _ (List.mem_of_getElem? suspended) _ _ rfl
      exact answered.advance rfl rfl rfl answerable
  | uploadReturns suspended =>
      have member := List.mem_of_getElem? suspended
      exact answered.elseClause (justified.tasks _ member)
        (answered.uploading _ member _ _ rfl) _
  | uploadRaises => exact answered.tryRaises _ _ _
  | receiveReturns | receiveRaises | receiveFailed | shutdownRequested | drainWakes =>
      exact answered.frame rfl rfl unchanged

theorem of_reachable (reachable : (wired pipes).Reachable state) :
    Answered pipes state := by
  apply reachable.invariant (Answered pipes)
  · intro state start
    cases start
    constructor
    · simp [State.initial]
    · simp [State.initial]
  · intro state action next reached answered taken
    exact answered.moves (justified_of_reachable reached.of_restrict) taken.1
      (moves_of_step taken.2)

end Answered

/-- With a dead loop, the messages in hand are all that can still be deleted. -/
structure Abandoned (start state : State Pixels) : Prop where
  dead : state.poll.Dead
  known : ∀ messageId, messageId ∈ state.deleted ∨ messageId ∈ state.inFlight.table →
    messageId ∈ start.deleted ∨ messageId ∈ start.inFlight.table

theorem Abandoned.endTask (abandoned : Abandoned start state) {index : Nat}
    {task : Task Pixels} {result : TaskResult} (poll : next.poll = state.poll)
    (present : task.queueMessage.messageId ∈ state.inFlight.table)
    (deleted : next.deleted = state.deleted ∨
      next.deleted = task.queueMessage.messageId :: state.deleted)
    (registry : next.inFlight = release state.inFlight index task result) :
    Abandoned start next where
  dead := poll ▸ abandoned.dead
  known := by
    intro messageId inHand
    apply abandoned.known
    rcases inHand with gone | listed
    · rcases deleted with same | one
      · exact Or.inl (same ▸ gone)
      · rw [one] at gone
        rcases List.mem_cons.mp gone with own | older
        · exact Or.inr (own ▸ present)
        · exact Or.inl older
    · rw [registry] at listed
      exact Or.inr (mem_table_release listed).1

theorem Abandoned.moves (abandoned : Abandoned start state)
    (consistent : Consistent state.inFlight) (moves : Moves state action next) :
    Abandoned start next := by
  have dead := abandoned.dead
  have stillDead := dead_moves dead moves
  cases moves with
  | pollWakes resting =>
      rcases resting with scheduled | ⟨milliseconds, sleeping⟩
      · simp [scheduled, PollPhase.Dead] at dead
      · simp [sleeping, PollPhase.Dead] at dead
  | dispatch received => simp [received, PollPhase.Dead] at dead
  | responseRaises suspended =>
      rcases tryRaises_inFlight state _ _ _ with ⟨result, released⟩
      exact abandoned.endTask (by simp) (consistent.exact.mem_table suspended rfl)
        (Or.inl (by simp)) released
  | uploadReturns suspended =>
      rcases elseClause_inFlight state _ _ _ with ⟨result, released⟩
      exact abandoned.endTask (by simp) (consistent.exact.mem_table suspended rfl)
        (elseClause_deleted _ _ _ _) released
  | uploadRaises suspended =>
      rcases tryRaises_inFlight state _ _ _ with ⟨result, released⟩
      exact abandoned.endTask (by simp) (consistent.exact.mem_table suspended rfl)
        (Or.inl (by simp)) released
  | _ => exact ⟨stillDead, abandoned.known⟩

theorem Abandoned.of_run (reachable : (wired pipes).Reachable start)
    (dead : start.poll.Dead) (run : (wired pipes).Run start actions finish) :
    Abandoned start finish := by
  have both := run.preserves
    (fun state => (wired pipes).Reachable state ∧ Abandoned start state)
    (fun holds taken => ⟨holds.1.step taken, holds.2.moves
      (consistent_of_reachable holds.1.of_restrict) (moves_of_step taken.2)⟩)
    ⟨reachable, dead, fun _ => id⟩
  exact both.2

/-! ## The messages that can be processed -/

/-- Where the messages of `state` can still go. -/
structure Settles (pipes : Set (String → Nat → Nat → List Pixels))
    (state : State Pixels) : Prop where
  /-- One run processes every deliverable message and leaves its image in the bucket, -/
  possible : ∃ actions finish, (wired pipes).Run state actions finish ∧
    finish.sent = state.sent ∧
    ∀ message ∈ state.sent, Deliverable pipes state message →
      message.messageId ∈ finish.deleted ∧
        ∃ object, finish.bucket (filename message.messageId) = some object ∧
          object.image.prompt = message.body
  /-- and no run deletes another one. -/
  only : ∀ actions finish, (wired pipes).Run state actions finish →
    ∀ message ∈ state.sent, message.messageId ∈ finish.deleted →
      Deliverable pipes state message

/-- No run deletes a message that is not deliverable. -/
theorem deliverable_of_deleted (reachable : (wired pipes).Reachable state)
    (run : (wired pipes).Run state actions finish) {message : Message}
    (sent : message ∈ finish.sent) (gone : message.messageId ∈ finish.deleted) :
    Deliverable pipes state message := by
  by_cases already : message.messageId ∈ state.deleted
  · exact Or.inl already
  have reached := reachable.run run
  rcases (Answered.of_reachable reached).deleted _ gone with ⟨own, known, named, answered⟩
  cases (Coherent.of_reachable reached.of_restrict).eq_of_messageId_eq known sent named
  refine Or.inr ⟨answered, ?_⟩
  by_cases dead : state.poll.Dead
  · have abandoned := Abandoned.of_run reachable dead run
    exact Or.inl ((abandoned.known _ (Or.inl gone)).resolve_left already)
  · exact Or.inr dead

/-- Until the event is set, exactly the deliverable messages can be processed, and all
of them together. -/
theorem settles (reachable : (wired pipes).Reachable state)
    (unset : state.shutdownEvent = false) : Settles pipes state := by
  classical
  have coherent := Coherent.of_reachable reachable.of_restrict
  constructor
  · have deliverable : ∀ message ∈ state.sent.filter (Deliverable pipes state ·),
        message ∈ state.sent ∧ Deliverable pipes state message := by
      intro message member
      simpa using List.mem_filter.mp member
    rcases exists_run_processes_all coherent unset _
      (fun message member => (deliverable message member).1)
      (fun message member => (deliverable message member).2) with
      ⟨actions, finish, run, continues, deleted⟩
    refine ⟨actions, finish, run, continues.sent, ?_⟩
    intro message sent needs
    have gone := deleted message (List.mem_filter.mpr ⟨sent, by simpa using needs⟩)
    have later := coherent.run run
    rcases later.exists_object gone with ⟨object, stored⟩
    exact ⟨gone, object, stored, (later.own (continues.sent ▸ sent) stored).2⟩
  · intro actions finish run message sent gone
    exact deliverable_of_deleted reachable run (mem_sent_of_run run sent) gone

/-- A message with a prompt and one without are in the queue. -/
def twoMessages : List (Action Unit) := [.send ⟨"a", "prompt"⟩, .send ⟨"b", ""⟩]

theorem settles_twoMessages :
    ∃ state, System.execute State.step .initial twoMessages = some state ∧
      state.sent = [⟨"a", "prompt"⟩, ⟨"b", ""⟩] ∧
      Settles {fun _ _ _ => [()]} state :=
  ⟨_, rfl, rfl, settles
    (reachable_of_unanswered _ twoMessages rfl (by simp [twoMessages])) rfl⟩

/-! ## The drain can return -/

/-- A run that ends the task of one message, as processed if that is possible. -/
structure Clears (pipes : Set (String → Nat → Nat → List Pixels))
    (messageId : String) (start finish : State Pixels) : Prop where
  run : ∃ actions, (wired pipes).Run start actions finish
  sent : finish.sent = start.sent
  drain : finish.drain = start.drain
  table : finish.inFlight.table = start.inFlight.table.erase messageId
  kept : ∀ messageId ∈ start.deleted, messageId ∈ finish.deleted
  processed : ∀ message ∈ start.sent, message.messageId = messageId →
    Answerable pipes message.body → messageId ∈ finish.deleted

/-- A call that cannot be answered raises, and its task ends with the exception. -/
theorem exists_clears (reachable : (wired pipes).Reachable state) {messageId : String}
    (present : messageId ∈ state.inFlight.table) :
    ∃ finish, Clears pipes messageId state finish := by
  have coherent := Coherent.of_reachable reachable.of_restrict
  rcases (coherent.consistent.exact.mem_table_iff _).mp present with ⟨task, member, runs⟩
  have backed := coherent.justified.tasks task member
  rcases (Task.running_eq_some_iff task _).mp runs with ⟨named, unfinished⟩
  by_cases answerable : Answerable pipes task.queueMessage.body
  · rcases processes_of_mem_table pipes coherent backed.sent answerable (named ▸ present)
      with ⟨finish, processes⟩
    rw [named] at processes
    refine ⟨finish, processes.run, processes.sent, processes.drain, processes.table,
      processes.continues.deleted, ?_⟩
    intro message _ _ _
    simp [processes.deleted]
  · rcases List.getElem?_of_mem member with ⟨index, at_index⟩
    cases task with
    | mk response queueMessage phase =>
        have body : response = queueMessage.body := backed.response
        cases phase with
        | uploading image landed =>
            have answered := (Answered.of_reachable reachable).uploading _ member _ _ rfl
            exact absurd (body ▸ answered) answerable
        | finished result => exact absurd rfl (unfinished result)
        | awaitingResponse =>
            have taken : state.step (.responseRaises index .other) =
                some (state.tryRaises index ⟨response, queueMessage, .awaitingResponse⟩
                  .other) := by
              simp only [State.step, at_index]
            refine ⟨_, ⟨[.responseRaises index .other], .single ⟨trivial, taken⟩⟩, rfl,
              rfl, ?_, fun _ => id, ?_⟩
            · cases named
              exact congrArg Registry.table (coherent.consistent.release_eq at_index rfl)
            · intro message sent same possible
              cases coherent.eq_of_messageId_eq sent backed.sent (same.trans named.symm)
              exact absurd possible answerable

/-- The tasks of a table end one after the other. -/
theorem exists_run_clears (keys : List String) (reachable : (wired pipes).Reachable state)
    (listed : state.inFlight.table.keys = keys) :
    ∃ actions finish, (wired pipes).Run state actions finish ∧
      finish.sent = state.sent ∧ finish.drain = state.drain ∧
      finish.inFlight.table.keys = [] ∧
      (∀ messageId ∈ state.deleted, messageId ∈ finish.deleted) ∧
      ∀ message ∈ state.sent, message.messageId ∈ keys →
        Answerable pipes message.body → message.messageId ∈ finish.deleted := by
  induction keys generalizing state with
  | nil => exact ⟨[], state, .nil state, rfl, rfl, listed, fun _ => id, by simp⟩
  | cons head rest ih =>
      have present : head ∈ state.inFlight.table := by simp [AList.mem_keys, listed]
      rcases exists_clears reachable present with ⟨middle, clears⟩
      rcases clears.run with ⟨earlier, before⟩
      have shorter : middle.inFlight.table.keys = rest := by
        rw [clears.table, AList.keys_erase, listed, List.erase_cons_head]
      rcases ih (reachable.run before) shorter with
        ⟨later, finish, after, sent, drain, empty, kept, processed⟩
      refine ⟨earlier ++ later, finish, before.append after, sent.trans clears.sent,
        drain.trans clears.drain, empty,
        fun messageId gone => kept messageId (clears.kept messageId gone), ?_⟩
      intro message known member answerable
      rcases List.mem_cons.mp member with first | others
      · exact kept _ (first ▸ clears.processed message known first answerable)
      · exact processed message (clears.sent ▸ known) others answerable

/-- How a drain that is waiting can end. -/
structure DrainReturns (pipes : Set (String → Nat → Nat → List Pixels))
    (start finish : State Pixels) : Prop where
  returned : finish.drain = .returned
  empty : finish.inFlight.table.keys = []
  sent : finish.sent = start.sent
  /-- Of the messages in flight, exactly those with an answer are deleted. -/
  inFlight : ∀ message ∈ start.sent, message.messageId ∈ start.inFlight.table →
    (message.messageId ∈ finish.deleted ↔ Answerable pipes message.body)

/-- From every reachable state in which `__del__` waits, it can return, and no message
in flight is lost to it. -/
theorem exists_drainReturns (reachable : (wired pipes).Reachable state)
    (waiting : state.drain = .waiting) :
    ∃ actions finish, (wired pipes).Run state actions finish ∧
      DrainReturns pipes state finish := by
  rcases exists_run_clears _ reachable rfl with
    ⟨actions, finish, run, sent, drain, empty, _, processed⟩
  have taken : finish.step .drainWakes = some finish.checkDrained := by
    simp only [State.step, drain.trans waiting]
  have permitted : Permitted pipes finish .drainWakes := trivial
  have whole := run.append (.single ⟨permitted, taken⟩)
  refine ⟨_, finish.checkDrained, whole, ?_, empty, sent, ?_⟩
  · exact if_pos empty
  · intro message known present
    constructor
    · intro gone
      rcases (Answered.of_reachable (reachable.run whole)).deleted _ gone with
        ⟨own, ownSent, named, answerable⟩
      have coherent := Coherent.of_reachable (reachable.run run).of_restrict
      have same := coherent.eq_of_messageId_eq ownSent (sent ▸ known) named
      exact same ▸ answerable
    · intro answerable
      exact processed message known (AList.mem_keys.mp present) answerable

/-- Both messages are with the model when the shutdown is requested. -/
def twoInFlight : List (Action Unit) :=
  twoMessages ++ [.pollWakes, .receiveReturns [⟨"a", "prompt"⟩, ⟨"b", ""⟩],
    .pollResumes fun _ => none, .shutdownRequested]

theorem exists_drainReturns_twoInFlight :
    ∃ state, System.execute State.step .initial twoInFlight = some state ∧
      state.inFlight.table.keys = ["b", "a"] ∧
      ∃ actions finish, (wired {fun _ _ _ => [()]}).Run state actions finish ∧
        DrainReturns {fun _ _ _ => [()]} state finish :=
  ⟨_, rfl, rfl, exists_drainReturns
    (reachable_of_unanswered _ twoInFlight rfl (by simp [twoInFlight, twoMessages])) rfl⟩

end DistributedInference.StreamProcessing
