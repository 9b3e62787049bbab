import DistributedInference.StreamProcessing.InFlight

/-!
# Duplicate suppression

`run` skips a message that is in flight.  A batch is fetched while tasks keep
running, so by the time it is dispatched a message in it may have been processed,
deleted and removed from the table; it then looks like a new message.

A run never hands over a message that it has already deleted if and only if the
dispatch loop never reaches a stale message: one whose delete took effect while
the receive that returned it was under way.
-/

namespace DistributedInference.StreamProcessing

open Transition

variable {Pixels : Type} {state next : State Pixels} {action : Action Pixels}

/-- The messages of a batch that the dispatch loop reaches: all of them, or those
up to the first whose call to the model handle raises. -/
def examined (remote : String → Option Failure)
    (table : AList fun _ : String => Nat) : List Message → List Message
  | [] => []
  | message :: rest =>
      if message.messageId ∉ table ∧ (remote message.messageId).isSome then
        [message]
      else message :: examined remote table rest

/-- No message the dispatch loop is about to reach has been deleted.  SQS returns
no message whose delete preceded the receive, so a deleted one was deleted while
that receive was under way. -/
def NoStaleMessage (state : State Pixels) : Action Pixels → Prop
  | .pollResumes remote =>
      ∀ messages, state.poll = .received (.ok messages) →
        ∀ message ∈ examined remote state.inFlight.table messages,
          message.messageId ∉ state.deleted
  | _ => True

/-- The messages an action hands to the model. -/
def handedBy (state : State Pixels) : Action Pixels → List Message
  | .pollResumes remote =>
      match state.poll with
      | .received (.ok messages) =>
          (forward remote state.inFlight messages).handed
      | _ => []
  | _ => []

/-- Along the run of `actions`, a message deleted by then is never handed over
again. -/
def NeverHandedAgain (actions : List (Action Pixels)) : Prop :=
  ∀ earlier middle later before after, actions = earlier ++ (middle ++ later) →
    (poller Pixels).Run .initial earlier before →
    (poller Pixels).Run before middle after →
    ∃ new, after.handed = before.handed ++ new ∧
      ∀ message ∈ new, message.messageId ∉ before.deleted

/-! ## The messages the dispatch loop reaches -/

/-- Creating a task for a message whose call did not raise does not change what
the loop reaches. -/
theorem examined_insert {remote : String → Option Failure}
    (table : AList fun _ : String => Nat) {messageId : String} (index : Nat)
    (returns : remote messageId = none) (messages : List Message) :
    examined remote (table.insert messageId index) messages =
      examined remote table messages := by
  induction messages with
  | nil => rfl
  | cons message rest ih =>
      simp only [examined, ih, AList.mem_insert, not_or]
      by_cases same : message.messageId = messageId
      · simp [same, returns]
      · simp [same]

/-- Only messages that the loop reaches are handed over. -/
theorem mem_examined_of_handed {remote : String → Option Failure}
    {inFlight : Registry String (Task Pixels)} {messages : List Message}
    {message : Message}
    (handed : message ∈ (forward remote inFlight messages).handed) :
    message ∈ examined remote inFlight.table messages := by
  induction messages generalizing inFlight with
  | nil => simp [forward] at handed
  | cons head rest ih =>
      simp only [forward] at handed
      split at handed
      next present =>
        simp only [examined, present, not_true_eq_false, false_and, if_false]
        exact List.mem_cons_of_mem _ (ih handed)
      next absent =>
        split at handed
        next failure raises => simpa [examined, absent, raises] using handed
        next returns =>
          simp only [examined, returns, Option.isSome_none, Bool.false_eq_true,
            and_false, if_false]
          rcases List.mem_cons.mp handed with first | later
          · exact first ▸ List.mem_cons_self
          · have reached := ih later
            simp only [Registry.start_table,
              examined_insert _ _ returns] at reached
            exact List.mem_cons_of_mem _ reached

/-- A message that the loop reaches is handed over, or its id is in flight. -/
theorem handed_of_mem_examined {remote : String → Option Failure}
    {inFlight : Registry String (Task Pixels)} {messages : List Message}
    {message : Message}
    (reached : message ∈ examined remote inFlight.table messages)
    (absent : message.messageId ∉ inFlight.table) :
    ∃ handed ∈ (forward remote inFlight messages).handed,
      handed.messageId = message.messageId := by
  induction messages generalizing inFlight with
  | nil => simp [examined] at reached
  | cons head rest ih =>
      simp only [forward]
      split
      next present =>
        simp only [examined, present, not_true_eq_false, false_and,
          if_false] at reached
        rcases List.mem_cons.mp reached with first | later
        · exact absurd (first ▸ present) absent
        · exact ih later absent
      next headAbsent =>
        split
        next failure raises =>
          simp only [examined, headAbsent, not_false_eq_true, raises,
            Option.isSome_some, and_self, if_true, List.mem_singleton] at reached
          exact ⟨head, List.mem_cons_self, by rw [reached]⟩
        next returns =>
          by_cases same : message.messageId = head.messageId
          · exact ⟨head, List.mem_cons_self, same.symm⟩
          · simp only [examined, returns, Option.isSome_none, Bool.false_eq_true,
              and_false, if_false] at reached
            have later : message ∈ examined remote inFlight.table rest := by
              rcases List.mem_cons.mp reached with first | later
              · exact absurd (congrArg Message.messageId first) same
              · exact later
            rw [← examined_insert _ inFlight.jobs.length returns] at later
            have stillAbsent : message.messageId ∉
                (inFlight.start head.messageId (Task.created head)).table := by
              simp [same, absent]
            rcases ih later stillAbsent with ⟨handed, member, named⟩
            exact ⟨handed, List.mem_cons_of_mem _ member, named⟩

/-- The dispatch loop enters only the ids it hands over. -/
theorem mem_table_forward {remote : String → Option Failure}
    {inFlight : Registry String (Task Pixels)} {messages : List Message}
    {messageId : String}
    (present : messageId ∈ (forward remote inFlight messages).inFlight.table) :
    messageId ∈ inFlight.table ∨
      ∃ handed ∈ (forward remote inFlight messages).handed,
        handed.messageId = messageId := by
  induction messages generalizing inFlight with
  | nil => exact Or.inl present
  | cons head rest ih =>
      simp only [forward] at present ⊢
      split at present
      next inTable =>
        simp only [inTable, if_true]
        exact ih present
      next absent =>
        simp only [absent, if_false]
        split at present
        next failure raises => exact Or.inl present
        next returns =>
          rcases ih present with old | ⟨handed, member, named⟩
          · simp only [Registry.start_table, AList.mem_insert] at old
            rcases old with first | older
            · exact Or.inr ⟨head, List.mem_cons_self, first.symm⟩
            · exact Or.inl older
          · exact Or.inr ⟨handed, List.mem_cons_of_mem _ member, named⟩

/-! ## Deletions and the table -/

/-- A deleted message is not in flight. -/
def Settled (state : State Pixels) : Prop :=
  ∀ messageId ∈ state.deleted, messageId ∉ state.inFlight.table

theorem handed_moves (moves : Moves state action next) :
    next.handed = state.handed ++ handedBy state action := by
  cases moves with
  | dispatch received => simp [State.dispatch, handedBy, received]
  | receiveFailed received => simp [handedBy, received]
  | pollWakes =>
      unfold State.checkShutdown
      split
      · simp [handedBy]
      · simp [handedBy]
  | _ => simp [handedBy, State.checkDrained]

theorem deleted_moves (moves : Moves state action next) {messageId : String}
    (gone : messageId ∈ state.deleted) : messageId ∈ next.deleted := by
  cases moves with
  | uploadReturns =>
      rcases elseClause_deleted state _ _ _ with same | one
      · rw [same]
        exact gone
      · rw [one]
        exact List.mem_cons_of_mem _ gone
  | responseRaises => simpa using gone
  | uploadRaises => simpa using gone
  | pollWakes =>
      unfold State.checkShutdown
      split
      · exact gone
      · exact gone
  | _ => exact gone

theorem mem_table_release {inFlight : Registry String (Task Pixels)} {index : Nat}
    {task : Task Pixels} {result : TaskResult} {messageId : String}
    (present : messageId ∈ (release inFlight index task result).table) :
    messageId ∈ inFlight.table ∧ messageId ≠ task.queueMessage.messageId := by
  unfold release at present
  split at present
  next =>
    simp only [Registry.retire_table, AList.mem_erase] at present
    exact ⟨present.2, present.1⟩
  next absent =>
    exact ⟨present, fun same => absent (same ▸ present)⟩

/-- The end of a task removes its id from the table together with the message. -/
theorem Settled.endTask (settled : Settled state) {index : Nat}
    {task : Task Pixels} {result : TaskResult}
    (deleted : next.deleted = state.deleted ∨
      next.deleted = task.queueMessage.messageId :: state.deleted)
    (registry : next.inFlight = release state.inFlight index task result) :
    Settled next := by
  intro messageId gone present
  rw [registry] at present
  have kept := mem_table_release present
  rcases deleted with same | one
  · rw [same] at gone
    exact settled messageId gone kept.1
  · rw [one] at gone
    rcases List.mem_cons.mp gone with own | older
    · exact kept.2 own
    · exact settled messageId older kept.1

/-- A step that hands over no deleted message leaves the deleted ones settled. -/
theorem Settled.moves (settled : Settled state) (moves : Moves state action next)
    (fresh : ∀ message ∈ handedBy state action,
      message.messageId ∉ state.deleted) : Settled next := by
  cases moves with
  | @dispatch remote messages received =>
      intro messageId gone present
      rcases mem_table_forward present with old | ⟨message, handed, named⟩
      · exact settled messageId gone old
      · apply fresh message
        · simpa [handedBy, received] using handed
        · exact named ▸ gone
  | uploadReturns =>
      rcases elseClause_inFlight state _ _ _ with ⟨result, registry⟩
      exact settled.endTask (elseClause_deleted state _ _ _) registry
  | responseRaises =>
      rcases tryRaises_inFlight state _ _ _ with ⟨result, registry⟩
      exact settled.endTask (Or.inl (tryRaises_deleted state _ _ _)) registry
  | uploadRaises =>
      rcases tryRaises_inFlight state _ _ _ with ⟨result, registry⟩
      exact settled.endTask (Or.inl (tryRaises_deleted state _ _ _)) registry
  | pollWakes =>
      unfold State.checkShutdown
      split
      · exact settled
      · exact settled
  | _ => exact settled

/-! ## Exactly the runs without a stale dispatch -/

/-- No deleted message is handed over in a step. -/
def HandsNoDeleted (state : State Pixels) (action : Action Pixels) : Prop :=
  ∀ message ∈ handedBy state action, message.messageId ∉ state.deleted

theorem handedBy_resumes {message : Message}
    (handed : message ∈ handedBy state action) :
    ∃ remote messages, action = .pollResumes remote ∧
      state.poll = .received (.ok messages) ∧
      message ∈ (forward remote state.inFlight messages).handed := by
  cases action with
  | pollResumes remote =>
      simp only [handedBy] at handed
      split at handed
      next messages received => exact ⟨remote, messages, rfl, received, handed⟩
      next => contradiction
  | _ => simp [handedBy] at handed

theorem NoStaleMessage.handsNoDeleted (fresh : NoStaleMessage state action) :
    HandsNoDeleted state action := by
  intro message member
  rcases handedBy_resumes member with ⟨remote, messages, rfl, received, handed⟩
  exact fresh messages received message (mem_examined_of_handed handed)

theorem HandsNoDeleted.noStaleMessage (settled : Settled state)
    (none : HandsNoDeleted state action) : NoStaleMessage state action := by
  cases action with
  | pollResumes remote =>
      intro messages received message reached gone
      rcases handed_of_mem_examined reached (settled _ gone) with
        ⟨handed, member, named⟩
      exact none handed (by simpa [handedBy, received] using member) (named ▸ gone)
  | _ => trivial

/-- If no step hands over a deleted message, no segment of the run does. -/
theorem neverHandedAgain_of_eachStep {actions : List (Action Pixels)}
    (each : (poller Pixels).EachStep HandsNoDeleted .initial actions) :
    NeverHandedAgain actions := by
  intro earlier middle later before after split start run
  rw [split] at each
  have restricted := run.restrict (each.segment start)
  have kept := restricted.preserves
    (fun current => (∀ messageId ∈ before.deleted, messageId ∈ current.deleted) ∧
      ∃ new, current.handed = before.handed ++ new ∧
        ∀ message ∈ new, message.messageId ∉ before.deleted) ?_
    ⟨fun _ => id, [], by simp, by simp⟩
  · exact kept.2
  · intro current action next holds taken
    rcases holds with ⟨subset, new, handed, fresh⟩
    have moves := moves_of_step taken.2
    refine ⟨fun messageId gone => deleted_moves moves (subset messageId gone),
      new ++ handedBy current action, ?_, ?_⟩
    · rw [handed_moves moves, handed, List.append_assoc]
    · intro message member
      rcases List.mem_append.mp member with old | handedNow
      · exact fresh message old
      · exact fun gone => taken.1 message handedNow (subset _ gone)

/-- If the run never hands over a message again, none of its steps does. -/
theorem NeverHandedAgain.eachStep {actions : List (Action Pixels)}
    (never : NeverHandedAgain actions) :
    (poller Pixels).EachStep HandsNoDeleted .initial actions := by
  intro earlier action later state split run message member
  rcases handedBy_resumes member with ⟨remote, messages, rfl, received, -⟩
  have taken : state.step (.pollResumes remote) =
      some (state.dispatch remote messages) := by
    simp only [State.step, received]
  rcases never earlier [.pollResumes remote] later state _ (by simp [split]) run
    (.single taken) with ⟨new, handed, fresh⟩
  rw [handed_moves (moves_of_step taken)] at handed
  exact fresh message (List.append_cancel_left handed ▸ member)

/-- If no step hands over a deleted message, the deleted ones stay settled, so
every stale message that the loop reaches would have been handed over. -/
theorem eachStep_noStaleMessage {actions : List (Action Pixels)}
    (each : (poller Pixels).EachStep HandsNoDeleted .initial actions) :
    (poller Pixels).EachStep NoStaleMessage .initial actions := by
  intro earlier action later state split run
  have before : (poller Pixels).EachStep HandsNoDeleted .initial earlier := by
    rw [split] at each
    exact each.segment (.nil _)
  have restricted := run.restrict before
  have settled : Settled state := by
    apply restricted.preserves Settled
    · intro current action next holds taken
      exact holds.moves (moves_of_step taken.2) taken.1
    · simp [Settled, State.initial]
  exact HandsNoDeleted.noStaleMessage settled
    (each earlier action later state split run)

/-- In every run: no message is handed to the model after its delete if and only
if the dispatch loop never reaches a message that was deleted while the receive
that returned it was under way. -/
theorem neverHandedAgain_iff (actions : List (Action Pixels)) :
    NeverHandedAgain actions ↔
      (poller Pixels).EachStep NoStaleMessage .initial actions := by
  constructor
  · intro never
    exact eachStep_noStaleMessage never.eachStep
  · intro each
    apply neverHandedAgain_of_eachStep
    intro earlier action later state split run
    exact (each earlier action later state split run).handsNoDeleted

/-- The message is fetched again while its first task runs, and that task uploads
and deletes it before `run` resumes with the second batch. -/
def staleFetch : List (Action Unit) :=
  [.send ⟨"a", "prompt"⟩, .pollWakes, .receiveReturns [⟨"a", "prompt"⟩],
    .pollResumes fun _ => none, .responseReturns 0 (), .putLands 0, .pollWakes,
    .receiveReturns [⟨"a", "prompt"⟩], .uploadReturns 0 .succeeds]

/-- When `run` resumes, it hands the deleted message to the model again. -/
theorem staleFetch_handedAgain :
    ∃ before after,
      System.execute State.step .initial staleFetch = some before ∧
      before.deleted = ["a"] ∧ before.handed = [⟨"a", "prompt"⟩] ∧
      before.step (.pollResumes fun _ => none) = some after ∧
      after.handed = [⟨"a", "prompt"⟩, ⟨"a", "prompt"⟩] ∧
      ¬NeverHandedAgain (staleFetch ++ [.pollResumes fun _ => none]) := by
  refine ⟨_, _, rfl, rfl, rfl, rfl, rfl, ?_⟩
  intro never
  rcases never staleFetch [.pollResumes fun _ => none] [] _ _ rfl
    (System.run_of_execute rfl) (System.run_of_execute rfl) with
    ⟨new, handed, fresh⟩
  have handedNow : [(⟨"a", "prompt"⟩ : Message)] = new :=
    List.append_cancel_left handed
  exact fresh ⟨"a", "prompt"⟩ (handedNow ▸ List.mem_singleton_self _)
    List.mem_cons_self

end DistributedInference.StreamProcessing
