import DistributedInference.Delivery.AtLeastOnce
import DistributedInference.StreamProcessing.Moves

/-!
# At-least-once delivery of the poller

The poller simulates the delivery ledger: sending a message offers a request, a
model response produces a result, the put of an upload stores it, and a delete
acknowledges it.  All other moves are internal.

The ledger allows a result to be stored only for its own request and a key to be
acknowledged only after something is stored.  Nothing in the poller checks
either; `Justified` ties the phase of every task to the services and shows that
both hold where the poller uploads and deletes.
-/

namespace DistributedInference.StreamProcessing

open Transition Delivery

variable {Pixels : Type} {state next : State Pixels} {action : Action Pixels}

theorem filename_injective : Function.Injective filename := by
  intro left right equal
  have characters := congrArg String.toList equal
  simp only [filename, String.toList_append] at characters
  exact String.toList_injective
    (List.append_cancel_left (List.append_cancel_right characters))

/-! ## What a suspended task knows -/

/-- The phase of a task is backed by the services: its image came from the model
for the body of its own message, and after its put the file is in the bucket. -/
structure Backed (state : State Pixels) (task : Task Pixels) : Prop where
  sent : task.queueMessage ∈ state.sent
  response : task.response = task.queueMessage.body
  image : ∀ image landed, task.phase = .uploading image landed →
    image ∈ state.returned ∧ image.prompt = task.response
  landed : ∀ image, task.phase = .uploading image true →
    (state.bucket (filename task.queueMessage.messageId)).isSome

/-- The invariant behind the simulation. -/
structure Justified (state : State Pixels) : Prop where
  batch : ∀ messages, state.poll = .received (.ok messages) →
    ∀ message ∈ messages, message ∈ state.sent
  tasks : ∀ task ∈ state.inFlight.jobs, Backed state task
  files : ∀ key object, state.bucket key = some object →
    ∃ message ∈ state.sent, key = filename message.messageId

/-- The services only gain messages, images and files. -/
structure Grows (before after : State Pixels) : Prop where
  sent : ∀ message ∈ before.sent, message ∈ after.sent
  returned : ∀ image ∈ before.returned, image ∈ after.returned
  bucket : ∀ key, (before.bucket key).isSome → (after.bucket key).isSome

theorem Grows.of_eq {before after : State Pixels}
    (sent : after.sent = before.sent) (returned : after.returned = before.returned)
    (bucket : after.bucket = before.bucket) : Grows before after := by
  constructor
  · simp [sent]
  · simp [returned]
  · simp [bucket]

theorem Backed.grow {before after : State Pixels} {task : Task Pixels}
    (backed : Backed before task) (grows : Grows before after) :
    Backed after task where
  sent := grows.sent _ backed.sent
  response := backed.response
  image image landed uploading :=
    have known := backed.image image landed uploading
    ⟨grows.returned _ known.1, known.2⟩
  landed image uploading := grows.bucket _ (backed.landed image uploading)

/-- A finished task makes no claim about its image. -/
theorem Backed.finish {task : Task Pixels} (backed : Backed state task)
    (result : TaskResult) : Backed state (task.finish result) where
  sent := backed.sent
  response := backed.response
  image := by simp [Task.finish]
  landed := by simp [Task.finish]

theorem isSome_uploadToS3 (bucket : String → Option (S3Object Pixels))
    (image : Image Pixels) (messageId key : String)
    (present : (bucket key).isSome) :
    (uploadToS3 bucket image messageId key).isSome := by
  simp only [uploadToS3, Function.update_apply]
  split
  · rfl
  · exact present

theorem mem_release {inFlight : Registry String (Task Pixels)} {index : Nat}
    {task other : Task Pixels} {result : TaskResult}
    (member : other ∈ (release inFlight index task result).jobs) :
    other ∈ inFlight.jobs ∨ ∃ final, other = task.finish final := by
  unfold release at member
  split at member
  · rcases List.mem_or_eq_of_mem_set member with old | new
    · exact Or.inl old
    · exact Or.inr ⟨_, new⟩
  · rcases List.mem_or_eq_of_mem_set member with old | new
    · exact Or.inl old
    · exact Or.inr ⟨_, new⟩

/-- The dispatch loop creates tasks for messages of its batch only. -/
theorem mem_forward {remote : String → Option Failure} {messages : List Message}
    {inFlight : Registry String (Task Pixels)} {task : Task Pixels}
    (member : task ∈ (forward remote inFlight messages).inFlight.jobs) :
    task ∈ inFlight.jobs ∨ ∃ message ∈ messages, task = .created message := by
  induction messages generalizing inFlight with
  | nil => exact Or.inl member
  | cons message rest ih =>
      simp only [forward] at member
      split at member
      next =>
        rcases ih member with old | ⟨source, sourceMem, made⟩
        · exact Or.inl old
        · exact Or.inr ⟨source, List.mem_cons_of_mem _ sourceMem, made⟩
      next =>
        split at member
        next => exact Or.inl member
        next =>
          rcases ih member with old | ⟨source, sourceMem, made⟩
          · simp only [Registry.start_jobs, List.mem_append,
              List.mem_singleton] at old
            rcases old with older | made
            · exact Or.inl older
            · exact Or.inr ⟨message, List.mem_cons_self, made⟩
          · exact Or.inr ⟨source, List.mem_cons_of_mem _ sourceMem, made⟩

/-- The end of a task touches neither the files nor a received batch. -/
theorem Justified.endTask (justified : Justified state) {index : Nat}
    {task : Task Pixels} {result : TaskResult}
    (suspended : state.inFlight.jobs[index]? = some task)
    (sent : next.sent = state.sent) (returned : next.returned = state.returned)
    (bucket : next.bucket = state.bucket) (poll : next.poll = state.poll)
    (registry : next.inFlight = release state.inFlight index task result) :
    Justified next := by
  have grows := Grows.of_eq sent returned bucket
  constructor
  · rw [poll, sent]
    exact justified.batch
  · intro other member
    rw [registry] at member
    rcases mem_release member with old | ⟨final, ended⟩
    · exact (justified.tasks other old).grow grows
    · rw [ended]
      have backed := justified.tasks task (List.mem_of_getElem? suspended)
      exact (backed.grow grows).finish final
  · rw [bucket, sent]
    exact justified.files

theorem Justified.tryRaises (justified : Justified state) {index : Nat}
    {task : Task Pixels} (failure : Failure)
    (suspended : state.inFlight.jobs[index]? = some task) :
    Justified (state.tryRaises index task failure) := by
  cases failure with
  | backPressureError => exact justified.endTask suspended rfl rfl rfl rfl rfl
  | other => exact justified.endTask suspended rfl rfl rfl rfl rfl

theorem Justified.elseClause (justified : Justified state) {index : Nat}
    {task : Task Pixels} (delete : DeleteOutcome)
    (suspended : state.inFlight.jobs[index]? = some task) :
    Justified (state.elseClause index task delete) := by
  cases delete with
  | succeeds => exact justified.endTask suspended rfl rfl rfl rfl rfl
  | raises failure tookEffect =>
      cases tookEffect with
      | false => exact justified.endTask suspended rfl rfl rfl rfl rfl
      | true => exact justified.endTask suspended rfl rfl rfl rfl rfl

theorem justified_initial : Justified (.initial : State Pixels) where
  batch := by simp [State.initial]
  tasks := by simp [State.initial]
  files := by simp [State.initial]

/-- A task that changes only its own phase. -/
theorem Justified.advance (justified : Justified state) {index : Nat}
    {before after : Task Pixels}
    (registry : next.inFlight = state.inFlight.advance index after)
    (suspended : state.inFlight.jobs[index]? = some before)
    (grows : Grows state next)
    (changed : Backed next before → Backed next after) :
    ∀ task ∈ next.inFlight.jobs, Backed next task := by
  intro task member
  rw [registry] at member
  rcases List.mem_or_eq_of_mem_set member with old | new
  · exact (justified.tasks task old).grow grows
  · rw [new]
    have backed := justified.tasks before (List.mem_of_getElem? suspended)
    exact changed (backed.grow grows)

/-- A step that changes neither the tasks nor the services. -/
theorem Justified.frame (justified : Justified state)
    (sent : next.sent = state.sent) (returned : next.returned = state.returned)
    (bucket : next.bucket = state.bucket) (registry : next.inFlight = state.inFlight)
    (batch : ∀ messages, next.poll = .received (.ok messages) →
      ∀ message ∈ messages, message ∈ next.sent) : Justified next := by
  constructor
  · exact batch
  · intro task member
    rw [registry] at member
    exact (justified.tasks task member).grow (Grows.of_eq sent returned bucket)
  · rw [bucket, sent]
    exact justified.files

/-- A message that is sent backs more than before. -/
theorem Justified.send (justified : Justified state) (message : Message) :
    Justified { state with
      sent := state.sent ++ [message]
      queue := state.queue ++ [message] } := by
  constructor
  · intro messages received other member
    exact List.mem_append_left _ (justified.batch messages received other member)
  · intro task member
    apply (justified.tasks task member).grow
    exact ⟨fun _ => List.mem_append_left _, fun _ => id, fun _ => id⟩
  · intro key object stored
    rcases justified.files key object stored with ⟨source, known, named⟩
    exact ⟨source, List.mem_append_left _ known, named⟩

/-- The tasks of a batch are backed by its messages. -/
theorem Justified.dispatch (justified : Justified state)
    (remote : String → Option Failure) {messages : List Message}
    (received : state.poll = .received (.ok messages)) :
    Justified (state.dispatch remote messages) := by
  constructor
  · intro batch outcome
    simp only [State.dispatch] at outcome
    split at outcome <;> contradiction
  · intro task member
    rcases mem_forward member with old | ⟨message, known, made⟩
    · exact (justified.tasks task old).grow (.of_eq rfl rfl rfl)
    · rw [made]
      exact ⟨justified.batch messages received message known, rfl,
        by simp [Task.created], by simp [Task.created]⟩
  · exact justified.files

/-- An image that the model returned backs the upload. -/
theorem Justified.responseReturns (justified : Justified state) {index : Nat}
    (pixels : Pixels) {response : String} {message : Message}
    (suspended : state.inFlight.jobs[index]? =
      some ⟨response, message, .awaitingResponse⟩) :
    Justified { state with
      returned := state.returned ++ [⟨response, pixels⟩]
      inFlight := state.inFlight.advance index
        ⟨response, message, .uploading ⟨response, pixels⟩ false⟩ } := by
  have grows : Grows state
      { state with
        returned := state.returned ++ [⟨response, pixels⟩]
        inFlight := state.inFlight.advance index
          ⟨response, message, .uploading ⟨response, pixels⟩ false⟩ } :=
    ⟨fun _ => id, fun _ => List.mem_append_left _, fun _ => id⟩
  refine ⟨justified.batch, ?_, justified.files⟩
  apply justified.advance rfl suspended grows
  intro backed
  refine ⟨backed.sent, backed.response, ?_, nofun⟩
  intro image landed uploading
  cases uploading
  exact ⟨by simp, rfl⟩

/-- The file that a task puts belongs to its message. -/
theorem Justified.putLands (justified : Justified state) {index : Nat}
    {response : String} {message : Message} {image : Image Pixels}
    (suspended : state.inFlight.jobs[index]? =
      some ⟨response, message, .uploading image false⟩) :
    Justified { state with
      bucket := uploadToS3 state.bucket image message.messageId
      inFlight := state.inFlight.advance index
        ⟨response, message, .uploading image true⟩ } := by
  have grows : Grows state
      { state with
        bucket := uploadToS3 state.bucket image message.messageId
        inFlight := state.inFlight.advance index
          ⟨response, message, .uploading image true⟩ } :=
    ⟨fun _ => id, fun _ => id, isSome_uploadToS3 _ _ _⟩
  refine ⟨justified.batch, ?_, ?_⟩
  · apply justified.advance rfl suspended grows
    intro backed
    refine ⟨backed.sent, backed.response, ?_, ?_⟩
    · intro other landed uploading
      cases uploading
      exact backed.image image false rfl
    · intro other uploading
      simp [uploadToS3]
  · intro key object stored
    simp only [uploadToS3, Function.update_apply] at stored
    split at stored
    next named =>
      have backed := justified.tasks _ (List.mem_of_getElem? suspended)
      exact ⟨message, backed.sent, named⟩
    next => exact justified.files key object stored

/-- One step keeps every suspended task backed by the services. -/
theorem Justified.moves (justified : Justified state)
    (moves : Moves state action next) : Justified next := by
  cases moves with
  | @send message fresh => exact justified.send message
  | pollWakes =>
      unfold State.checkShutdown
      split
      · exact justified.frame rfl rfl rfl rfl nofun
      · exact justified.frame rfl rfl rfl rfl nofun
  | @receiveReturns gone messages receiving bounded available =>
      refine justified.frame rfl rfl rfl rfl ?_
      intro batch received message member
      cases received
      exact (available message member).1
  | receiveRaises => exact justified.frame rfl rfl rfl rfl nofun
  | dispatch received => exact justified.dispatch _ received
  | receiveFailed => exact justified.frame rfl rfl rfl rfl nofun
  | responseReturns suspended => exact justified.responseReturns _ suspended
  | responseRaises suspended => exact justified.tryRaises _ suspended
  | putLands suspended => exact justified.putLands suspended
  | uploadReturns suspended => exact justified.elseClause _ suspended
  | uploadRaises suspended => exact justified.tryRaises _ suspended
  | shutdownRequested => exact justified.frame rfl rfl rfl rfl justified.batch
  | drainWakes => exact justified.frame rfl rfl rfl rfl justified.batch

theorem justified_of_reachable (reachable : (poller Pixels).Reachable state) :
    Justified state := by
  apply State.invariant Justified justified_initial ?_ reachable
  intro state action next _ justified moves
  exact justified.moves moves

/-! ## The poller simulates the delivery ledger -/

/-- The entries of a list of messages. -/
def entries (messages : List Message) : Set (String × String) :=
  {entry | ∃ message ∈ messages, (message.messageId, message.body) = entry}

theorem entries_append (messages : List Message) (message : Message) :
    entries (messages ++ [message]) =
      insert (message.messageId, message.body) (entries messages) := by
  ext entry
  simp only [entries, List.mem_append, List.mem_singleton, Set.mem_ofPred_eq,
    Set.mem_insert_iff]
  constructor
  · rintro ⟨source, old | new, same⟩
    · exact Or.inr ⟨source, old, same⟩
    · exact Or.inl (new ▸ same.symm)
  · rintro (same | ⟨source, old, same⟩)
    · exact ⟨message, Or.inr rfl, same.symm⟩
    · exact ⟨source, Or.inl old, same⟩

theorem entries_filter (messages : List Message) (messageId : String) :
    entries (messages.filter fun message => message.messageId ≠ messageId) =
      {entry ∈ entries messages | entry.1 ≠ messageId} := by
  ext entry
  simp only [entries, List.mem_filter, decide_eq_true_eq, Set.mem_ofPred_eq]
  constructor
  · rintro ⟨source, ⟨known, other⟩, rfl⟩
    exact ⟨⟨source, known, rfl⟩, other⟩
  · rintro ⟨⟨source, known, rfl⟩, other⟩
    exact ⟨source, ⟨known, other⟩, rfl⟩

/-- The ledger of a state.  Bodies are the requests and message ids the keys. -/
def ledger (state : State Pixels) : Ledger String String (Image Pixels) where
  offered := entries state.sent
  pending := entries state.queue
  produced := {entry | entry.2 ∈ state.returned ∧ entry.2.prompt = entry.1}
  stored messageId := (state.bucket (filename messageId)).map S3Object.image
  acknowledged := {messageId | messageId ∈ state.deleted}

theorem ledger_congr (sent : next.sent = state.sent)
    (queue : next.queue = state.queue) (returned : next.returned = state.returned)
    (bucket : next.bucket = state.bucket) (deleted : next.deleted = state.deleted) :
    ledger next = ledger state := by
  simp only [ledger, sent, queue, returned, bucket, deleted]

/-- An internal move leaves the ledger as it is. -/
theorem ledger_internal (sent : next.sent = state.sent)
    (queue : next.queue = state.queue) (returned : next.returned = state.returned)
    (bucket : next.bucket = state.bucket) (deleted : next.deleted = state.deleted) :
    ∃ events, Ledger.system.Run (ledger state) events (ledger next) := by
  rw [ledger_congr sent queue returned bucket deleted]
  exact ⟨[], .nil _⟩

/-- Sending a message with a fresh id offers its body under that id. -/
theorem ledger_send {message : Message}
    (fresh : message.messageId ∉ state.sent.map Message.messageId) :
    Ledger.Step (ledger state) (.offer message.messageId message.body)
      (ledger { state with
        sent := state.sent ++ [message]
        queue := state.queue ++ [message] }) := by
  simp only [ledger, entries_append]
  apply Ledger.Step.offer
  intro other offered
  rcases offered with ⟨source, known, same⟩
  have sameId : source.messageId = message.messageId := congrArg Prod.fst same
  exact fresh (sameId ▸ List.mem_map_of_mem known)

/-- A response of the model produces a result for the body it was asked. -/
theorem ledger_response (response : String) (pixels : Pixels)
    (inFlight : Registry String (Task Pixels)) :
    Ledger.Step (ledger state) (.produce response ⟨response, pixels⟩)
      (ledger { state with
        returned := state.returned ++ [⟨response, pixels⟩]
        inFlight := inFlight }) := by
  have produced :
      {entry : String × Image Pixels |
        entry.2 ∈ state.returned ++ [⟨response, pixels⟩] ∧
          entry.2.prompt = entry.1} =
      insert (response, ⟨response, pixels⟩) (ledger state).produced := by
    ext entry
    rcases entry with ⟨request, image⟩
    simp only [ledger, List.mem_append, List.mem_singleton, Set.mem_ofPred_eq,
      Set.mem_insert_iff, Prod.mk.injEq]
    constructor
    · rintro ⟨old | new, named⟩
      · exact Or.inr ⟨old, named⟩
      · subst new
        exact Or.inl ⟨named.symm, rfl⟩
    · rintro (⟨rfl, rfl⟩ | ⟨old, named⟩)
      · exact ⟨Or.inr rfl, rfl⟩
      · exact ⟨Or.inl old, named⟩
  simp only [ledger, produced]
  exact .produce

/-- The put of an upload stores the image under the id of its message. -/
theorem ledger_upload {task : Task Pixels} {image : Image Pixels}
    (backed : Backed state task) (uploading : task.phase = .uploading image false)
    (inFlight : Registry String (Task Pixels)) :
    Ledger.Step (ledger state) (.store task.queueMessage.messageId image)
      (ledger { state with
        bucket := uploadToS3 state.bucket image task.queueMessage.messageId
        inFlight := inFlight }) := by
  have stored :
      (fun messageId => (uploadToS3 state.bucket image
        task.queueMessage.messageId (filename messageId)).map S3Object.image) =
      Function.update (ledger state).stored task.queueMessage.messageId
        (some image) := by
    funext messageId
    simp only [uploadToS3, ledger, Function.update_apply,
      filename_injective.eq_iff]
    split
    · rfl
    · rfl
  have known := backed.image image false uploading
  have step : Ledger.Step (ledger state) (.store task.queueMessage.messageId image)
      ((ledger state).store task.queueMessage.messageId image) := by
    apply Ledger.Step.store
    · exact ⟨task.queueMessage, backed.sent, rfl⟩
    · exact ⟨known.1, known.2.trans backed.response⟩
  simp only [Ledger.store, ← stored] at step
  exact step

/-- A delete that takes effect acknowledges a stored result. -/
theorem ledger_delete {messageId : String}
    (stored : (state.bucket (filename messageId)).isSome) :
    Ledger.Step (ledger state) (.acknowledge messageId)
      (ledger (state.deleteMessage messageId)) := by
  have acknowledged : {other | other ∈ messageId :: state.deleted} =
      insert messageId (ledger state).acknowledged := by
    ext other
    simp [ledger]
  simp only [ledger, State.deleteMessage, entries_filter, acknowledged]
  apply Ledger.Step.acknowledge
  simpa using stored

/-- Every exception inside the `try` is internal: the message stays queued. -/
theorem ledger_tryRaises (index : Nat) (task : Task Pixels) (failure : Failure) :
    ∃ events, Ledger.system.Run (ledger state) events
      (ledger (state.tryRaises index task failure)) := by
  cases failure with
  | backPressureError => exact ledger_internal rfl rfl rfl rfl rfl
  | other => exact ledger_internal rfl rfl rfl rfl rfl

/-- The `else` clause acknowledges, or it is internal when its delete raises
before reaching SQS. -/
theorem ledger_elseClause (index : Nat) {task : Task Pixels}
    (delete : DeleteOutcome)
    (stored : (state.bucket (filename task.queueMessage.messageId)).isSome) :
    ∃ events, Ledger.system.Run (ledger state) events
      (ledger (state.elseClause index task delete)) := by
  have acknowledges : ∀ after : State Pixels,
      ledger after = ledger (state.deleteMessage task.queueMessage.messageId) →
      ∃ events, Ledger.system.Run (ledger state) events (ledger after) := by
    intro after same
    rw [same]
    exact ⟨_, .single (ledger_delete stored)⟩
  cases delete with
  | succeeds => exact acknowledges _ (ledger_congr rfl rfl rfl rfl rfl)
  | raises failure tookEffect =>
      cases tookEffect with
      | false => exact ledger_internal rfl rfl rfl rfl rfl
      | true => exact acknowledges _ (ledger_congr rfl rfl rfl rfl rfl)

/-- Every move of the poller is a run of the ledger. -/
theorem ledger_moves (justified : Justified state)
    (moves : Moves state action next) :
    ∃ events, Ledger.system.Run (ledger state) events (ledger next) := by
  cases moves with
  | send fresh => exact ⟨_, .single (ledger_send fresh)⟩
  | pollWakes =>
      unfold State.checkShutdown
      split
      · exact ledger_internal rfl rfl rfl rfl rfl
      · exact ledger_internal rfl rfl rfl rfl rfl
  | receiveReturns => exact ledger_internal rfl rfl rfl rfl rfl
  | receiveRaises => exact ledger_internal rfl rfl rfl rfl rfl
  | dispatch => exact ledger_internal rfl rfl rfl rfl rfl
  | receiveFailed => exact ledger_internal rfl rfl rfl rfl rfl
  | responseReturns => exact ⟨_, .single (ledger_response _ _ _)⟩
  | responseRaises => exact ledger_tryRaises _ _ _
  | putLands suspended =>
      have backed := justified.tasks _ (List.mem_of_getElem? suspended)
      exact ⟨_, .single (ledger_upload backed rfl _)⟩
  | uploadReturns suspended =>
      have backed := justified.tasks _ (List.mem_of_getElem? suspended)
      exact ledger_elseClause _ _ (backed.landed _ rfl)
  | uploadRaises => exact ledger_tryRaises _ _ _
  | shutdownRequested => exact ledger_internal rfl rfl rfl rfl rfl
  | drainWakes => exact ledger_internal rfl rfl rfl rfl rfl

/-- The poller refines at-least-once delivery. -/
def refinesLedger : System.Simulation (poller Pixels)
    (Ledger.system : System (Ledger String String (Image Pixels)) _) where
  view := ledger
  initial start := by
    cases start
    simp [Ledger.system, ledger, State.initial, Ledger.empty, entries]
  step reached taken :=
    ledger_moves (justified_of_reachable reached) (moves_of_step taken)

/-- What at-least-once delivery means for the queue and the bucket. -/
structure DeliveredAtLeastOnce (state : State Pixels) : Prop where
  /-- A message whose delete took effect has its image in the bucket, and the
  model returned that image for the message's body. -/
  deleted : ∀ messageId ∈ state.deleted, ∃ message ∈ state.sent,
    message.messageId = messageId ∧
      ∃ object, state.bucket (filename messageId) = some object ∧
        object.image ∈ state.returned ∧ object.image.prompt = message.body
  /-- An object of the bucket belongs to a message, -/
  files : ∀ key object, state.bucket key = some object →
    ∃ message ∈ state.sent, key = filename message.messageId
  /-- and holds a result of that message's body. -/
  own : ∀ message ∈ state.sent, ∀ object,
    state.bucket (filename message.messageId) = some object →
      object.image ∈ state.returned ∧ object.image.prompt = message.body
  /-- Every other message is still queued. -/
  queued : ∀ message ∈ state.sent,
    message.messageId ∉ state.deleted → message ∈ state.queue

theorem mem_of_entry {messages : List Message} {message : Message}
    (entry : (message.messageId, message.body) ∈ entries messages) :
    message ∈ messages := by
  rcases entry with ⟨source, known, same⟩
  have equal : source = message := by
    cases source
    cases message
    simpa using same
  exact equal ▸ known

/-- In every reachable state the poller has delivered at least once. -/
theorem deliveredAtLeastOnce {state : State Pixels}
    (reachable : (poller Pixels).Reachable state) :
    DeliveredAtLeastOnce state := by
  have justified := justified_of_reachable reachable
  have sound := Ledger.sound_of_reachable (refinesLedger.reachable reachable)
  have own : ∀ message ∈ state.sent, ∀ object,
      state.bucket (filename message.messageId) = some object →
        object.image ∈ state.returned ∧ object.image.prompt = message.body := by
    intro message known object present
    have stored : (ledger state).stored message.messageId = some object.image := by
      simp [ledger, present]
    rcases sound.own stored with ⟨request, offered, produced⟩
    have same : request = message.body :=
      sound.functional offered ⟨message, known, rfl⟩
    exact ⟨produced.1, produced.2.trans same⟩
  constructor
  · intro messageId deleted
    rcases sound.known deleted with ⟨request, message, known, same⟩
    have sameId : message.messageId = messageId := congrArg Prod.fst same
    have stored : ((ledger state).stored messageId).isSome := sound.kept deleted
    simp only [ledger, Option.isSome_map] at stored
    rcases Option.isSome_iff_exists.mp stored with ⟨object, present⟩
    exact ⟨message, known, sameId, object, present,
      own message known object (sameId.symm ▸ present)⟩
  · exact justified.files
  · exact own
  · intro message known retained
    apply mem_of_entry
    exact (sound.outstanding (message.messageId, message.body)).mpr
      ⟨⟨message, known, rfl⟩, retained⟩

/-- A message is processed after its first delivery was rejected. -/
def rejectedThenProcessed : List (Action Unit) :=
  [.send ⟨"a", "prompt"⟩, .pollWakes, .receiveReturns [⟨"a", "prompt"⟩],
    .pollResumes fun _ => none, .responseRaises 0 .backPressureError, .pollWakes,
    .receiveReturns [⟨"a", "prompt"⟩], .pollResumes fun _ => none,
    .responseReturns 1 (), .putLands 1, .uploadReturns 1 .succeeds]

theorem deliveredAtLeastOnce_rejectedThenProcessed :
    ∃ state, System.execute State.step .initial rejectedThenProcessed =
        some state ∧
      state.deleted = ["a"] ∧ DeliveredAtLeastOnce state :=
  ⟨_, rfl, rfl, deliveredAtLeastOnce
    (System.reachable_of_execute rejectedThenProcessed rfl)⟩

end DistributedInference.StreamProcessing
