import DistributedInference.Transition.Registry
import DistributedInference.Transition.System
import Mathlib.Algebra.Order.Ring.Nat

/-!
# The queue poller

`QueuePoller` adapts an SQS queue to a Serve model handle.  Its coroutines are
the poll loop `run`, one `process_finished_request` task for each message handed
to the model, and the shutdown coroutine `__del__`.  They share one event loop,
so each runs without interruption from one `await` to the next; a step of the
system below is one such stretch, or one move of a service outside the replica.

The state keeps the poller's own attributes beside the services it talks to, and
the histories that the correctness statements speak about: the messages ever
sent, the ids whose delete took effect, the images the model ever returned and
the messages ever handed to the model.
-/

namespace DistributedInference.StreamProcessing

open Transition

/-- An SQS message.  A redelivery carries the same id and body. -/
structure Message where
  messageId : String
  body : String
  deriving DecidableEq, Repr

/-- Exceptions, as far as `except BackPressureError` tells them apart. -/
inductive Failure where
  | backPressureError
  | other
  deriving DecidableEq, Repr

/-- An image returned by the model, with the prompt of the call that made it. -/
structure Image (Pixels : Type) where
  prompt : String
  pixels : Pixels
  deriving DecidableEq, Repr

/-- An object of the bucket. -/
structure S3Object (Pixels : Type) where
  image : Image Pixels
  contentType : String
  deriving DecidableEq, Repr

/-- How a `process_finished_request` task ended. -/
inductive TaskResult where
  /-- The `else` clause ran to its end. -/
  | processed
  /-- `BackPressureError` was caught. -/
  | rejected
  /-- An exception left the coroutine. -/
  | raised (failure : Failure)
  /-- The `del` of the `finally` clause found no key. -/
  | missingKey
  deriving DecidableEq, Repr

/-- Where a `process_finished_request` task is suspended. -/
inductive TaskPhase (Pixels : Type) where
  /-- Created, or in `await response`. -/
  | awaitingResponse
  /-- In `await run_in_executor(_upload_to_s3)`; `landed` once the put is done. -/
  | uploading (image : Image Pixels) (landed : Bool)
  | finished (result : TaskResult)
  deriving DecidableEq, Repr

/-- One `process_finished_request(response, queue_message)` task.  The response
is named by the body that was passed to `model_handle.remote`. -/
structure Task (Pixels : Type) where
  response : String
  queueMessage : Message
  phase : TaskPhase Pixels
  deriving DecidableEq, Repr

namespace Task

variable {Pixels : Type}

/-- The task `run` creates for a message. -/
def created (message : Message) : Task Pixels where
  response := message.body
  queueMessage := message
  phase := .awaitingResponse

def finish (task : Task Pixels) (result : TaskResult) : Task Pixels :=
  { task with phase := .finished result }

/-- The message id of a task until it has finished. -/
def running (task : Task Pixels) : Option String :=
  match task.phase with
  | .finished _ => none
  | _ => some task.queueMessage.messageId

@[simp] theorem running_created (message : Message) :
    (created message : Task Pixels).running = some message.messageId := rfl

@[simp] theorem running_finish (task : Task Pixels) (result : TaskResult) :
    (task.finish result).running = none := rfl

/-- The coroutine has neither returned nor raised. -/
def Unfinished (task : Task Pixels) : Prop :=
  ∀ result, task.phase ≠ .finished result

theorem running_eq_some_iff (task : Task Pixels) (messageId : String) :
    task.running = some messageId ↔
      task.queueMessage.messageId = messageId ∧ task.Unfinished := by
  cases task with
  | mk response message phase =>
      cases phase <;> simp [running, Unfinished]

end Task

/-- Where the poll loop `run` is suspended. -/
inductive PollPhase where
  /-- The task is created and has not run yet. -/
  | scheduled
  /-- `receive_messages` runs in the executor; `gone` are the ids whose delete
  had taken effect when the call started. -/
  | receiving (gone : List String)
  /-- The executor call is over and `run` has not resumed yet. -/
  | received (outcome : Except Failure (List Message))
  /-- In `asyncio.sleep`. -/
  | sleeping (milliseconds : Nat)
  /-- The coroutine returned, or an exception left it. -/
  | ended (raised : Option Failure)
  deriving DecidableEq

/-- Where the shutdown coroutine `__del__` is suspended. -/
inductive DrainPhase where
  | idle
  | waiting
  | returned
  deriving DecidableEq, Repr

/-- What `queue_message.delete()` does.  A call that raises may still have
reached SQS. -/
inductive DeleteOutcome where
  | succeeds
  | raises (failure : Failure) (tookEffect : Bool)
  deriving DecidableEq, Repr

/-- The poller, the services it uses, and their histories. -/
structure State (Pixels : Type) where
  sent : List Message
  queue : List Message
  deleted : List String
  bucket : String → Option (S3Object Pixels)
  returned : List (Image Pixels)
  handed : List Message
  /-- `processing_requests` and the tasks it points to. -/
  inFlight : Registry String (Task Pixels)
  backpressureCounter : Nat
  shutdownEvent : Bool
  poll : PollPhase
  drain : DrainPhase

/-- One move of the environment or one uninterrupted stretch of a coroutine. -/
inductive Action (Pixels : Type) where
  /-- A producer sends a message. -/
  | send (message : Message)
  /-- `run` starts or wakes from its sleep and checks the event. -/
  | pollWakes
  | receiveReturns (messages : List Message)
  | receiveRaises (failure : Failure)
  /-- `run` resumes after its receive.  `remote` says which of the model handle
  calls it now makes raise. -/
  | pollResumes (remote : String → Option Failure)
  | responseReturns (index : Nat) (pixels : Pixels)
  | responseRaises (index : Nat) (failure : Failure)
  /-- The put of an upload takes effect in S3. -/
  | putLands (index : Nat)
  | uploadReturns (index : Nat) (delete : DeleteOutcome)
  | uploadRaises (index : Nat) (failure : Failure)
  /-- Serve calls `__del__`. -/
  | shutdownRequested
  /-- `__del__` wakes from its sleep. -/
  | drainWakes

/-- `MaxNumberOfMessages` of the receive call. -/
def maxNumberOfMessages : Nat := 10

/-- The key of a message's result in the bucket. -/
def filename (messageId : String) : String :=
  "image_" ++ messageId ++ ".png"

/-- The sleep at the end of one round of `run`, in milliseconds. -/
def pollDelay (backpressureCounter : Nat) : Nat :=
  if backpressureCounter = 0 then 100
  else 1000 * min 10 (2 ^ backpressureCounter)

section Functions

variable {Pixels : Type}

/-- `_upload_to_s3`: put the encoded image under the message's file name. -/
def uploadToS3 (bucket : String → Option (S3Object Pixels))
    (image : Image Pixels) (messageId : String) :
    String → Option (S3Object Pixels) :=
  Function.update bucket (filename messageId)
    (some { image := image, contentType := "image/png" })

/-- What the `for` loop over one batch does: the registry after it, the messages
it handed to the model in order, and the exception that left it. -/
structure Dispatch (Pixels : Type) where
  inFlight : Registry String (Task Pixels)
  handed : List Message
  raised : Option Failure

/-- The `for` loop of `run` over a received batch. -/
def forward (remote : String → Option Failure)
    (inFlight : Registry String (Task Pixels)) :
    List Message → Dispatch Pixels
  | [] => ⟨inFlight, [], none⟩
  | message :: rest =>
      if message.messageId ∈ inFlight.table then
        forward remote inFlight rest
      else
        match remote message.messageId with
        | some failure => ⟨inFlight, [message], some failure⟩
        | none =>
            let later := forward remote
              (inFlight.start message.messageId (Task.created message)) rest
            { later with handed := message :: later.handed }

/-- The `finally` clause: `del self.processing_requests[message_id]`. -/
def release (inFlight : Registry String (Task Pixels)) (index : Nat)
    (task : Task Pixels) (result : TaskResult) :
    Registry String (Task Pixels) :=
  if task.queueMessage.messageId ∈ inFlight.table then
    inFlight.retire index (task.finish result) task.queueMessage.messageId
  else
    inFlight.advance index (task.finish .missingKey)

end Functions

namespace State

variable {Pixels : Type}

/-- A replica whose constructor has just scheduled `run`. -/
def initial : State Pixels where
  sent := []
  queue := []
  deleted := []
  bucket := fun _ => none
  returned := []
  handed := []
  inFlight := .empty
  backpressureCounter := 0
  shutdownEvent := false
  poll := .scheduled
  drain := .idle

/-- The head of `while not self.shutdown_event.is_set()`. -/
def checkShutdown (state : State Pixels) : State Pixels :=
  if state.shutdownEvent then { state with poll := .ended none }
  else { state with poll := .receiving state.deleted }

/-- `run` from the end of its receive to its sleep. -/
def dispatch (state : State Pixels) (remote : String → Option Failure)
    (messages : List Message) : State Pixels :=
  let dispatched := forward remote state.inFlight messages
  { state with
    inFlight := dispatched.inFlight
    handed := state.handed ++ dispatched.handed
    poll :=
      match dispatched.raised with
      | some failure => .ended (some failure)
      | none => .sleeping (pollDelay state.backpressureCounter) }

/-- An exception inside the `try` of `process_finished_request`. -/
def tryRaises (state : State Pixels) (index : Nat) (task : Task Pixels) :
    Failure → State Pixels
  | .backPressureError =>
      { state with
        backpressureCounter := state.backpressureCounter + 1
        inFlight := release state.inFlight index task .rejected }
  | .other =>
      { state with
        inFlight := release state.inFlight index task (.raised .other) }

/-- SQS drops a message. -/
def deleteMessage (state : State Pixels) (messageId : String) : State Pixels :=
  { state with
    queue := state.queue.filter fun message => message.messageId ≠ messageId
    deleted := messageId :: state.deleted }

/-- The `else` clause of `process_finished_request`, and its `finally`. -/
def elseClause (state : State Pixels) (index : Nat) (task : Task Pixels)
    (delete : DeleteOutcome) : State Pixels :=
  let reset := { state with backpressureCounter := 0 }
  match delete with
  | .succeeds =>
      { reset.deleteMessage task.queueMessage.messageId with
        inFlight := release state.inFlight index task .processed }
  | .raises failure true =>
      { reset.deleteMessage task.queueMessage.messageId with
        inFlight := release state.inFlight index task (.raised failure) }
  | .raises failure false =>
      { reset with
        inFlight := release state.inFlight index task (.raised failure) }

/-- The head of `while self.processing_requests` in `__del__`. -/
def checkDrained (state : State Pixels) : State Pixels :=
  { state with
    drain := if state.inFlight.table.keys = [] then .returned else .waiting }

/-- The step function; `none` when the action is not enabled. -/
def step (state : State Pixels) : Action Pixels → Option (State Pixels)
  | .send message =>
      if message.messageId ∈ state.sent.map Message.messageId then none
      else
        some { state with
          sent := state.sent ++ [message]
          queue := state.queue ++ [message] }
  | .pollWakes =>
      match state.poll with
      | .scheduled | .sleeping _ => some state.checkShutdown
      | _ => none
  | .receiveReturns messages =>
      match state.poll with
      | .receiving gone =>
          -- SQS returns no message whose delete preceded the call.
          if messages.length ≤ maxNumberOfMessages ∧
              ∀ message ∈ messages,
                message ∈ state.sent ∧ message.messageId ∉ gone then
            some { state with poll := .received (.ok messages) }
          else none
      | _ => none
  | .receiveRaises failure =>
      match state.poll with
      | .receiving _ => some { state with poll := .received (.error failure) }
      | _ => none
  | .pollResumes remote =>
      match state.poll with
      | .received (.ok messages) => some (state.dispatch remote messages)
      | .received (.error failure) =>
          some { state with poll := .ended (some failure) }
      | _ => none
  | .responseReturns index pixels =>
      match state.inFlight.jobs[index]? with
      | some ⟨response, message, .awaitingResponse⟩ =>
          some { state with
            returned := state.returned ++ [⟨response, pixels⟩]
            inFlight := state.inFlight.advance index
              ⟨response, message, .uploading ⟨response, pixels⟩ false⟩ }
      | _ => none
  | .responseRaises index failure =>
      match state.inFlight.jobs[index]? with
      | some ⟨response, message, .awaitingResponse⟩ =>
          some (state.tryRaises index ⟨response, message, .awaitingResponse⟩
            failure)
      | _ => none
  | .putLands index =>
      match state.inFlight.jobs[index]? with
      | some ⟨response, message, .uploading image false⟩ =>
          some { state with
            bucket := uploadToS3 state.bucket image message.messageId
            inFlight := state.inFlight.advance index
              ⟨response, message, .uploading image true⟩ }
      | _ => none
  | .uploadReturns index delete =>
      match state.inFlight.jobs[index]? with
      | some ⟨response, message, .uploading image true⟩ =>
          some (state.elseClause index ⟨response, message, .uploading image true⟩
            delete)
      | _ => none
  | .uploadRaises index failure =>
      match state.inFlight.jobs[index]? with
      | some ⟨response, message, .uploading image landed⟩ =>
          some (state.tryRaises index
            ⟨response, message, .uploading image landed⟩ failure)
      | _ => none
  | .shutdownRequested =>
      match state.drain with
      | .idle => some { state with shutdownEvent := true }.checkDrained
      | _ => none
  | .drainWakes =>
      match state.drain with
      | .waiting => some state.checkDrained
      | _ => none

end State

/-- The poller with its environment. -/
def poller (Pixels : Type) : System (State Pixels) (Action Pixels) :=
  .ofFunction .initial State.step

end DistributedInference.StreamProcessing
