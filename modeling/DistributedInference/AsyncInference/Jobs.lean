import DistributedInference.AsyncInference.Client
import DistributedInference.AsyncInference.Scorer
import DistributedInference.Delivery.TaskQueue

/-!
# The job service

`AsyncScoringAPI` puts the jobs that are posted into a task queue, and the replicas of
`Scorer` take them from there; both are built from one configuration.  A client gets a
ticket for its job and reads the state of the ticket from the store.

The queue is not under the control of the application: messages may be delivered again
and workers may be lost, in any order.  It is a parameter, and what is assumed of it is
`TaskQueue.Laws`, with the handler of the replicas.
-/

namespace DistributedInference.AsyncInference

open Delivery Python Transition

/-! ## The configuration of the queue -/

/-- `max_retries` of `build_config`. -/
def MAX_RETRIES : Nat := 3

def QUEUE_NAME : String := "score_jobs"

/-- `pathlib.Path(queue_root) / name`. -/
structure Folder where
  queueRoot : String
  name : String
  deriving DecidableEq, Repr

/-- `broker_transport_options`. -/
structure BrokerTransportOptions where
  dataFolderIn : Folder
  dataFolderOut : Folder
  processedFolder : Folder
  storeProcessed : Bool
  deriving DecidableEq, Repr

/-- `CeleryAdapterConfig`; the `backend_url` is a `file://` url of a folder. -/
structure CeleryAdapterConfig where
  brokerUrl : String
  backendUrl : Folder
  brokerTransportOptions : BrokerTransportOptions
  deriving DecidableEq, Repr

structure TaskProcessorConfig where
  queueName : String
  adapterConfig : CeleryAdapterConfig
  maxRetries : Nat
  failedTaskQueueName : String
  deriving DecidableEq, Repr

def buildConfig (queueRoot : String) : TaskProcessorConfig where
  queueName := QUEUE_NAME
  adapterConfig :=
    { brokerUrl := "filesystem://"
      backendUrl := ⟨queueRoot, "results"⟩
      brokerTransportOptions :=
        { dataFolderIn := ⟨queueRoot, "in"⟩
          dataFolderOut := ⟨queueRoot, "out"⟩
          processedFolder := ⟨queueRoot, "processed"⟩
          storeProcessed := true } }
  maxRetries := MAX_RETRIES
  failedTaskQueueName := QUEUE_NAME ++ "_dlq"

/-! ## The two halves of the application -/

/-- The `kwargs` of a task `score_batch`. -/
structure ScoreJob where
  userId : String
  numCandidates : Option Nat
  deriving DecidableEq, Repr

/-- `ScoreRequest`, with the bound that its field is validated against. -/
structure ScoreRequest where
  userId : String
  numCandidates : Option Nat
  numCandidates_ge : ∀ count, numCandidates = some count → 1 ≤ count

namespace ScoreRequest

/-- The body of a POST; `none` if the validation fails. -/
def validate (userId : String) : Option Int → Option ScoreRequest
  | none => some ⟨userId, none, fun _ absurdly => nomatch absurdly⟩
  | some count =>
      if positive : 1 ≤ count then
        some ⟨userId, some count.toNat, fun other same => by
          cases same
          omega⟩
      else none

/-- What `submit` enqueues. -/
def kwargs (request : ScoreRequest) : ScoreJob where
  userId := request.userId
  numCandidates := request.numCandidates

end ScoreRequest

/-- `AsyncInferenceArgs`. -/
structure AsyncInferenceArgs where
  defaultCandidates : Nat
  defaultCandidates_ge : 1 ≤ defaultCandidates

/-- `AsyncInferenceArgs()`. -/
def AsyncInferenceArgs.default : AsyncInferenceArgs where
  defaultCandidates := 50000
  defaultCandidates_ge := by decide

/-- The `Scorer` that every replica constructs. -/
def AsyncInferenceArgs.scorer (args : AsyncInferenceArgs) (torch : Torch) : Scorer :=
  .init torch args.defaultCandidates

/-- `score_batch` of a replica, called with the `kwargs` of a task. -/
def scoreBatch (torch : Torch) (args : AsyncInferenceArgs) (job : ScoreJob)
    (elapsed : ℚ) : Except ScoreError (Summary × ℚ) :=
  (args.scorer torch).scoreBatch torch job.userId job.numCandidates elapsed

/-- The broker and the result store. -/
abbrev JobQueue := TaskQueue String ScoreJob (Summary × ℚ)

abbrev JobEvent := TaskEvent String ScoreJob ℚ

/-- Celery, with the replicas that it hands the tasks to. -/
abbrev Celery := TaskQueue.Stepper String ScoreJob (Summary × ℚ) ℚ

/-- Celery's names of the states. -/
def statusName {Result : Type} : TaskStatus Result → String
  | .pending => "PENDING"
  | .started => "STARTED"
  | .retry => "RETRY"
  | .success _ => "SUCCESS"
  | .failure => "FAILURE"
  | .revoked => "REVOKED"

/-- The `result` of a task: what the handler has returned, or what the store keeps beside
another state, such as the process that has started the task or the exception that has
ended it. -/
inductive TaskResult (Info : Type) where
  | returned (result : Summary × ℚ)
  | other (info : Info)
  deriving DecidableEq

/-- What the result store keeps of a task that has not succeeded. -/
structure ResultBackend (Info : Type) where
  info : JobQueue → String → Option Info
  info_pending : ∀ queue taskId, queue.status taskId = .pending → info queue taskId = none

/-- What `enqueue_task_sync` returns: the id, and the state that the store has by then. -/
structure EnqueuedTask where
  id : String
  status : String
  deriving DecidableEq, Repr

/-- The answer to a POST. -/
structure Accepted where
  taskId : String
  status : String
  deriving DecidableEq, Repr

structure HTTPException where
  statusCode : Nat
  detail : String
  deriving DecidableEq, Repr

/-- How `cancel_task_sync` ends. -/
inductive CancelOutcome where
  | succeeds
  | raises (detail : String) (tookEffect : Bool)
  deriving DecidableEq, Repr

namespace AsyncScoringAPI

/-- `submit`: the answer, and the queue behind it. -/
def submit (celery : Celery) (queue : JobQueue) (request : ScoreRequest)
    (task : EnqueuedTask) : Option (Accepted × JobQueue) :=
  (celery queue (.enqueue task.id request.kwargs)).map (⟨task.id, task.status⟩, ·)

/-- `status`. -/
def status {Info : Type} (backend : ResultBackend Info) (queue : JobQueue)
    (taskId : String) : Payload (TaskResult Info) where
  taskId := taskId
  status := statusName (queue.status taskId)
  result :=
    match queue.status taskId with
    | .success result => some (.returned result)
    | _ => (backend.info queue taskId).map .other

/-- `cancel`: the `task_id` and `status` of the answer, and the queue behind it. -/
def cancel (celery : Celery) (queue : JobQueue) (taskId : String) :
    CancelOutcome → Option (Except HTTPException (String × String) × JobQueue)
  | .succeeds =>
      (celery queue (.withdraw taskId)).map (.ok (taskId, "CANCELLED"), ·)
  | .raises detail true =>
      (celery queue (.withdraw taskId)).map (.error ⟨409, detail⟩, ·)
  | .raises detail false => some (.error ⟨409, detail⟩, queue)

end AsyncScoringAPI

/-! ## The application -/

/-- What changes the queue: requests to the ingress, and what the broker and the
replicas do.  A GET only reads. -/
inductive ServiceEvent where
  | post (userId : String) (numCandidates : Option Int) (task : EnqueuedTask)
  | delete (taskId : String) (outcome : CancelOutcome)
  | work (event : JobEvent)

section Service

variable (celery : Celery)

/-- The step function; `none` when the event cannot happen. -/
def serviceStep (queue : JobQueue) : ServiceEvent → Option JobQueue
  | .post userId numCandidates task =>
      match ScoreRequest.validate userId numCandidates with
      | none => some queue
      | some request => (AsyncScoringAPI.submit celery queue request task).map Prod.snd
  | .delete taskId outcome =>
      (AsyncScoringAPI.cancel celery queue taskId outcome).map Prod.snd
  | .work event => if event.isWork then celery queue event else none

/-- `build_app`, with its clients and the queue. -/
def service : System JobQueue ServiceEvent :=
  .ofFunction .empty (serviceStep celery)

end Service

/-- What is assumed of Celery. -/
abbrev CeleryLaws (torch : Torch) (args : AsyncInferenceArgs) (celery : Celery) : Prop :=
  TaskQueue.Laws (scoreBatch torch args) MAX_RETRIES celery

/-- Celery as `CeleryLaws` has it, with its two ends connected or not. -/
def lawfulCelery (connected : Bool) (torch : Torch) (args : AsyncInferenceArgs) : Celery :=
  TaskQueue.lawful connected (scoreBatch torch args) MAX_RETRIES

end DistributedInference.AsyncInference
