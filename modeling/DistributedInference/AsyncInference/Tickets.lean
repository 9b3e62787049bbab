import DistributedInference.AsyncInference.Jobs
import DistributedInference.Transition.Timeline

/-!
# Tickets are answered with their own scores

Whatever happens to the messages of the queue, a ticket is only ever answered with the
scores of the job that it was given for: the replicas build one and the same scorer, and
its handler never raises, so that it does not matter which of them runs a job and how
often.  No job is lost, none is tried again, and only a client can withdraw one.  That a
job gets on at all is up to the broker.

It follows what a client reads that polls for its ticket.
-/

namespace DistributedInference.AsyncInference

open Delivery Python Transition

section

variable {torch : Torch} {args : AsyncInferenceArgs} {celery : Celery}
variable {queue start finish : JobQueue} {events : List ServiceEvent}
variable {taskId userId : String} {numCandidates : Option Int} {request : ScoreRequest}
variable {task : EnqueuedTask} {Info : Type} {backend : ResultBackend Info}

/-! ## The service as a queue -/

/-- What an event of the service means for the queue. -/
inductive Serves (celery : Celery) (queue : JobQueue) : ServiceEvent → JobQueue → Prop
  | refused {userId : String} {numCandidates : Option Int} {task : EnqueuedTask}
      (invalid : ScoreRequest.validate userId numCandidates = none) :
      Serves celery queue (.post userId numCandidates task) queue
  | enqueued {userId : String} {numCandidates : Option Int} {task : EnqueuedTask}
      {request : ScoreRequest} {next : JobQueue}
      (valid : ScoreRequest.validate userId numCandidates = some request)
      (taken : celery queue (.enqueue task.id request.kwargs) = some next) :
      Serves celery queue (.post userId numCandidates task) next
  | withdrawn {taskId : String} {outcome : CancelOutcome} {next : JobQueue}
      (taken : celery queue (.withdraw taskId) = some next) :
      Serves celery queue (.delete taskId outcome) next
  | ignored {taskId : String} {outcome : CancelOutcome} :
      Serves celery queue (.delete taskId outcome) queue
  | worked {event : JobEvent} {next : JobQueue} (work : event.isWork = true)
      (taken : celery queue event = some next) : Serves celery queue (.work event) next

theorem serves_of_step {next : JobQueue} {event : ServiceEvent}
    (taken : serviceStep celery queue event = some next) :
    Serves celery queue event next := by
  cases event with
  | post userId numCandidates task =>
      rw [serviceStep] at taken
      split at taken
      next invalid =>
        cases taken
        exact .refused invalid
      next request valid =>
        rw [AsyncScoringAPI.submit, Option.map_map, Option.map_eq_some_iff] at taken
        rcases taken with ⟨_, taken, rfl⟩
        exact .enqueued valid taken
  | delete taskId outcome =>
      rw [serviceStep, AsyncScoringAPI.cancel.eq_def] at taken
      split at taken
      case h_1 | h_2 =>
        rw [Option.map_map, Option.map_eq_some_iff] at taken
        rcases taken with ⟨_, taken, rfl⟩
        exact .withdrawn taken
      case h_3 =>
        cases taken
        exact .ignored
  | work event =>
      rw [serviceStep, Option.ite_none_right_eq_some] at taken
      exact .worked taken.1 taken.2

theorem celery_run_of_run (run : (service celery).Run start events finish) :
    ∃ labels, (TaskQueue.system celery).Run start labels finish := by
  induction run with
  | nil queue => exact ⟨[], .nil queue⟩
  | cons taken _ ih =>
      rcases ih with ⟨labels, later⟩
      cases serves_of_step taken with
      | refused | ignored => exact ⟨labels, later⟩
      | enqueued _ taken | withdrawn taken | worked _ taken => exact ⟨_, .cons taken later⟩

theorem celery_reachable (reachable : (service celery).Reachable queue) :
    (TaskQueue.system celery).Reachable queue := by
  rcases reachable with ⟨start, events, initial, run⟩
  rcases celery_run_of_run run with ⟨labels, same⟩
  exact ⟨start, labels, initial, same⟩

theorem soundAt_of_service (laws : CeleryLaws torch args celery)
    (reachable : (service celery).Reachable queue) (taskId : String) :
    TaskQueue.SoundAt (scoreBatch torch args) MAX_RETRIES queue taskId :=
  TaskQueue.soundAt_of_reachable laws (celery_reachable reachable) taskId

theorem extends_of_service_run (laws : CeleryLaws torch args celery)
    (run : (service celery).Run start events finish) : start.Extends finish := by
  rcases celery_run_of_run run with ⟨labels, same⟩
  exact TaskQueue.extends_of_run laws same

theorem scoreBatch_total (torch : Torch) (args : AsyncInferenceArgs) (job : ScoreJob)
    (elapsed : ℚ) : ∃ result, scoreBatch torch args job elapsed = .ok result := by
  rcases Scorer.scoreBatch_handles torch args.defaultCandidates job.userId
    job.numCandidates elapsed with ⟨summary, returned, _⟩
  exact ⟨_, returned⟩

theorem not_raises (torch : Torch) (args : AsyncInferenceArgs) (job : ScoreJob) :
    ¬ TaskQueue.Raises (scoreBatch torch args) job := by
  intro raises
  rcases raises with ⟨elapsed, error, raised⟩
  rcases scoreBatch_total torch args job elapsed with ⟨result, returned⟩
  cases raised.symm.trans returned

/-- The candidates of a request. -/
def ScoreRequest.candidates (args : AsyncInferenceArgs) (request : ScoreRequest) : Nat :=
  request.numCandidates.getD args.defaultCandidates

/-- A summary is the one that belongs to a request. -/
structure OwnSummary (torch : Torch) (args : AsyncInferenceArgs) (request : ScoreRequest)
    (summary : Summary) : Prop where
  scores : (ScorerLogic.init torch).score torch request.userId (request.candidates args) =
    .ok summary
  userId : summary.userId = request.userId
  scored : summary.scored = request.candidates args
  top : summary.topIndices.length = min 5 (request.candidates args) ∧
    summary.topScores.length = min 5 (request.candidates args)

/-- The answer to a GET that has the scores of a request. -/
def Scored (torch : Torch) (args : AsyncInferenceArgs) (request : ScoreRequest)
    (taskId : String) (payload : Payload (TaskResult Info)) : Prop :=
  ∃ result, payload = ⟨taskId, "SUCCESS", some (.returned result)⟩ ∧
    OwnSummary torch args request result.1

theorem Scored.done {payload : Payload (TaskResult Info)}
    (scored : Scored torch args request taskId payload) : payload.Done := by
  rcases scored with ⟨result, rfl, _⟩
  exact List.mem_cons_self

theorem done_status_iff (backend : ResultBackend Info) :
    (AsyncScoringAPI.status backend queue taskId).Done ↔ (queue.status taskId).Done := by
  simp only [AsyncScoringAPI.status, Payload.Done, DONE_STATES]
  cases queue.status taskId <;> simp [statusName, TaskStatus.Done]

theorem status_of_pending (backend : ResultBackend Info)
    (pending : queue.status taskId = .pending) :
    AsyncScoringAPI.status backend queue taskId = ⟨taskId, "PENDING", none⟩ := by
  simp [AsyncScoringAPI.status, pending, statusName, backend.info_pending queue taskId pending]

theorem status_of_success (backend : ResultBackend Info) {result : Summary × ℚ}
    (success : queue.status taskId = .success result) :
    AsyncScoringAPI.status backend queue taskId =
      ⟨taskId, "SUCCESS", some (.returned result)⟩ := by
  simp [AsyncScoringAPI.status, success, statusName]

/-- A job that nobody withdraws can only end with a success. -/
theorem exists_success_of_done (laws : CeleryLaws torch args celery)
    (reachable : (service celery).Reachable queue) (kept : taskId ∉ queue.withdrawn)
    (done : (queue.status taskId).Done) :
    ∃ result, queue.status taskId = .success result := by
  have explained := (soundAt_of_service laws reachable taskId).explained
  cases state : queue.status taskId with
  | success result => exact ⟨result, rfl⟩
  | failure =>
      rw [state] at explained
      rcases explained with ⟨job, _, raises⟩
      exact absurd raises (not_raises torch args job)
  | revoked =>
      rw [state] at explained
      exact absurd explained kept
  | pending | started | retry =>
      rw [state] at done
      exact done.elim

/-- The filesystem transport puts messages into `data_folder_out` and gets them from
`data_folder_in`.  Two ends with the same options do not meet where these differ. -/
def ThroughFolders (celery : Celery) (options : BrokerTransportOptions) : Prop :=
  options.dataFolderOut ≠ options.dataFolderIn → TaskQueue.Undelivered celery

theorem throughFolders_lawfulCelery (options : BrokerTransportOptions) :
    ThroughFolders
      (lawfulCelery (options.dataFolderOut = options.dataFolderIn) torch args) options := by
  intro differ
  rw [decide_eq_false differ]
  exact TaskQueue.undelivered_lawful

/-- As `build_config` has the folders, no answer is ever more than pending. -/
theorem pending_of_buildConfig (laws : CeleryLaws torch args celery)
    (backend : ResultBackend Info) (queueRoot : String)
    (folders : ThroughFolders celery
      (buildConfig queueRoot).adapterConfig.brokerTransportOptions)
    (reachable : (service celery).Reachable queue) (taskId : String) :
    AsyncScoringAPI.status backend queue taskId = ⟨taskId, "PENDING", none⟩ := by
  have apart : Folder.mk queueRoot "out" ≠ ⟨queueRoot, "in"⟩ := by simp
  exact status_of_pending backend
    (TaskQueue.pending_of_undelivered laws (folders apart) (celery_reachable reachable)
      taskId)

end

section Polling

variable {torch : Torch} {args : AsyncInferenceArgs} {celery : Celery}
variable {Info : Type} {taskId : String}

/-- What a client that polls for one id sees of the service, as long as nobody withdraws
the job. -/
def ticket (laws : CeleryLaws torch args celery) (backend : ResultBackend Info)
    (timeline : Timeline ℚ (service celery)) (taskId : String)
    (kept : ∀ time, taskId ∉ (timeline.state time).withdrawn) :
    Service (TaskResult Info) where
  answer time := AsyncScoringAPI.status backend (timeline.state time) taskId
  stays := by
    intro earlier later ordered done
    rw [done_status_iff] at done
    rcases exists_success_of_done laws (timeline.reachable earlier) (kept earlier) done with
      ⟨result, success⟩
    rcases timeline.run ordered with ⟨labels, run⟩
    have still := (extends_of_service_run laws run).success taskId result success
    rw [status_of_success backend success, status_of_success backend still]

end Polling

end DistributedInference.AsyncInference
