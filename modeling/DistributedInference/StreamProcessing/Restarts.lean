import DistributedInference.Concurrency.Cluster
import DistributedInference.StreamProcessing.Progress

/-!
# Redeploys and crashes

The poller is pinned to one replica, but not to one process: a redeploy starts the next
replica while `__del__` drains the last one, and a replica can crash in the middle of its
jobs.  Its in-flight table is lost then, and the messages are on the queue still.

All replicas share the queue, the bucket and the model.  What ties the phases of the
tasks of one replica to these services survives whatever the others do, and a replica that
has just started needs nothing of the memory of an earlier one to finish the work.
-/

namespace DistributedInference.StreamProcessing

open Concurrency Transition

variable {Pixels : Type}

/-! ## The services and the memory of a replica -/

/-- What the replicas share, with its history. -/
structure Services (Pixels : Type) where
  sent : List Message
  queue : List Message
  deleted : List String
  bucket : String → Option (S3Object Pixels)
  returned : List (Image Pixels)
  handed : List Message

/-- What a replica loses in a crash: its attributes, and where its coroutines are. -/
structure Memory (Pixels : Type) where
  inFlight : Registry String (Task Pixels)
  backpressureCounter : Nat
  shutdownEvent : Bool
  poll : PollPhase
  drain : DrainPhase

/-- The poller and its environment, from the point of view of one replica. -/
def Services.state (services : Services Pixels) (memory : Memory Pixels) : State Pixels where
  sent := services.sent
  queue := services.queue
  deleted := services.deleted
  bucket := services.bucket
  returned := services.returned
  handed := services.handed
  inFlight := memory.inFlight
  backpressureCounter := memory.backpressureCounter
  shutdownEvent := memory.shutdownEvent
  poll := memory.poll
  drain := memory.drain

/-- A producer sends a message. -/
def Services.send (services : Services Pixels) (message : Message) :
    Option (Services Pixels) :=
  if message.messageId ∈ services.sent.map Message.messageId then none
  else
    some { services with
      sent := services.sent ++ [message]
      queue := services.queue ++ [message] }

namespace State

def services (state : State Pixels) : Services Pixels where
  sent := state.sent
  queue := state.queue
  deleted := state.deleted
  bucket := state.bucket
  returned := state.returned
  handed := state.handed

def memory (state : State Pixels) : Memory Pixels where
  inFlight := state.inFlight
  backpressureCounter := state.backpressureCounter
  shutdownEvent := state.shutdownEvent
  poll := state.poll
  drain := state.drain

end State

/-- What can still arrive from a replica that has crashed: a put on its way to S3, and a
delete on its way to SQS, of which nobody learns. -/
def Action.late : Action Pixels → Bool
  | .putLands _ | .uploadReturns _ (.raises _ true) => true
  | _ => false

/-- `QueuePoller` on any number of replicas. -/
def queuePoller (Pixels : Type) :
    Program (Services Pixels) (Memory Pixels) Message (Action Pixels) where
  initial := State.initial.services
  fresh := State.initial.memory
  step pair action :=
    ((pair.1.state pair.2).step action).map fun next => (next.services, next.memory)
  outside := Services.send
  late := Action.late

/-- The replicas of one deployment, with the model that they are bound to. -/
def deployment (pipes : Set (String → Nat → Nat → List Pixels)) :
    System (Cluster (Services Pixels) (Memory Pixels))
      (ClusterEvent Message (Action Pixels)) :=
  (queuePoller Pixels).cluster fun pair => Permitted pipes (pair.1.state pair.2)

variable {pipes : Set (String → Nat → Nat → List Pixels)}
variable {state next start finish : State Pixels}
variable {action : Action Pixels} {actions : List (Action Pixels)}

theorem exists_step_of_step {services : Services Pixels} {memory : Memory Pixels}
    {after : Services Pixels × Memory Pixels}
    (taken : (queuePoller Pixels).step (services, memory) action = some after) :
    ∃ next, (services.state memory).step action = some next ∧
      after = (next.services, next.memory) := by
  rcases Option.map_eq_some_iff.mp taken with ⟨next, stepped, same⟩
  exact ⟨next, stepped, same.symm⟩

/-! ## What the replicas do to each other -/

@[simp] theorem tryRaises_returned (state : State Pixels) (index : Nat) (task : Task Pixels)
    (failure : Failure) : (state.tryRaises index task failure).returned = state.returned := by
  cases failure <;> rfl

@[simp] theorem tryRaises_bucket (state : State Pixels) (index : Nat) (task : Task Pixels)
    (failure : Failure) : (state.tryRaises index task failure).bucket = state.bucket := by
  cases failure <;> rfl

@[simp] theorem elseClause_returned (state : State Pixels) (index : Nat)
    (task : Task Pixels) (delete : DeleteOutcome) :
    (state.elseClause index task delete).returned = state.returned := by
  cases delete with
  | succeeds => rfl
  | raises failure tookEffect => cases tookEffect <;> rfl

@[simp] theorem elseClause_bucket (state : State Pixels) (index : Nat) (task : Task Pixels)
    (delete : DeleteOutcome) :
    (state.elseClause index task delete).bucket = state.bucket := by
  cases delete with
  | succeeds => rfl
  | raises failure tookEffect => cases tookEffect <;> rfl

/-- The services only gain, whoever moves. -/
theorem grows_of_moves (moves : Moves state action next) : Grows state next := by
  have sent : ∀ message ∈ state.sent, message ∈ next.sent := by
    intro message known
    rcases sent_moves moves with same | ⟨fresh, more, _⟩
    · exact same ▸ known
    · exact more ▸ List.mem_append_left _ known
  cases moves with
  | pollWakes =>
      unfold State.checkShutdown
      split
      · exact .of_eq rfl rfl rfl
      · exact .of_eq rfl rfl rfl
  | send => exact ⟨sent, fun _ => id, fun _ => id⟩
  | responseReturns => exact ⟨sent, fun _ => List.mem_append_left _, fun _ => id⟩
  | putLands => exact ⟨sent, fun _ => id, isSome_uploadToS3 _ _ _⟩
  | responseRaises | uploadRaises | uploadReturns => exact .of_eq (by simp) (by simp) (by simp)
  | _ => exact .of_eq rfl rfl rfl

/-- The memory of a replica fits to services that another one has moved. -/
theorem Coherent.grow {services : Services Pixels} {mover memory : Memory Pixels}
    (coherent : Coherent (services.state memory)) (after : Coherent next)
    (grows : Grows (services.state mover) next) :
    Coherent (next.services.state memory) where
  consistent := coherent.consistent
  justified := {
    batch := fun messages received message member =>
      grows.sent _ (coherent.justified.batch messages received message member)
    tasks := fun task member =>
      (coherent.justified.tasks task member).grow ⟨grows.sent, grows.returned, grows.bucket⟩
    files := after.justified.files }
  sound := after.sound

/-- What holds of the services and every memory that works on them. -/
structure Kept (pipes : Set (String → Nat → Nat → List Pixels))
    (services : Services Pixels) (memory : Memory Pixels) : Prop where
  coherent : Coherent (services.state memory)
  answered : Answered pipes (services.state memory)

namespace Kept

variable {services : Services Pixels} {memory another : Memory Pixels}

/-- The replica that moves keeps it for itself, -/
theorem own (kept : Kept pipes services memory)
    (permitted : Permitted pipes (services.state memory) action)
    (stepped : (services.state memory).step action = some next) :
    Kept pipes next.services next.memory where
  coherent := kept.coherent.step stepped
  answered := kept.answered.moves kept.coherent.justified permitted (moves_of_step stepped)

/-- and for every other one. -/
theorem other (kept : Kept pipes services memory)
    (permitted : Permitted pipes (services.state memory) action)
    (stepped : (services.state memory).step action = some next)
    (also : Kept pipes services another) : Kept pipes next.services another where
  coherent := also.coherent.grow (kept.own permitted stepped).coherent
    (grows_of_moves (moves_of_step stepped))
  answered := ⟨also.answered.uploading, (kept.own permitted stepped).answered.deleted⟩

end Kept

/-- A message is sent whatever a replica remembers. -/
theorem step_send {services later : Services Pixels} {memory : Memory Pixels}
    {message : Message} (happened : services.send message = some later) :
    (services.state memory).step (.send message) = some (later.state memory) := by
  unfold Services.send at happened
  split at happened
  next => contradiction
  next fresh =>
    cases happened
    exact if_neg fresh

variable (pipes) in
theorem keeps : (queuePoller Pixels).Keeps
    (fun pair => Permitted pipes (pair.1.state pair.2)) (Kept pipes) where
  initial := ⟨.of_reachable (.initial rfl), .of_reachable (.initial rfl)⟩
  outside := by
    intro services message later memory kept happened
    have permitted : Permitted pipes (services.state memory) (.send message) := trivial
    exact kept.own permitted (step_send happened)
  own := by
    intro services memory action after kept permitted taken
    rcases exists_step_of_step taken with ⟨next, stepped, rfl⟩
    exact kept.own permitted stepped
  other := by
    intro services memory action after other kept permitted taken also
    rcases exists_step_of_step taken with ⟨next, stepped, rfl⟩
    exact kept.other permitted stepped also

/-! ## No crash loses a message -/

/-- A coherent state has delivered at least once. -/
theorem Coherent.delivered (coherent : Coherent state) : DeliveredAtLeastOnce state where
  deleted := by
    intro messageId gone
    rcases coherent.deleted_sent gone with ⟨message, known, rfl⟩
    rcases coherent.exists_object gone with ⟨object, present⟩
    exact ⟨message, known, rfl, object, present, coherent.own known present⟩
  files := coherent.justified.files
  own message known object present := coherent.own known present
  queued := by
    intro message known retained
    apply mem_of_entry
    exact (coherent.sound.outstanding (message.messageId, message.body)).mpr
      ⟨⟨message, known, rfl⟩, retained⟩

/-- What a deployment guarantees of its services. -/
structure Durable (pipes : Set (String → Nat → Nat → List Pixels))
    (services : Services Pixels) : Prop where
  delivered : ∀ memory, DeliveredAtLeastOnce (services.state memory)
  answered : ∀ message ∈ services.sent, message.messageId ∈ services.deleted →
    Answerable pipes message.body

theorem Kept.durable {services : Services Pixels} {memory : Memory Pixels}
    (kept : Kept pipes services memory) : Durable pipes services where
  delivered _ :=
    ⟨kept.coherent.delivered.deleted, kept.coherent.delivered.files,
      kept.coherent.delivered.own, kept.coherent.delivered.queued⟩
  answered := by
    intro message known gone
    rcases kept.answered.deleted _ gone with ⟨own, sent, named, answerable⟩
    cases kept.coherent.eq_of_messageId_eq sent known named
    exact answerable

variable {cluster before after : Cluster (Services Pixels) (Memory Pixels)}

/-- Without a response, nothing depends on the model. -/
theorem run_of_unanswered {events : List (ClusterEvent Message (Action Pixels))}
    (executed : System.execute (Cluster.step (queuePoller Pixels)) before events =
      some after)
    (unanswered : ∀ replica index pixels,
      .act replica (.responseReturns index pixels) ∉ events) :
    (deployment pipes).Run before events after := by
  apply System.Run.restrict (System.run_of_execute executed)
  intro earlier event later reached split _
  cases event with
  | act replica action =>
      cases action with
      | responseReturns index pixels =>
          exact absurd (by simp [split]) (unanswered replica index pixels)
      | _ => exact fun _ _ => trivial
  | _ => trivial

/-- The task of a replica gets the response to its call. -/
theorem run_of_response {replica index : Nat} {pixels : Pixels}
    {memory : Memory Pixels} {task : Task Pixels}
    (found : before.replicas[replica]? = some ⟨memory, true⟩)
    (suspended : memory.inFlight.jobs[index]? = some task)
    (answers : ImageGenerator.Answers pipes task.response pixels)
    (taken : before.step (queuePoller Pixels)
      (.act replica (.responseReturns index pixels)) = some after) :
    (deployment pipes).Run before [.act replica (.responseReturns index pixels)] after := by
  refine .single ⟨?_, taken⟩
  intro other same at_replica at_index
  cases found.symm.trans same
  cases suspended.symm.trans at_index
  exact answers

/-- Two messages are with the model. -/
def handedOver : List (ClusterEvent Message (Action Unit)) :=
  [.outside ⟨"a", "prompt"⟩, .outside ⟨"b", "prompt"⟩, .start, .act 0 .pollWakes,
    .act 0 (.receiveReturns [⟨"a", "prompt"⟩, ⟨"b", "prompt"⟩]),
    .act 0 (.pollResumes fun _ => none)]

/-- The replica crashes between a put and its delete, another one starts, and then the
delete arrives. -/
def crashAfterPut : List (ClusterEvent Message (Action Unit)) :=
  [.act 0 (.putLands 0), .crash 0, .start, .act 0 (.uploadReturns 0 (.raises .other true))]

theorem reachable_crashAfterPut :
    ∃ cluster, (deployment {fun _ _ _ => [()]}).Reachable cluster ∧
      cluster.services.deleted = ["a"] ∧
      cluster.services.sent = [⟨"a", "prompt"⟩, ⟨"b", "prompt"⟩] ∧
      cluster.replicas.map Replica.alive = [false, true] := by
  have handed := @run_of_unanswered Unit {fun _ _ _ => [()]} ⟨State.initial.services, []⟩ _
    handedOver rfl (by simp [handedOver])
  have answered := handed.append
    (@run_of_response Unit _ _ _ 0 0 () _ _ rfl rfl ⟨_, rfl, rfl⟩ rfl)
  have crashed := answered.append
    (@run_of_unanswered Unit _ _ _ crashAfterPut rfl (by simp [crashAfterPut]))
  exact ⟨_, ⟨_, _, rfl, crashed⟩, rfl, rfl, rfl⟩

/-- The services keep their promise whatever was started, drained or crashed, and
whatever still arrives. -/
theorem survivesRestarts (reachable : (deployment pipes).Reachable cluster) :
    Durable pipes cluster.services :=
  ((keeps pipes).of_reachable reachable).1.durable

theorem survivesRestarts_crashAfterPut :
    ∃ cluster : Cluster (Services Unit) (Memory Unit),
      cluster.services.deleted = ["a"] ∧
      cluster.replicas.map Replica.alive = [false, true] ∧
      Durable {fun _ _ _ => [()]} cluster.services := by
  rcases reachable_crashAfterPut with ⟨cluster, reachable, deleted, _, alive⟩
  exact ⟨cluster, deleted, alive, survivesRestarts reachable⟩

/-! ## A new replica finishes the work -/

/-- What the poller can do, a replica can do. -/
theorem run_alone (run : (wired pipes).Run start actions finish) :
    ((queuePoller Pixels).alone.restrict fun pair =>
      Permitted pipes (pair.1.state pair.2)).Run
      (start.services, start.memory) actions (finish.services, finish.memory) := by
  induction run with
  | nil state => exact .nil _
  | @cons start middle finish action actions taken _ ih =>
      refine .cons ⟨taken.1, ?_⟩ ih
      exact Option.map_eq_some_iff.mpr ⟨middle, taken.2, rfl⟩

/-- How a replica that is started now can leave the services behind. -/
structure Recovers (pipes : Set (String → Nat → Nat → List Pixels))
    (before after : Cluster (Services Pixels) (Memory Pixels)) : Prop where
  sent : after.services.sent = before.services.sent
  /-- Nobody else takes a step. -/
  alone : ∃ memory, after.replicas = before.replicas ++ [⟨memory, true⟩]
  deleted : ∀ message ∈ before.services.sent,
    (message.messageId ∈ after.services.deleted ↔ Answerable pipes message.body)
  stored : ∀ message ∈ before.services.sent, Answerable pipes message.body →
    ∃ object, after.services.bucket (filename message.messageId) = some object ∧
      object.image.prompt = message.body

/-- From every reachable state, a replica that is started anew can process every message
that has an answer, without the replicas before it and their memory. -/
theorem recovers (reachable : (deployment pipes).Reachable cluster) :
    ∃ (actions : List (Action Pixels)) (after : _), (deployment pipes).Run cluster
      (.start :: actions.map (.act cluster.replicas.length)) after ∧
      Recovers pipes cluster after := by
  classical
  have fresh := ((keeps pipes).of_reachable reachable).1
  have alive : ¬(State.initial : State Pixels).poll.Dead := by
    simp [State.initial, PollPhase.Dead]
  have chosen : ∀ message ∈ cluster.services.sent.filter (Answerable pipes ·.body),
      message ∈ cluster.services.sent ∧ Answerable pipes message.body := by
    intro message member
    simpa using List.mem_filter.mp member
  rcases exists_run_processes_all fresh.coherent rfl _
    (fun message member => (chosen message member).1)
    (fun message member => Or.inr ⟨(chosen message member).2, Or.inr alive⟩) with
    ⟨actions, finish, run, continues, processed⟩
  have whole := Program.run_started (run_alone run)
  have kept := ((keeps pipes).of_reachable (reachable.run whole)).1
  have gone : ∀ message ∈ cluster.services.sent, Answerable pipes message.body →
      message.messageId ∈ finish.services.deleted := by
    intro message known answerable
    exact processed message (List.mem_filter.mpr ⟨known, by simpa using answerable⟩)
  have sent : finish.services.sent = cluster.services.sent := continues.sent
  have still : ∀ message ∈ cluster.services.sent, message ∈ finish.services.sent :=
    fun message known => sent ▸ known
  refine ⟨actions, _, whole, sent, ⟨finish.memory, rfl⟩, ?_, ?_⟩
  · intro message known
    exact ⟨kept.durable.answered message (still message known), gone message known⟩
  · intro message known answerable
    rcases kept.coherent.exists_object (gone message known answerable) with ⟨object, stored⟩
    exact ⟨object, stored, (kept.coherent.own (still message known) stored).2⟩

theorem recovers_crashAfterPut :
    ∃ cluster : Cluster (Services Unit) (Memory Unit),
      cluster.services.sent = [⟨"a", "prompt"⟩, ⟨"b", "prompt"⟩] ∧
      cluster.services.deleted = ["a"] ∧
      ∃ (actions : List (Action Unit)) (after : _),
        (deployment {fun _ _ _ => [()]}).Run cluster
          (.start :: actions.map (.act cluster.replicas.length)) after ∧
        Recovers {fun _ _ _ => [()]} cluster after := by
  rcases reachable_crashAfterPut with ⟨cluster, reachable, deleted, sent, _⟩
  exact ⟨cluster, sent, deleted, recovers reachable⟩

end DistributedInference.StreamProcessing
