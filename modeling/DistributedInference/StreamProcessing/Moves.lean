import DistributedInference.StreamProcessing.Poller

/-!
# The moves of the poller

`State.step` is executable and branches on the phase of the coroutine that an
action resumes.  `Moves` lists its enabled branches, one constructor for each,
with the guard as a hypothesis.  Every invariant of the poller is proved by cases
on `Moves`, and never by unfolding `State.step`.
-/

namespace DistributedInference.StreamProcessing

open Transition

variable {Pixels : Type} {state next : State Pixels} {action : Action Pixels}

/-- The enabled branches of `State.step`. -/
inductive Moves (state : State Pixels) : Action Pixels → State Pixels → Prop
  | send {message : Message}
      (fresh : message.messageId ∉ state.sent.map Message.messageId) :
      Moves state (.send message)
        { state with
          sent := state.sent ++ [message]
          queue := state.queue ++ [message] }
  | pollWakes
      (resting : state.poll = .scheduled ∨
        ∃ milliseconds, state.poll = .sleeping milliseconds) :
      Moves state .pollWakes state.checkShutdown
  | receiveReturns {gone : List String} {messages : List Message}
      (receiving : state.poll = .receiving gone)
      (bounded : messages.length ≤ maxNumberOfMessages)
      (available : ∀ message ∈ messages,
        message ∈ state.sent ∧ message.messageId ∉ gone) :
      Moves state (.receiveReturns messages)
        { state with poll := .received (.ok messages) }
  | receiveRaises {gone : List String} {failure : Failure}
      (receiving : state.poll = .receiving gone) :
      Moves state (.receiveRaises failure)
        { state with poll := .received (.error failure) }
  | dispatch {remote : String → Option Failure} {messages : List Message}
      (received : state.poll = .received (.ok messages)) :
      Moves state (.pollResumes remote) (state.dispatch remote messages)
  | receiveFailed {remote : String → Option Failure} {failure : Failure}
      (received : state.poll = .received (.error failure)) :
      Moves state (.pollResumes remote)
        { state with poll := .ended (some failure) }
  | responseReturns {index : Nat} {pixels : Pixels} {response : String}
      {message : Message}
      (suspended : state.inFlight.jobs[index]? =
        some ⟨response, message, .awaitingResponse⟩) :
      Moves state (.responseReturns index pixels)
        { state with
          returned := state.returned ++ [⟨response, pixels⟩]
          inFlight := state.inFlight.advance index
            ⟨response, message, .uploading ⟨response, pixels⟩ false⟩ }
  | responseRaises {index : Nat} {failure : Failure} {response : String}
      {message : Message}
      (suspended : state.inFlight.jobs[index]? =
        some ⟨response, message, .awaitingResponse⟩) :
      Moves state (.responseRaises index failure)
        (state.tryRaises index ⟨response, message, .awaitingResponse⟩ failure)
  | putLands {index : Nat} {response : String} {message : Message}
      {image : Image Pixels}
      (suspended : state.inFlight.jobs[index]? =
        some ⟨response, message, .uploading image false⟩) :
      Moves state (.putLands index)
        { state with
          bucket := uploadToS3 state.bucket image message.messageId
          inFlight := state.inFlight.advance index
            ⟨response, message, .uploading image true⟩ }
  | uploadReturns {index : Nat} {delete : DeleteOutcome} {response : String}
      {message : Message} {image : Image Pixels}
      (suspended : state.inFlight.jobs[index]? =
        some ⟨response, message, .uploading image true⟩) :
      Moves state (.uploadReturns index delete)
        (state.elseClause index ⟨response, message, .uploading image true⟩ delete)
  | uploadRaises {index : Nat} {failure : Failure} {response : String}
      {message : Message} {image : Image Pixels} {landed : Bool}
      (suspended : state.inFlight.jobs[index]? =
        some ⟨response, message, .uploading image landed⟩) :
      Moves state (.uploadRaises index failure)
        (state.tryRaises index ⟨response, message, .uploading image landed⟩
          failure)
  | shutdownRequested (idle : state.drain = .idle) :
      Moves state .shutdownRequested
        { state with shutdownEvent := true }.checkDrained
  | drainWakes (waiting : state.drain = .waiting) :
      Moves state .drainWakes state.checkDrained

/-- Every enabled step is one of the listed moves. -/
theorem moves_of_step (taken : state.step action = some next) :
    Moves state action next := by
  cases action with
  | send message =>
      simp only [State.step] at taken
      split at taken
      next => contradiction
      next fresh =>
        cases taken
        exact .send fresh
  | pollWakes =>
      simp only [State.step] at taken
      split at taken
      next resting =>
        cases taken
        exact .pollWakes (Or.inl resting)
      next milliseconds resting =>
        cases taken
        exact .pollWakes (Or.inr ⟨milliseconds, resting⟩)
      next => contradiction
  | receiveReturns messages =>
      simp only [State.step] at taken
      split at taken
      next gone receiving =>
        split at taken
        next allowed =>
          cases taken
          exact .receiveReturns receiving allowed.1 allowed.2
        next => contradiction
      next => contradiction
  | receiveRaises failure =>
      simp only [State.step] at taken
      split at taken
      next gone receiving =>
        cases taken
        exact .receiveRaises receiving
      next => contradiction
  | pollResumes remote =>
      simp only [State.step] at taken
      split at taken
      next messages received =>
        cases taken
        exact .dispatch received
      next failure received =>
        cases taken
        exact .receiveFailed received
      next => contradiction
  | responseReturns index pixels =>
      simp only [State.step] at taken
      split at taken
      next response message suspended =>
        cases taken
        exact .responseReturns suspended
      next => contradiction
  | responseRaises index failure =>
      simp only [State.step] at taken
      split at taken
      next response message suspended =>
        cases taken
        exact .responseRaises suspended
      next => contradiction
  | putLands index =>
      simp only [State.step] at taken
      split at taken
      next response message image suspended =>
        cases taken
        exact .putLands suspended
      next => contradiction
  | uploadReturns index delete =>
      simp only [State.step] at taken
      split at taken
      next response message image suspended =>
        cases taken
        exact .uploadReturns suspended
      next => contradiction
  | uploadRaises index failure =>
      simp only [State.step] at taken
      split at taken
      next response message image landed suspended =>
        cases taken
        exact .uploadRaises suspended
      next => contradiction
  | shutdownRequested =>
      simp only [State.step] at taken
      split at taken
      next idle =>
        cases taken
        exact .shutdownRequested idle
      next => contradiction
  | drainWakes =>
      simp only [State.step] at taken
      split at taken
      next waiting =>
        cases taken
        exact .drainWakes waiting
      next => contradiction

/-! ## What the end of a task leaves alone -/

section EndOfTask

variable (state : State Pixels) (index : Nat) (task : Task Pixels)
variable (failure : Failure) (delete : DeleteOutcome)

@[simp] theorem tryRaises_handed :
    (state.tryRaises index task failure).handed = state.handed := by
  cases failure <;> rfl

@[simp] theorem tryRaises_shutdownEvent :
    (state.tryRaises index task failure).shutdownEvent = state.shutdownEvent := by
  cases failure <;> rfl

@[simp] theorem tryRaises_poll :
    (state.tryRaises index task failure).poll = state.poll := by
  cases failure <;> rfl

@[simp] theorem tryRaises_drain :
    (state.tryRaises index task failure).drain = state.drain := by
  cases failure <;> rfl

@[simp] theorem elseClause_handed :
    (state.elseClause index task delete).handed = state.handed := by
  cases delete with
  | succeeds => rfl
  | raises failure tookEffect => cases tookEffect <;> rfl

@[simp] theorem elseClause_shutdownEvent :
    (state.elseClause index task delete).shutdownEvent = state.shutdownEvent := by
  cases delete with
  | succeeds => rfl
  | raises failure tookEffect => cases tookEffect <;> rfl

@[simp] theorem elseClause_poll :
    (state.elseClause index task delete).poll = state.poll := by
  cases delete with
  | succeeds => rfl
  | raises failure tookEffect => cases tookEffect <;> rfl

@[simp] theorem elseClause_drain :
    (state.elseClause index task delete).drain = state.drain := by
  cases delete with
  | succeeds => rfl
  | raises failure tookEffect => cases tookEffect <;> rfl

/-- Both ways out of a task pass through its `finally` clause. -/
theorem tryRaises_inFlight : ∃ result,
    (state.tryRaises index task failure).inFlight =
      release state.inFlight index task result := by
  cases failure with
  | backPressureError => exact ⟨_, rfl⟩
  | other => exact ⟨_, rfl⟩

theorem elseClause_inFlight : ∃ result,
    (state.elseClause index task delete).inFlight =
      release state.inFlight index task result := by
  cases delete with
  | succeeds => exact ⟨_, rfl⟩
  | raises failure tookEffect =>
      cases tookEffect with
      | false => exact ⟨_, rfl⟩
      | true => exact ⟨_, rfl⟩

@[simp] theorem tryRaises_deleted :
    (state.tryRaises index task failure).deleted = state.deleted := by
  cases failure <;> rfl

/-- The `else` clause deletes its own message or nothing. -/
theorem elseClause_deleted :
    (state.elseClause index task delete).deleted = state.deleted ∨
      (state.elseClause index task delete).deleted =
        task.queueMessage.messageId :: state.deleted := by
  cases delete with
  | succeeds => exact Or.inr rfl
  | raises failure tookEffect =>
      cases tookEffect with
      | false => exact Or.inl rfl
      | true => exact Or.inr rfl

end EndOfTask

/-- The invariant rule of the poller, over its moves. -/
theorem State.invariant (property : State Pixels → Prop)
    (initial : property .initial)
    (moves : ∀ {state action next}, (poller Pixels).Reachable state →
      property state → Moves state action next → property next)
    (reachable : (poller Pixels).Reachable state) : property state := by
  apply reachable.invariant property
  · intro state start
    cases start
    exact initial
  · intro state action next reached holds taken
    exact moves reached holds (moves_of_step taken)

end DistributedInference.StreamProcessing
