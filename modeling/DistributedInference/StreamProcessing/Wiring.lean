import DistributedInference.StreamProcessing.AtLeastOnce
import DistributedInference.StreamProcessing.InFlight
import DistributedInference.StreamProcessing.PollLoop

/-!
# The poller wired to the model

`QueuePoller` is bound to one `ImageGenerator`, whose `__call__` asserts that the
prompt is not empty and returns the first image of the pipeline.  The pipeline starts
from noise, so it is a set of functions here, one for each way a call can go.

The system of the poller lets any pixels answer any call.  `wired` restricts it to the
pixels that some call of the generator returns.  A message can only be processed when
the generator can answer its body, and this is the only way in which the content of a
message decides about its delivery.
-/

namespace DistributedInference.StreamProcessing

open Transition

variable {Pixels : Type} {pipes : Set (String → Nat → Nat → List Pixels)}
variable {state next start finish : State Pixels}
variable {action : Action Pixels} {actions : List (Action Pixels)}

namespace ImageGenerator

/-- The default of `img_size`. -/
def defaultImgSize : Nat := 512

/-- `__call__`: the assertion on the prompt, and `images[0]` of what the pipeline
returns for the prompt, a height and a width. -/
def call (pipe : String → Nat → Nat → List Pixels) (prompt : String) (imgSize : Nat) :
    Except Failure Pixels :=
  if prompt = "" then .error .other
  else
    match pipe prompt imgSize imgSize with
    | [] => .error .other
    | image :: _ => .ok image

/-- Some call of the generator returns an image for the prompt. -/
def Answers (pipes : Set (String → Nat → Nat → List Pixels)) (prompt : String)
    (pixels : Pixels) : Prop :=
  ∃ pipe ∈ pipes, call pipe prompt defaultImgSize = .ok pixels

end ImageGenerator

section System

variable (pipes)

/-- A response is one that the generator can give to the body it was called with. -/
def Permitted (state : State Pixels) : Action Pixels → Prop
  | .responseReturns index pixels =>
      ∀ task, state.inFlight.jobs[index]? = some task →
        ImageGenerator.Answers pipes task.response pixels
  | _ => True

/-- The poller with the model it is bound to. -/
def wired : System (State Pixels) (Action Pixels) :=
  (poller Pixels).restrict (Permitted pipes)

/-- A run in which no response has arrived is a run of the wired system. -/
theorem reachable_of_unanswered (actions : List (Action Pixels))
    (executed : System.execute State.step .initial actions = some state)
    (unanswered : ∀ index pixels, .responseReturns index pixels ∉ actions) :
    (wired pipes).Reachable state := by
  refine ⟨.initial, actions, rfl, System.Run.restrict (System.run_of_execute executed) ?_⟩
  intro earlier action later reached split _
  cases action with
  | responseReturns index pixels =>
      exact absurd (by simp [split]) (unanswered index pixels)
  | _ => trivial

/-- The generator can answer a prompt. -/
def Answerable (prompt : String) : Prop :=
  ∃ pixels, ImageGenerator.Answers pipes prompt pixels

/-- The generator answers the non-empty prompts for which the pipeline returns an
image. -/
theorem answerable_iff (prompt : String) :
    Answerable pipes prompt ↔ prompt ≠ "" ∧ ∃ pipe ∈ pipes,
      pipe prompt ImageGenerator.defaultImgSize ImageGenerator.defaultImgSize ≠ [] := by
  constructor
  · rintro ⟨pixels, pipe, known, returned⟩
    simp only [ImageGenerator.call] at returned
    split at returned
    next => contradiction
    next nonempty =>
      refine ⟨nonempty, pipe, known, ?_⟩
      intro none
      simp [none] at returned
  · rintro ⟨nonempty, pipe, known, some⟩
    rcases List.exists_cons_of_ne_nil some with ⟨image, rest, images⟩
    exact ⟨image, pipe, known, by simp [ImageGenerator.call, nonempty, images]⟩

end System

/-! ## What is sent -/

@[simp] theorem tryRaises_sent (state : State Pixels) (index : Nat) (task : Task Pixels)
    (failure : Failure) : (state.tryRaises index task failure).sent = state.sent := by
  cases failure <;> rfl

@[simp] theorem elseClause_sent (state : State Pixels) (index : Nat) (task : Task Pixels)
    (delete : DeleteOutcome) : (state.elseClause index task delete).sent = state.sent := by
  cases delete with
  | succeeds => rfl
  | raises failure tookEffect => cases tookEffect <;> rfl

/-- Only a producer adds to what was sent, under a new id. -/
theorem sent_moves (moves : Moves state action next) :
    next.sent = state.sent ∨ ∃ message, next.sent = state.sent ++ [message] ∧
      message.messageId ∉ state.sent.map Message.messageId := by
  cases moves with
  | send fresh => exact Or.inr ⟨_, rfl, fresh⟩
  | pollWakes =>
      unfold State.checkShutdown
      split
      · exact Or.inl rfl
      · exact Or.inl rfl
  | responseRaises | uploadReturns | uploadRaises => exact Or.inl (by simp)
  | _ => exact Or.inl rfl

/-- What was sent stays sent. -/
theorem mem_sent_of_run (run : (wired pipes).Run start actions finish) {message : Message}
    (sent : message ∈ start.sent) : message ∈ finish.sent := by
  apply run.preserves (fun state => message ∈ state.sent) ?_ sent
  intro state action next known taken
  rcases sent_moves (moves_of_step taken.2) with same | ⟨fresh, more, _⟩
  · exact same ▸ known
  · exact more ▸ List.mem_append_left _ known

/-! ## Coherent states -/

/-- What the runs below need of a state, however it was reached: the table and the
tasks belong together, the services back every task, and the ledger is sound. -/
structure Coherent (state : State Pixels) : Prop where
  consistent : Consistent state.inFlight
  justified : Justified state
  sound : (ledger state).Sound

namespace Coherent

theorem of_reachable (reachable : (poller Pixels).Reachable state) : Coherent state where
  consistent := consistent_of_reachable reachable
  justified := justified_of_reachable reachable
  sound := Delivery.Ledger.sound_of_reachable (refinesLedger.reachable reachable)

theorem moves (coherent : Coherent state) (moves : Moves state action next) :
    Coherent next where
  consistent := coherent.consistent.moves moves
  justified := coherent.justified.moves moves
  sound := by
    rcases ledger_moves coherent.justified moves with ⟨events, run⟩
    exact run.preserves Delivery.Ledger.Sound (fun sound taken => sound.step taken)
      coherent.sound

theorem step (coherent : Coherent state) (taken : state.step action = some next) :
    Coherent next :=
  coherent.moves (moves_of_step taken)

theorem run (coherent : Coherent start) (run : (wired pipes).Run start actions finish) :
    Coherent finish := by
  apply run.preserves Coherent ?_ coherent
  intro state action next coherent taken
  exact coherent.step taken.2

/-- Two sent messages with one id are one message. -/
theorem eq_of_messageId_eq (coherent : Coherent state) {left right : Message}
    (leftSent : left ∈ state.sent) (rightSent : right ∈ state.sent)
    (same : left.messageId = right.messageId) : left = right := by
  have bodies : left.body = right.body :=
    coherent.sound.functional ⟨left, leftSent, rfl⟩ ⟨right, rightSent, same ▸ rfl⟩
  cases left
  cases right
  cases same
  cases bodies
  rfl

/-- An object of the bucket holds a result of the body of its message. -/
theorem own (coherent : Coherent state) {message : Message} (known : message ∈ state.sent)
    {object : S3Object Pixels}
    (present : state.bucket (filename message.messageId) = some object) :
    object.image ∈ state.returned ∧ object.image.prompt = message.body := by
  have stored : (ledger state).stored message.messageId = some object.image := by
    simp [ledger, present]
  rcases coherent.sound.own stored with ⟨request, offered, produced⟩
  have same : request = message.body :=
    coherent.sound.functional offered ⟨message, known, rfl⟩
  exact ⟨produced.1, produced.2.trans same⟩

/-- A message whose delete took effect has its object. -/
theorem exists_object (coherent : Coherent state) {messageId : String}
    (gone : messageId ∈ state.deleted) :
    ∃ object, state.bucket (filename messageId) = some object := by
  have stored : ((ledger state).stored messageId).isSome := coherent.sound.kept gone
  simp only [ledger, Option.isSome_map] at stored
  exact Option.isSome_iff_exists.mp stored

theorem deleted_sent (coherent : Coherent state) {messageId : String}
    (gone : messageId ∈ state.deleted) :
    ∃ message ∈ state.sent, message.messageId = messageId := by
  rcases coherent.sound.known gone with ⟨request, message, known, same⟩
  exact ⟨message, known, congrArg Prod.fst same⟩

end Coherent

end DistributedInference.StreamProcessing
