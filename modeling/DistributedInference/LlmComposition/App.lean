import DistributedInference.Json.Reading
import DistributedInference.LlmComposition.Triage
import DistributedInference.Sse.Stream

/-!
# The composed app

The ingress in front of triage and the LLM.  `/ask` returns one answer and `/ask/stream`
a stream of events; both ask triage first.  The LLM is not part of the repository: what
it yields for a request is a parameter.  The text of a request is any Python string; the
table and the model id hold Unicode strings.
-/

namespace DistributedInference.LlmComposition

open Json Python

/-! ## Requests and responses -/

structure ChatMessage where
  role : String
  content : PyString
  deriving DecidableEq

structure ChatCompletionRequest where
  model : String
  messages : List ChatMessage
  maxTokens : Nat
  stream : Bool
  deriving DecidableEq

/-- The contents of the choices of a response. -/
structure ChatCompletionResponse where
  choices : List (Option String)
  deriving DecidableEq

/-- What `chat` yields. -/
structure LlmServer where
  /-- The responses to a request that does not stream. -/
  responses : ChatCompletionRequest → List ChatCompletionResponse
  /-- The batches of formatted packets for a request that streams. -/
  batches : ChatCompletionRequest → List (List String)

inductive PyError where
  | keyError (key : String)
  | indexError
  deriving DecidableEq

structure Answer where
  answer : Option String
  usedLlm : Bool
  deriving DecidableEq

/-- What an endpoint did: the request that it sent to the LLM, if any, and its
result. -/
structure Handled (Result : Type) where
  escalated : Option ChatCompletionRequest
  result : Except PyError Result

/-! ## The wire format -/

def DONE : String := "data: [DONE]\n\n"

/-- The index of the only choice. -/
def zero : Number where
  literal := ['0']
  valid := rfl

/-- The chunk of an answer that no engine produced. -/
def chunk (text modelId : String) : Value :=
  .object
    [("object", .string "chat.completion.chunk"),
      ("model", .string modelId),
      ("choices", .array
        [.object
          [("index", .number zero),
            ("delta", .object
              [("role", .string "assistant"), ("content", .string text)]),
            ("finish_reason", .null)]])]

def ssePacket (text modelId : String) : String :=
  "data: " ++ String.ofList (chunk text modelId).dumps ++ "\n\n"

/-! ## The endpoints -/

structure Assistant where
  triage : TriageLogic
  llm : LlmServer
  modelId : String
  /-- The table from which a hit is answered. -/
  faq : Faq

/-- The app, whose parts share one table. -/
def buildApp (faq : Faq) (llm : LlmServer) (modelId : String) : Assistant where
  triage := { faq }
  llm := llm
  modelId := modelId
  faq := faq

namespace Assistant

variable (assistant : Assistant) (lower : Lower) (text : PyString)

def chatRequest (stream : Bool) : ChatCompletionRequest where
  model := assistant.modelId
  messages := [{ role := "user", content := text }]
  maxTokens := 96
  stream := stream

/-- `FAQ[hit]`. -/
def faqAnswer (hit : String) : Except PyError String :=
  match assistant.faq.lookup hit with
  | some answer => .ok answer
  | none => .error (.keyError hit)

/-- `POST /ask`.  A call that yields nothing leaves the loop without a response. -/
def ask : Handled (Option Answer) :=
  match assistant.triage.route lower text with
  | some hit =>
      { escalated := none
        result := (assistant.faqAnswer hit).map fun answer =>
          some { answer := some answer, usedLlm := false } }
  | none =>
      let request := assistant.chatRequest text false
      { escalated := some request
        result :=
          match assistant.llm.responses request with
          | [] => .ok none
          | response :: _ =>
              match response.choices with
              | [] => .error .indexError
              | content :: _ => .ok (some { answer := content, usedLlm := true }) }

/-- `POST /ask/stream`: the chunks of the body. -/
def askStream : Handled (List String) :=
  match assistant.triage.route lower text with
  | some hit =>
      { escalated := none
        result := (assistant.faqAnswer hit).map fun answer =>
          [ssePacket answer assistant.modelId, DONE] }
  | none =>
      let request := assistant.chatRequest text true
      { escalated := some request
        result := .ok ((assistant.llm.batches request).map String.join ++ [DONE]) }

end Assistant

/-! ## What a client reads -/

/-- The events of a body. -/
def received (body : List String) : List Sse.Event :=
  Sse.parse (String.join body).toList

/-- `chunk["choices"][0]["delta"]["content"]`. -/
def deltaContent (chunk : Value) : Option String := do
  let choices ← chunk.get "choices"
  let choice ← choices.item 0
  let delta ← choice.get "delta"
  let content ← delta.get "content"
  content.text

/-- `chunk["model"]`. -/
def model (chunk : Value) : Option String := do
  let model ← chunk.get "model"
  model.text

@[simp] theorem deltaContent_chunk (text modelId : String) :
    deltaContent (chunk text modelId) = some text := rfl

@[simp] theorem model_chunk (text modelId : String) :
    model (chunk text modelId) = some modelId := rfl

/-- What `json.dumps` writes stays within one line. -/
theorem unbroken_dumps (value : Value) : Sse.Unbroken value.dumps := by
  intro character member
  have printable := value.printable_dumps character member
  constructor
  · rintro rfl
    exact absurd printable (by decide)
  · rintro rfl
    exact absurd printable (by decide)

theorem toList_ssePacket (text modelId : String) :
    (ssePacket text modelId).toList = Sse.packet (chunk text modelId).dumps := by
  simp only [ssePacket, String.toList_append, String.toList_ofList]
  rfl

theorem toList_DONE : DONE.toList = Sse.packet "[DONE]".toList := rfl

theorem received_settled (text modelId : String) :
    received [ssePacket text modelId, DONE] =
      [Sse.message (chunk text modelId).dumps, Sse.message "[DONE]".toList] := by
  have body : (String.join [ssePacket text modelId, DONE]).toList =
      [(chunk text modelId).dumps, "[DONE]".toList].flatMap Sse.packet := by
    simp only [String.toList_join, List.flatMap_cons, List.flatMap_nil,
      toList_ssePacket, toList_DONE]
  have unbroken : ∀ data ∈ [(chunk text modelId).dumps, "[DONE]".toList],
      Sse.Unbroken data := by
    simp only [List.forall_mem_cons, unbroken_dumps, true_and]
    decide
  rw [received, body, Sse.parse_packets unbroken, List.map_cons, List.map_cons,
    List.map_nil]

/-! ## Agreement -/

section BuildApp

variable {faq : Faq} {llm : LlmServer} {modelId : String}
variable {lower : Lower} {text : PyString}

/-- A text that triage settles is answered by both endpoints with the entry of its key. -/
theorem exists_answer_of_route {hit : String}
    (routed : (buildApp faq llm modelId).triage.route lower text = some hit) :
    ∃ answer, faq.lookup hit = some answer ∧
      (buildApp faq llm modelId).ask lower text =
        { escalated := none
          result := .ok (some { answer := some answer, usedLlm := false }) } ∧
      (buildApp faq llm modelId).askStream lower text =
        { escalated := none
          result := .ok [ssePacket answer modelId, DONE] } := by
  have held : hit ∈ faq := TriageLogic.mem_of_route routed
  obtain ⟨answer, found⟩ := Option.isSome_iff_exists.mp (AList.lookup_isSome.mpr held)
  have answered : (buildApp faq llm modelId).faqAnswer hit = .ok answer := by
    simp only [Assistant.faqAnswer, buildApp, found]
  refine ⟨answer, found, ?_, ?_⟩
  · simp only [Assistant.ask, routed, answered]
    rfl
  · simp only [Assistant.askStream, routed, answered]
    rfl

/-- A text that triage does not settle goes to the LLM from both endpoints, and neither
looks anything up. -/
theorem escalated_of_route_none
    (routed : (buildApp faq llm modelId).triage.route lower text = none) :
    ((buildApp faq llm modelId).ask lower text).escalated ≠ none ∧
      ((buildApp faq llm modelId).askStream lower text).escalated ≠ none ∧
      (∀ key, ((buildApp faq llm modelId).ask lower text).result ≠
        .error (.keyError key)) ∧
      ∀ key, ((buildApp faq llm modelId).askStream lower text).result ≠
        .error (.keyError key) := by
  simp only [Assistant.ask, Assistant.askStream, routed]
  refine ⟨Option.some_ne_none _, Option.some_ne_none _, ?_, ?_⟩
  · intro key
    split
    next => exact nofun
    next => split <;> exact nofun
  · intro key
    exact nofun

end BuildApp

/-- Both endpoints escalate the same texts.  They settle every other text with the entry
of its key, which the stream carries in its first event. -/
theorem endpointsAgree (faq : Faq) (llm : LlmServer) (modelId : String) (lower : Lower)
    (text : PyString) :
    let ask := (buildApp faq llm modelId).ask lower text
    let askStream := (buildApp faq llm modelId).askStream lower text
    (ask.escalated = none ↔ askStream.escalated = none) ∧
      (∀ key, ask.result ≠ .error (.keyError key)) ∧
      (∀ key, askStream.result ≠ .error (.keyError key)) ∧
      (ask.escalated = none → ∃ key answer body data decoded,
        (buildApp faq llm modelId).triage.route lower text = some key ∧
        faq.lookup key = some answer ∧
        ask.result = .ok (some { answer := some answer, usedLlm := false }) ∧
        askStream.result = .ok body ∧
        received body = [Sse.message data, Sse.message "[DONE]".toList] ∧
        loads data = some decoded ∧
        model decoded = some modelId ∧
        deltaContent decoded = some answer) := by
  intro ask askStream
  cases routed : (buildApp faq llm modelId).triage.route lower text with
  | none =>
      obtain ⟨askEscalates, streamEscalates, askRaises, streamRaises⟩ :=
        escalated_of_route_none routed
      exact ⟨iff_of_false askEscalates streamEscalates, askRaises, streamRaises,
        fun settled => absurd settled askEscalates⟩
  | some hit =>
      obtain ⟨answer, found, askAnswers, streamAnswers⟩ := exists_answer_of_route routed
      have asked : ask = _ := askAnswers
      have streamed : askStream = _ := streamAnswers
      rw [asked, streamed]
      refine ⟨Iff.rfl, nofun, nofun, fun _ => ?_⟩
      exact ⟨hit, answer, _, (chunk answer modelId).dumps, chunk answer modelId, rfl, found,
        rfl, rfl, received_settled answer modelId, loads_dumps _, rfl, rfl⟩

/-- A text in lower case that the table settles. -/
def openingHours : PyString := .ofString "when are your hours?"

/-- A model that yields nothing. -/
def silentLlm : LlmServer := ⟨fun _ => [], fun _ => []⟩

theorem endpointsAgree_openingHours :
    ((buildApp FAQ silentLlm "m").ask id openingHours).result = .ok (some
        { answer := some "Support is staffed 09:00 to 17:00 UTC, Monday through Friday."
          usedLlm := false }) ∧
      ∃ body data decoded,
        ((buildApp FAQ silentLlm "m").askStream id openingHours).result = .ok body ∧
        received body = [Sse.message data, Sse.message "[DONE]".toList] ∧
        loads data = some decoded ∧ deltaContent decoded =
          some "Support is staffed 09:00 to 17:00 UTC, Monday through Friday." := by
  have routed : (buildApp FAQ silentLlm "m").triage.route id openingHours = some "hours" := by
    decide +kernel
  have settled : ((buildApp FAQ silentLlm "m").ask id openingHours).escalated = none := by
    simp only [Assistant.ask, routed]
  rcases endpointsAgree FAQ silentLlm "m" id openingHours with ⟨_, _, _, settles⟩
  rcases settles settled with
    ⟨key, answer, body, data, decoded, found, held, asked, streamed, read, loaded, _, content⟩
  cases routed.symm.trans found
  have entry : FAQ.lookup "hours" =
      some "Support is staffed 09:00 to 17:00 UTC, Monday through Friday." := by
    decide +kernel
  cases entry.symm.trans held
  exact ⟨asked, body, data, decoded, streamed, read, loaded, content⟩

end DistributedInference.LlmComposition
