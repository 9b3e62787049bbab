import DistributedInference.LlmComposition.App

/-!
# One contract for both branches of the stream

`/ask/stream` answers with a packet of its own when triage settles the text, and forwards
the packets of the engine otherwise.  The engine yields them in batches, whose limits
depend on timing, and may end with a mark of its own.

A client reads chunks up to the first mark.  It reads exactly the chunks of the engine,
however these were batched, and on a hit one chunk that reads like any other.
-/

namespace DistributedInference.LlmComposition

open Json Python

/-! ## The client -/

/-- The data of an event, whose lines are joined by line feeds. -/
def eventData (event : Sse.Event) : List Char :=
  List.intercalate ['\n'] event.dataLines

/-- The chunks that a client reads; `none` if one of them is not JSON.  It stops at the
first event whose data start with the mark. -/
def readChunks : List Sse.Event → Option (List Value)
  | [] => some []
  | event :: events =>
      if "[DONE]".toList <+: eventData event then some []
      else do
        let chunk ← loads (eventData event)
        let chunks ← readChunks events
        return chunk :: chunks

/-- A packet of the engine, with the chunk in it. -/
def Carries (packet : String) (chunk : Value) : Prop :=
  ∃ data, packet.toList = Sse.packet data ∧ Sse.Unbroken data ∧
    ¬ "[DONE]".toList <+: data ∧ loads data = some chunk

@[simp] theorem eventData_message (data : List Char) :
    eventData (Sse.message data) = data := by
  simp [eventData, Sse.message]

/-- The packets that the ingress writes itself are of that kind. -/
theorem carries_ssePacket (text modelId : String) :
    Carries (ssePacket text modelId) (chunk text modelId) := by
  refine ⟨_, toList_ssePacket text modelId, unbroken_dumps _, ?_, loads_dumps _⟩
  intro marked
  rw [chunk, Value.dumps] at marked
  revert marked
  simp [List.cons_prefix_cons]

/-- Packets, by their data. -/
theorem exists_payloads {packets : List String} {chunks : List Value}
    (carried : List.Forall₂ Carries packets chunks) :
    ∃ payloads : List (List Char),
      packets.flatMap String.toList = payloads.flatMap Sse.packet ∧
      (∀ data ∈ payloads, Sse.Unbroken data) ∧
      ∀ events, readChunks (payloads.map Sse.message ++ events) =
        (readChunks events).map (chunks ++ ·) := by
  induction carried with
  | nil => exact ⟨[], rfl, by simp, fun events => by simp⟩
  | @cons packet chunk packets chunks carries _ ih =>
      rcases carries with ⟨data, same, unbroken, unmarked, read⟩
      rcases ih with ⟨payloads, flat, allUnbroken, reads⟩
      refine ⟨data :: payloads, ?_, List.forall_mem_cons.mpr ⟨unbroken, allUnbroken⟩, ?_⟩
      · rw [List.flatMap_cons, List.flatMap_cons, same, flat]
      · intro events
        rw [List.map_cons, List.cons_append, readChunks, eventData_message,
          if_neg unmarked, read, reads]
        cases readChunks events <;> rfl

theorem readChunks_marked (events : List Sse.Event) :
    readChunks (Sse.message "[DONE]".toList :: events) = some [] := by
  rw [readChunks, eventData_message, if_pos (List.prefix_refl _)]

/-- The body of a forwarded stream: the batches make no difference to its text. -/
theorem toList_join_batches (batches : List (List String)) :
    (String.join (batches.map String.join ++ [DONE])).toList =
      batches.flatten.flatMap String.toList ++ DONE.toList := by
  rw [String.toList_join, List.flatMap_append, List.flatMap_singleton]
  congr 1
  induction batches with
  | nil => rfl
  | cons batch batches ih =>
      rw [List.map_cons, List.flatMap_cons, String.toList_join, ih, List.flatten_cons,
        List.flatMap_append]

/-- What a client reads of a forwarded stream. -/
theorem readChunks_forwarded (batches : List (List String)) {packets ending : List String}
    {chunks : List Value} (flat : batches.flatten = packets ++ ending)
    (carried : List.Forall₂ Carries packets chunks) (ends : ending = [] ∨ ending = [DONE]) :
    readChunks (received (batches.map String.join ++ [DONE])) = some chunks := by
  rcases exists_payloads carried with ⟨payloads, same, unbroken, reads⟩
  have marks : ∃ count : Nat, ending.flatMap String.toList ++ DONE.toList =
      (List.replicate (count + 1) "[DONE]".toList).flatMap Sse.packet := by
    rcases ends with rfl | rfl
    · exact ⟨0, rfl⟩
    · exact ⟨1, rfl⟩
  rcases marks with ⟨count, marks⟩
  have body : (String.join (batches.map String.join ++ [DONE])).toList =
      (payloads ++ List.replicate (count + 1) "[DONE]".toList).flatMap Sse.packet := by
    rw [toList_join_batches, flat, List.flatMap_append, List.append_assoc, marks, same,
      List.flatMap_append]
  have allUnbroken : ∀ data ∈ payloads ++ List.replicate (count + 1) "[DONE]".toList,
      Sse.Unbroken data := by
    intro data member
    rcases List.mem_append.mp member with listed | mark
    · exact unbroken data listed
    · rw [List.eq_of_mem_replicate mark]
      decide
  rw [received, body, Sse.parse_packets allUnbroken, List.map_append, reads,
    List.replicate_succ, List.map_cons, readChunks_marked]
  simp

/-! ## Both branches -/

/-- The texts of the first choices of some chunks, one behind the other. -/
def answerText (chunks : List Value) : String :=
  String.join (chunks.filterMap deltaContent)

/-- On every text the client of the stream reads chunks to the end: on a hit one chunk
with the answer that `/ask` gives, otherwise exactly what the engine has sent, whatever
the batches are and whether or not the engine marks the end itself. -/
theorem askStream_read (faq : Faq) (llm : LlmServer) (modelId : String) (lower : Lower)
    (text : PyString) :
    let ask := (buildApp faq llm modelId).ask lower text
    let askStream := (buildApp faq llm modelId).askStream lower text
    (askStream.escalated = none → ∃ answer body chunks,
      ask.result = .ok (some { answer := some answer, usedLlm := false }) ∧
      askStream.result = .ok body ∧ readChunks (received body) = some chunks ∧
      answerText chunks = answer ∧ ∀ chunk ∈ chunks, model chunk = some modelId) ∧
    ∀ request, askStream.escalated = some request →
      ∀ packets ending chunks, (llm.batches request).flatten = packets ++ ending →
        List.Forall₂ Carries packets chunks → ending = [] ∨ ending = [DONE] →
          ∃ body, askStream.result = .ok body ∧
            readChunks (received body) = some chunks := by
  intro ask askStream
  cases routed : (buildApp faq llm modelId).triage.route lower text with
  | some hit =>
      rcases exists_answer_of_route routed with ⟨answer, _, asked, streamed⟩
      have asked : ask = _ := asked
      have streamed : askStream = _ := streamed
      rw [asked, streamed]
      constructor
      case right =>
        intro request escalated
        cases escalated
      intro _
      refine ⟨answer, _, [chunk answer modelId], rfl, rfl, ?_, ?_, ?_⟩
      · have carried : List.Forall₂ Carries [ssePacket answer modelId]
            [chunk answer modelId] := .cons (carries_ssePacket answer modelId) .nil
        have read := readChunks_forwarded [[ssePacket answer modelId]] rfl carried
          (.inl rfl)
        simpa [String.join] using read
      · simp [answerText, String.join]
      · intro chunk member
        cases List.mem_singleton.mp member
        exact model_chunk answer modelId
  | none =>
      have streamed : askStream =
          { escalated := some ((buildApp faq llm modelId).chatRequest text true)
            result := .ok ((llm.batches
              ((buildApp faq llm modelId).chatRequest text true)).map String.join ++
                [DONE]) } := by
        simp only [askStream, Assistant.askStream, routed]
        rfl
      rw [streamed]
      constructor
      · intro settled
        cases settled
      · intro request escalated packets ending chunks flat carried ends
        cases escalated
        exact ⟨_, rfl, readChunks_forwarded _ flat carried ends⟩

/-- An engine that yields three packets and its mark in three batches, one of them
empty. -/
def threePackets : LlmServer where
  responses _ := []
  batches _ := [[ssePacket "a" "m", ssePacket "b" "m"], [], [ssePacket "c" "m", DONE]]

theorem askStream_read_threePackets :
    ∃ body, ((buildApp ∅ threePackets "m").askStream id (.ofString "hi")).result = .ok body ∧
      readChunks (received body) = some [chunk "a" "m", chunk "b" "m", chunk "c" "m"] := by
  have carried : List.Forall₂ Carries
      [ssePacket "a" "m", ssePacket "b" "m", ssePacket "c" "m"]
      [chunk "a" "m", chunk "b" "m", chunk "c" "m"] :=
    .cons (carries_ssePacket _ _) (.cons (carries_ssePacket _ _)
      (.cons (carries_ssePacket _ _) .nil))
  have read := (askStream_read ∅ threePackets "m" id (.ofString "hi")).2
  have flat (request : ChatCompletionRequest) : (threePackets.batches request).flatten =
      [ssePacket "a" "m", ssePacket "b" "m", ssePacket "c" "m"] ++ [DONE] := by
    simp [threePackets]
  exact read _ rfl _ _ _ (flat _) carried (.inr rfl)

end DistributedInference.LlmComposition
