import DistributedInference.LlmEngine.LoadTest

/-!
# Three readers of one stream

Three clients of the endpoint read streamed completions with a loop of their own:
`_one_request` of the load generator, `chat_stream` of the query script, and
`time_to_first_token` of the verification.  All take the first choice of a chunk and skip
chunks without text; they differ in what they keep, and the last one stops at the first
text and closes the stream.

On every stream they agree: the load generator counts what `chat_stream` yields, both
meet the same exception, and both times to the first token are those of its first yield.
-/

namespace DistributedInference.LlmEngine

/-! ## The other two readers -/

/-- The loop of `chat_stream`: what it yields, with the clock at each yield, and the
exception that ends it. -/
def yields : Stream → List (ℚ × String) × Option Raised
  | .chunk clock chunk rest =>
      match chunk.choices with
      | [] => ([], some .indexError)
      | delta :: _ =>
          let later := yields rest
          match delta with
          | none => later
          | some text => if text ≠ "" then ((clock, text) :: later.1, later.2) else later
  | .ended _ => ([], none)
  | .raised => ([], some .client)

/-- `chat_stream`. -/
def chatStream (request : Request) : List (ℚ × String) × Option Raised :=
  match request.stream with
  | some stream => yields stream
  | none => ([], some .client)

/-- The loop of `time_to_first_token`, which returns at the first text.  Without any the
result is `float("nan")`, for which there is no number. -/
def firstText (start : ℚ) : Stream → Except Raised (Option ℚ)
  | .chunk clock chunk rest =>
      match chunk.choices with
      | [] => .error .indexError
      | delta :: _ =>
          if hasText delta then .ok (some (clock - start)) else firstText start rest
  | .ended _ => .ok none
  | .raised => .error .client

/-- `time_to_first_token`.  The stream is closed on the way out, whatever is unread. -/
def timeToFirstToken (request : Request) : Except Raised (Option ℚ) :=
  match request.stream with
  | some stream => firstText request.start stream
  | none => .error .client

/-! ## On one stream -/

/-- The time to the first yield. -/
def firstYield (start : ℚ) (yielded : List (ℚ × String)) : Option ℚ :=
  yielded.head?.map fun first => first.1 - start

/-- A chunk is skipped by the generator and by the load generator alike. -/
theorem yields_chunk {clock : ℚ} {chunk : Chunk} {rest : Stream} {delta : Option String}
    {others : List (Option String)} (choices : chunk.choices = delta :: others) :
    yields (.chunk clock chunk rest) =
      if hasText delta then ((clock, delta.getD "") :: (yields rest).1, (yields rest).2)
      else yields rest := by
  rw [yields, choices]
  cases delta with
  | none => rfl
  | some text =>
      simp only [hasText, Option.any_some, decide_eq_true_eq, Option.getD_some]

/-- The body of the loop of the load generator, likewise. -/
theorem readStream_chunk {start clock : ℚ} {progress : Progress} {chunk : Chunk}
    {rest : Stream} {delta : Option String} {others : List (Option String)}
    (choices : chunk.choices = delta :: others) :
    readStream start progress (.chunk clock chunk rest) =
      readStream start
        (if hasText delta then
          ⟨some (progress.ttft.getD (clock - start)), progress.tokens + 1⟩
        else progress) rest := by
  rw [readStream, readChunk, choices]
  by_cases text : hasText delta = true
  · simp only [text, if_true]
    rfl
  · simp only [text]
    rfl

/-- The load generator, by what the generator yields. -/
theorem readStream_eq (start : ℚ) (progress : Progress) (stream : Stream) :
    readStream start progress stream =
      match (yields stream).2 with
      | some raised => .error raised
      | none => .ok (measure start (stream.endClock.getD 0)
          ⟨progress.ttft.or (firstYield start (yields stream).1),
            progress.tokens + (yields stream).1.length⟩) := by
  induction stream generalizing progress with
  | ended clock => simp [readStream, yields, firstYield, Stream.endClock]
  | raised => rfl
  | chunk clock chunk rest ih =>
      cases choices : chunk.choices with
      | nil => simp [readStream, readChunk, yields, choices, bind, Except.bind]
      | cons delta others =>
          rw [yields_chunk choices, readStream_chunk choices]
          by_cases text : hasText delta = true
          · rw [if_pos text, if_pos text, ih]
            simp only [Stream.endClock, firstYield, List.head?_cons, Option.map_some,
              List.length_cons]
            rw [Nat.add_right_comm, Nat.add_assoc]
            cases progress.ttft <;> rfl
          · rw [if_neg text, if_neg text]
            exact ih _

/-- The verification, by what the generator yields. -/
theorem firstText_eq (start : ℚ) (stream : Stream) :
    firstText start stream =
      match firstYield start (yields stream).1, (yields stream).2 with
      | some first, _ => .ok (some first)
      | none, some raised => .error raised
      | none, none => .ok none := by
  induction stream with
  | ended clock => rfl
  | raised => rfl
  | chunk clock chunk rest ih =>
      cases choices : chunk.choices with
      | nil => simp [firstText, yields, choices, firstYield]
      | cons delta others =>
          rw [yields_chunk choices, firstText, choices]
          by_cases text : hasText delta = true
          · simp [text, firstYield]
          · rw [if_neg text]
            simp only [text, Bool.false_eq_true, if_false]
            exact ih

/-! ## The agreement -/

/-- What the three clients make of one request. -/
structure ClientsAgree (request : Request) : Prop where
  /-- The load generator returns exactly when `chat_stream` comes to its end, and meets
  its exception otherwise. -/
  raises : ∀ raised,
    oneRequest request = .error raised ↔ (chatStream request).2 = some raised
  /-- It counts what `chat_stream` yields. -/
  tokens : (oneRequest request).toOption.map Measurement.tokens =
    if (chatStream request).2 = none then some (chatStream request).1.length else none
  /-- The verification returns at the first yield, before an exception behind it. -/
  first : timeToFirstToken request =
    match firstYield request.start (chatStream request).1, (chatStream request).2 with
    | some first, _ => .ok (some first)
    | none, some raised => .error raised
    | none, none => .ok none
  /-- Where both return, they have measured the same, up to `ttft or total`. -/
  ttft : ∀ measured, oneRequest request = .ok measured →
    ∃ first, timeToFirstToken request = .ok first ∧
      measured.ttft = orTotal first measured.total

theorem clientsAgree (request : Request) : ClientsAgree request := by
  obtain ⟨start, stream⟩ := request
  cases stream with
  | none =>
      refine ⟨fun raised => ?_, rfl, rfl, fun measured returned => ?_⟩
      · simp [oneRequest, chatStream]
      · cases returned
  | some stream =>
      have load : oneRequest ⟨start, some stream⟩ = _ := readStream_eq start ⟨none, 0⟩ stream
      have first : timeToFirstToken ⟨start, some stream⟩ = _ := firstText_eq start stream
      have chat : chatStream ⟨start, some stream⟩ = yields stream := rfl
      cases ends : (yields stream).2 with
      | some raised =>
          rw [ends] at load
          refine ⟨fun other => ?_, ?_, ?_, fun measured returned => ?_⟩
          · simp [load, chat, ends]
          · rw [load, chat, ends]
            rfl
          · rw [first, chat]
          · rw [load] at returned
            cases returned
      | none =>
          rw [ends] at load first
          refine ⟨fun other => ?_, ?_, ?_, fun measured returned => ?_⟩
          · simp [load, chat, ends]
          · rw [load, chat, ends, if_pos rfl]
            simp [Except.toOption, measure]
          · rw [first, chat, ends]
          · rw [load] at returned
            cases returned
            refine ⟨firstYield start (yields stream).1, ?_, rfl⟩
            rw [first]
            cases firstYield start (yields stream).1 <;> rfl

end DistributedInference.LlmEngine
