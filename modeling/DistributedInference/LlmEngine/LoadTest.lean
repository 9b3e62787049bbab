import DistributedInference.Concurrency.Pool
import DistributedInference.Floating.Rounding
import Mathlib.Algebra.BigOperators.Group.Multiset.Basic
import Mathlib.Algebra.Group.Prod
import Mathlib.Data.List.Sort

/-!
# The load generator of an LLM endpoint

`load_test` keeps a bounded number of requests in flight and lets every request that
ends add its measurements to variables that all of them share.  A request runs without
interruption from one `await` to the next; in which order the requests go on is open.

What the endpoint sends, and what `perf_counter` shows when a request goes on, comes
with the request.  Numbers are exact, and numpy is a parameter; a mean of floats rounds
at every addition, so that its last decimal can depend on the order of the samples.
-/

namespace DistributedInference.LlmEngine

open Concurrency Floating Python Transition

/-- The exceptions of a request. -/
inductive Raised where
  /-- Whatever the client raises. -/
  | client
  | indexError
  | zeroDivisionError
  deriving DecidableEq

/-! ## One request -/

/-- `choices` of a chunk, each by its `delta.content`. -/
structure Chunk where
  choices : List (Option String)
  deriving DecidableEq

/-- What `async for` receives, with the clock when the request goes on. -/
inductive Stream where
  | chunk (clock : ℚ) (chunk : Chunk) (rest : Stream)
  | ended (clock : ℚ)
  | raised
  deriving DecidableEq

/-- A request: the clock at its start, and the stream that `create` returns, unless it
raises. -/
structure Request where
  start : ℚ
  stream : Option Stream
  deriving DecidableEq

/-- What `_one_request` returns. -/
structure Measurement where
  ttft : ℚ
  total : ℚ
  tokens : Nat
  deriving DecidableEq

/-- The variables of the loop of `_one_request`. -/
structure Progress where
  ttft : Option ℚ
  tokens : Nat
  deriving DecidableEq

/-- `if delta`. -/
def hasText (delta : Option String) : Bool :=
  delta.any (· ≠ "")

/-- The body of the loop. -/
def readChunk (start clock : ℚ) (progress : Progress) (chunk : Chunk) :
    Except Raised Progress :=
  match chunk.choices with
  | [] => .error .indexError
  | delta :: _ =>
      if hasText delta then
        .ok ⟨some (progress.ttft.getD (clock - start)), progress.tokens + 1⟩
      else .ok progress

/-- `ttft or total`. -/
def orTotal (ttft : Option ℚ) (total : ℚ) : ℚ :=
  match ttft with
  | some ttft => if ttft ≠ 0 then ttft else total
  | none => total

/-- What is returned behind the loop. -/
def measure (start clock : ℚ) (progress : Progress) : Measurement where
  ttft := orTotal progress.ttft (clock - start)
  total := clock - start
  tokens := progress.tokens

/-- The loop, to its end. -/
def readStream (start : ℚ) (progress : Progress) : Stream → Except Raised Measurement
  | .chunk clock chunk rest => do
      let progress ← readChunk start clock progress chunk
      readStream start progress rest
  | .ended clock => .ok (measure start clock progress)
  | .raised => .error .client

/-- `_one_request`. -/
def oneRequest (request : Request) : Except Raised Measurement :=
  match request.stream with
  | some stream => readStream request.start ⟨none, 0⟩ stream
  | none => .error .client

/-! ## A request among others -/

/-- Where a request waits. -/
inductive Frame where
  /-- At `await client.chat.completions.create(…)`. -/
  | awaitCreate (start : ℚ) (stream : Option Stream)
  /-- At the next turn of `async for`. -/
  | awaitChunk (start : ℚ) (progress : Progress) (stream : Stream)
  deriving DecidableEq

namespace Frame

/-- `_one_request` from one `await` to the next. -/
def resume : Frame → Except Raised (Frame ⊕ Measurement)
  | .awaitCreate _ none => .error .client
  | .awaitCreate start (some stream) => .ok (.inl (.awaitChunk start ⟨none, 0⟩ stream))
  | .awaitChunk start progress (.chunk clock chunk rest) => do
      let progress ← readChunk start clock progress chunk
      return .inl (.awaitChunk start progress rest)
  | .awaitChunk start progress (.ended clock) =>
      .ok (.inr (measure start clock progress))
  | .awaitChunk _ _ .raised => .error .client

/-- `_one_request` from an `await` to its end. -/
def finish : Frame → Except Raised Measurement
  | .awaitCreate start stream => oneRequest ⟨start, stream⟩
  | .awaitChunk start progress stream => readStream start progress stream

/-- Going on step by step leads to the same end. -/
theorem finish_eq (frame : Frame) :
    frame.finish =
      match frame.resume with
      | .error raised => .error raised
      | .ok (.inl next) => next.finish
      | .ok (.inr measurement) => .ok measurement := by
  cases frame with
  | awaitCreate start stream => cases stream <;> rfl
  | awaitChunk start progress stream =>
      cases stream with
      | chunk clock chunk rest =>
          rw [finish, readStream, resume]
          cases readChunk start clock progress chunk <;> rfl
      | ended | raised => rfl

end Frame

/-! ## The shared variables -/

/-- The variables that the requests share. -/
structure Totals where
  ttftsMs : List ℚ
  tpotsMs : List ℚ
  totalTokens : Nat
  errors : Nat
  deriving DecidableEq

/-- Division as in Python. -/
def truediv (dividend divisor : ℚ) : Except Raised ℚ :=
  if divisor = 0 then .error .zeroDivisionError else .ok (dividend / divisor)

/-- What `one` does with the measurements of a request. -/
def record (measured : Measurement) : ExceptT Raised (StateM Totals) Unit := do
  modify fun totals =>
    { totals with ttftsMs := totals.ttftsMs ++ [measured.ttft * 1000] }
  modify fun totals =>
    { totals with totalTokens := totals.totalTokens + measured.tokens }
  if measured.tokens > 1 then
    let tpot ← liftExcept
      (truediv (measured.total - measured.ttft) ((measured.tokens : ℚ) - 1))
    modify fun totals => { totals with tpotsMs := totals.tpotsMs ++ [tpot * 1000] }

/-- The `try` block of `one` from one `await` to the next. -/
def tryOne (frame : Frame) : ExceptT Raised (StateM Totals) (Option Frame) := do
  match ← liftExcept frame.resume with
  | .inl next => return some next
  | .inr measured =>
      record measured
      return none

/-- `one`, with its handler.  What the block has changed before it raises stays. -/
def one (frame : Frame) : StateM Totals (Option Frame) := do
  match ← (tryOne frame).run with
  | .ok rest => return rest
  | .error _ =>
      modify fun totals => { totals with errors := totals.errors + 1 }
      return none

/-- The task of one request. -/
def task : Task Request Frame Totals where
  enter request := .awaitCreate request.start request.stream
  resume := one

/-- The tasks that `gather` runs. -/
def loadTest (requests : List Request) (concurrency : Nat) :
    System (Pool Request Frame Totals) Nat :=
  task.pool requests concurrency ⟨[], [], 0, 0⟩

/-! ## The report -/

/-- The functions of numpy that `load_test` uses.  The percentiles of an array are taken
from a sorted copy, and there are none of an empty one. -/
structure Numpy where
  percentile : List ℚ → ℚ → Except Raised ℚ
  mean : List ℚ → ℚ
  percentile_ok : ∀ values percent, values ≠ [] → 0 ≤ percent → percent ≤ 100 →
    ∃ value, percentile values percent = .ok value
  percentile_sorted : ∀ values percent,
    percentile values percent = percentile (values.mergeSort (· ≤ ·)) percent

/-- The mean is the exact sum divided by the number of elements. -/
def Numpy.ExactMean (numpy : Numpy) : Prop :=
  ∀ values, values ≠ [] → numpy.mean values = values.sum / values.length

/-- What `load_test` returns. -/
structure Report where
  ok : ℤ
  errors : Nat
  elapsedS : ℚ
  throughputTokS : ℚ
  ttftP50Ms : ℚ
  ttftP99Ms : ℚ
  tpotMsMean : ℚ
  deriving DecidableEq

/-- `throughput_tok_s`. -/
def throughput (totalTokens : Nat) (elapsedS : ℚ) : Except Raised ℚ :=
  if elapsedS ≠ 0 then roundTo 1 <$> truediv totalTokens elapsedS else .ok 0

/-- The end of `load_test`, behind `gather`. -/
def report (numpy : Numpy) (totalRequests : Nat) (totals : Totals) (elapsedS : ℚ) :
    Except Raised Report := do
  let ttftArr := if totals.ttftsMs ≠ [] then totals.ttftsMs else [0]
  let throughputTokS ← throughput totals.totalTokens elapsedS
  let ttftP50Ms ← numpy.percentile ttftArr 50
  let ttftP99Ms ← numpy.percentile ttftArr 99
  return {
    ok := (totalRequests : ℤ) - totals.errors
    errors := totals.errors
    elapsedS := roundTo 3 elapsedS
    throughputTokS := throughputTokS
    ttftP50Ms := roundTo 1 ttftP50Ms
    ttftP99Ms := roundTo 1 ttftP99Ms
    tpotMsMean :=
      if totals.tpotsMs ≠ [] then roundTo 1 (numpy.mean totals.tpotsMs) else 0 }

/-! ## What a request measures -/

/-- Whether a chunk counts as a token. -/
def Chunk.isToken (chunk : Chunk) : Bool :=
  chunk.choices.head?.any hasText

namespace Stream

/-- The clock at the chunks that count as tokens. -/
def tokenClocks : Stream → List ℚ
  | .chunk clock received rest =>
      if received.isToken then clock :: rest.tokenClocks else rest.tokenClocks
  | .ended _ => []
  | .raised => []

/-- The clock at the end, if there is one without an exception. -/
def endClock : Stream → Option ℚ
  | .chunk _ _ rest => rest.endClock
  | .ended clock => some clock
  | .raised => none

end Stream

/-- The measurements of a stream.  A request whose first token comes without delay, or
not at all, has its total time for the time to the first token. -/
structure Measures (start : ℚ) (stream : Stream) (measured : Measurement) : Prop where
  tokens : measured.tokens = stream.tokenClocks.length
  total : stream.endClock = some (start + measured.total)
  ttft : measured.ttft =
    orTotal (stream.tokenClocks.head?.map (· - start)) measured.total

/-- The first token stops the time. -/
theorem readChunk_of_isToken {start clock : ℚ} {progress next : Progress} {chunk : Chunk}
    (token : chunk.isToken = true)
    (read : readChunk start clock progress chunk = .ok next) :
    next = ⟨some (progress.ttft.getD (clock - start)), progress.tokens + 1⟩ := by
  rw [readChunk] at read
  rw [Chunk.isToken] at token
  split at read
  next empty => cases read
  next delta later choices =>
    rw [choices, List.head?_cons, Option.any_some] at token
    rw [if_pos token] at read
    cases read
    rfl

theorem readChunk_of_not_isToken {start clock : ℚ} {progress next : Progress}
    {chunk : Chunk} (noToken : ¬chunk.isToken = true)
    (read : readChunk start clock progress chunk = .ok next) : next = progress := by
  rw [readChunk] at read
  rw [Chunk.isToken] at noToken
  split at read
  next empty => cases read
  next delta later choices =>
    rw [choices, List.head?_cons, Option.any_some] at noToken
    rw [if_neg noToken] at read
    cases read
    rfl

theorem readStream_eq_ok {start : ℚ} {progress : Progress} {stream : Stream}
    {measured : Measurement}
    (returned : readStream start progress stream = .ok measured) :
    measured.tokens = progress.tokens + stream.tokenClocks.length ∧
      stream.endClock = some (start + measured.total) ∧
      measured.ttft = orTotal
        (progress.ttft.or (stream.tokenClocks.head?.map (· - start))) measured.total := by
  induction stream generalizing progress with
  | chunk clock chunk rest ih =>
      rw [readStream] at returned
      cases read : readChunk start clock progress chunk with
      | error raised =>
          rw [read] at returned
          cases returned
      | ok next =>
          rw [read] at returned
          rcases ih returned with ⟨tokens, total, ttft⟩
          rw [Stream.tokenClocks, Stream.endClock]
          by_cases token : chunk.isToken = true
          · cases readChunk_of_isToken token read
            rw [if_pos token, List.length_cons, tokens, ttft]
            refine ⟨Nat.add_right_comm _ _ _, total, ?_⟩
            cases progress.ttft <;> rfl
          · cases readChunk_of_not_isToken token read
            rw [if_neg token]
            exact ⟨tokens, total, ttft⟩
  | ended clock =>
      cases returned
      refine ⟨rfl, ?_, ?_⟩
      · rw [Stream.endClock, measure, add_sub_cancel]
      · rw [measure, Stream.tokenClocks, List.head?_nil, Option.map_none, Option.or_none]
  | raised => cases returned

/-- A request that does not raise measures the stream that it received. -/
theorem measures_of_oneRequest {request : Request} {measured : Measurement}
    (returned : oneRequest request = .ok measured) :
    ∃ stream, request.stream = some stream ∧
      Measures request.start stream measured := by
  rw [oneRequest] at returned
  cases received : request.stream with
  | none =>
      rw [received] at returned
      cases returned
  | some stream =>
      rw [received] at returned
      rcases readStream_eq_ok returned with ⟨tokens, total, ttft⟩
      exact ⟨stream, rfl, by rw [tokens, Nat.zero_add], total, ttft⟩

/-! ## What a request contributes -/

/-- The time per token behind the first, of a request with more than one. -/
def tpotMs (measured : Measurement) : ℚ :=
  (measured.total - measured.ttft) / ((measured.tokens : ℚ) - 1) * 1000

/-- What a request adds when it does not raise. -/
def Totals.add (totals : Totals) (measured : Measurement) : Totals where
  ttftsMs := totals.ttftsMs ++ [measured.ttft * 1000]
  tpotsMs := totals.tpotsMs ++ if 1 < measured.tokens then [tpotMs measured] else []
  totalTokens := totals.totalTokens + measured.tokens
  errors := totals.errors

/-- The measurements are taken over as a whole, without an exception. -/
theorem record_run (measured : Measurement) (totals : Totals) :
    record measured totals = (.ok (), totals.add measured) := by
  rw [record, Totals.add]
  by_cases several : 1 < measured.tokens
  · have positive : (measured.tokens : ℚ) - 1 ≠ 0 := by
      rw [sub_ne_zero]
      exact_mod_cast several.ne'
    rw [if_pos several, if_pos several, truediv, if_neg positive]
    rfl
  · rw [if_neg several, if_neg several, List.append_nil]
    rfl

theorem bind_of_ok {First Second : Type} {first : ExceptT Raised (StateM Totals) First}
    {second : First → ExceptT Raised (StateM Totals) Second} {value : First}
    {before after : Totals} (returned : first before = (.ok value, after)) :
    (first >>= second) before = second value after := by
  change (ExceptT.bindCont second (first before).1) (first before).2 = _
  rw [returned]
  rfl

/-- The handler sees what the block has left. -/
theorem one_of_tryOne {frame : Frame} {before after : Totals}
    {result : Except Raised (Option Frame)}
    (tried : tryOne frame before = (result, after)) :
    one frame before =
      match result with
      | .ok rest => (rest, after)
      | .error _ => (none, { after with errors := after.errors + 1 }) := by
  simp only [one, ExceptT.run, bind, StateT.bind, tried]
  cases result <;> rfl

/-- `one` either goes on and changes nothing, or ends and counts its request once. -/
theorem one_run (frame : Frame) (totals : Totals) :
    one frame totals =
      match frame.resume with
      | .error _ => (none, { totals with errors := totals.errors + 1 })
      | .ok (.inl next) => (some next, totals)
      | .ok (.inr measured) => (none, totals.add measured) := by
  cases resumed : frame.resume with
  | error raised =>
      have tried : tryOne frame totals = (.error raised, totals) := by
        rw [tryOne, resumed]
        rfl
      exact one_of_tryOne tried
  | ok result =>
      cases result with
      | inl next =>
          have tried : tryOne frame totals = (.ok (some next), totals) := by
            rw [tryOne, resumed]
            rfl
          exact one_of_tryOne tried
      | inr measured =>
          have tried : tryOne frame totals = (.ok none, totals.add measured) := by
            rw [tryOne, resumed]
            exact bind_of_ok (record_run measured totals)
          exact one_of_tryOne tried

/-- The moves of a request. -/
inductive Moves : Phase Request Frame → Totals → Phase Request Frame → Totals → Prop
  | enters (request : Request) (totals : Totals) :
      Moves (.waiting request) totals
        (.running (.awaitCreate request.start request.stream)) totals
  | goesOn {frame next : Frame} (totals : Totals)
      (resumed : frame.resume = .ok (.inl next)) :
      Moves (.running frame) totals (.running next) totals
  | raises {frame : Frame} (totals : Totals) {raised : Raised}
      (resumed : frame.resume = .error raised) :
      Moves (.running frame) totals .finished { totals with errors := totals.errors + 1 }
  | returns {frame : Frame} (totals : Totals) {measured : Measurement}
      (resumed : frame.resume = .ok (.inr measured)) :
      Moves (.running frame) totals .finished (totals.add measured)

theorem moves_of_move {phase next : Phase Request Frame} {permits permits' : Nat}
    {totals totals' : Totals}
    (moved : task.move phase permits totals = some (next, permits', totals')) :
    Moves phase totals next totals' := by
  cases phase with
  | waiting request =>
      cases permits with
      | zero => cases moved
      | succ permits =>
          cases moved
          exact .enters request totals
  | running frame =>
      simp only [Task.move, task, one_run] at moved
      cases resumed : frame.resume with
      | error raised =>
          rw [resumed] at moved
          cases moved
          exact .raises totals resumed
      | ok result =>
          rw [resumed] at moved
          cases result with
          | inl next =>
              cases moved
              exact .goesOn totals resumed
          | inr measured =>
              cases moved
              exact .returns totals resumed
  | finished => cases moved

/-- Errors, tokens, times to the first token and times per token, without an order. -/
abbrev Summary := Nat × Nat × Multiset ℚ × Multiset ℚ

def Totals.summary (totals : Totals) : Summary :=
  (totals.errors, totals.totalTokens, totals.ttftsMs, totals.tpotsMs)

/-- What a request adds to the summary. -/
def contribution : Except Raised Measurement → Summary
  | .error _ => (1, 0, 0, 0)
  | .ok measured =>
      (0, measured.tokens, {measured.ttft * 1000},
        if 1 < measured.tokens then {tpotMs measured} else 0)

theorem summary_add (totals : Totals) (measured : Measurement) :
    (totals.add measured).summary = contribution (.ok measured) + totals.summary := by
  rw [Totals.add, Totals.summary, contribution, Totals.summary]
  simp only [Prod.mk_add_mk, Prod.mk.injEq, ← Multiset.coe_add]
  refine ⟨(Nat.zero_add _).symm, Nat.add_comm _ _, add_comm _ _, ?_⟩
  split <;> exact add_comm _ _

theorem summary_error (totals : Totals) (raised : Raised) :
    { totals with errors := totals.errors + 1 }.summary =
      contribution (.error raised) + totals.summary := by
  rw [Totals.summary, contribution, Totals.summary]
  simp only [Prod.mk_add_mk, Prod.mk.injEq, zero_add, and_true]
  exact Nat.add_comm _ _

/-- What a request has still to contribute. -/
def share : Phase Request Frame → Summary
  | .waiting request => contribution (oneRequest request)
  | .running frame => contribution frame.finish
  | .finished => 0

/-- A request contributes at its end, in one piece. -/
theorem conserves_summary :
    task.Conserves share fun _ totals => totals.summary := by
  intro phase permits totals next permits' totals' moved
  cases moves_of_move moved with
  | enters request => rfl
  | @goesOn frame _ _ resumed => rw [share, share, frame.finish_eq, resumed]
  | raises _ resumed =>
      rw [share, share, Frame.finish_eq, resumed, zero_add]
      exact summary_error totals _
  | returns _ resumed =>
      rw [share, share, Frame.finish_eq, resumed, zero_add]
      exact summary_add totals _

/-! ## The totals of all requests -/

/-- The measurements of the requests that do not raise. -/
def measurements (requests : List Request) : List Measurement :=
  requests.filterMap fun request => (oneRequest request).toOption

/-- The number of requests that raise. -/
def raisedCount (requests : List Request) : Nat :=
  requests.countP fun request => !(oneRequest request).isOk

/-- The totals in the order of the requests. -/
def totalsOf (requests : List Request) : Totals where
  ttftsMs := (measurements requests).map (·.ttft * 1000)
  tpotsMs := ((measurements requests).filter (1 < ·.tokens)).map tpotMs
  totalTokens := ((measurements requests).map (·.tokens)).sum
  errors := raisedCount requests

theorem length_measurements (requests : List Request) :
    (measurements requests).length + raisedCount requests = requests.length := by
  induction requests with
  | nil => rfl
  | cons request requests ih =>
      rw [measurements, raisedCount, List.filterMap_cons, List.countP_cons,
        List.length_cons, ← ih]
      cases oneRequest request with
      | error raised => rfl
      | ok measured => exact Nat.add_right_comm _ _ _

theorem sum_contribution (requests : List Request) :
    (requests.map fun request => contribution (oneRequest request)).sum =
      (totalsOf requests).summary := by
  induction requests with
  | nil => rfl
  | cons request requests ih =>
      rw [List.map_cons, List.sum_cons, ih]
      simp only [totalsOf, Totals.summary, measurements, raisedCount, List.filterMap_cons,
        List.countP_cons]
      cases oneRequest request with
      | error raised =>
          simp only [contribution, Prod.mk_add_mk, zero_add]
          exact Prod.ext (Nat.add_comm _ _) rfl
      | ok measured =>
          simp only [contribution, Prod.mk_add_mk, Prod.mk.injEq]
          refine ⟨Nat.zero_add _, rfl, rfl, ?_⟩
          rw [Except.toOption, List.filter_cons]
          split
          next several =>
            rw [if_pos (decide_eq_true several)]
            rfl
          next single =>
            rw [if_neg (by simpa using single)]
            exact zero_add _

/-- When all requests have ended, the totals are those of the requests, up to the order
of the samples. -/
theorem summary_of_complete {requests : List Request} {concurrency : Nat}
    {state : Pool Request Frame Totals}
    (reachable : (loadTest requests concurrency).Reachable state)
    (complete : state.Complete) :
    state.shared.summary = (totalsOf requests).summary := by
  have conserved := conserves_summary.complete rfl reachable complete
  rw [conserved, ← sum_contribution]
  exact add_zero _

/-- The shared variables account for every request exactly once. -/
structure Accounts (requests : List Request) (totals : Totals) : Prop where
  errors : totals.errors = raisedCount requests
  totalTokens : totals.totalTokens = ((measurements requests).map (·.tokens)).sum
  ttfts : totals.ttftsMs.Perm ((measurements requests).map (·.ttft * 1000))
  tpots : totals.tpotsMs.Perm
    (((measurements requests).filter (1 < ·.tokens)).map tpotMs)

theorem accounts_of_complete {requests : List Request} {concurrency : Nat}
    {state : Pool Request Frame Totals}
    (reachable : (loadTest requests concurrency).Reachable state)
    (complete : state.Complete) : Accounts requests state.shared := by
  have same := summary_of_complete reachable complete
  simp only [Totals.summary, Prod.mk.injEq, Multiset.coe_eq_coe] at same
  rcases same with ⟨errors, tokens, ttfts, tpots⟩
  exact ⟨errors, tokens, ttfts, tpots⟩

/-! ## The report -/

/-- The sample of which the percentiles are taken. -/
def ttftSample (requests : List Request) : List ℚ :=
  let sample := (measurements requests).map (·.ttft * 1000)
  if sample = [] then [0] else sample

/-- The figures of a report, where `tpots` are the times per token in the order in which
the requests ended. -/
structure Reports (numpy : Numpy) (requests : List Request) (tpots : List ℚ)
    (elapsedS : ℚ) (stats : Report) : Prop where
  ok : stats.ok = (measurements requests).length
  errors : stats.errors = raisedCount requests
  elapsed : stats.elapsedS = roundTo 3 elapsedS
  throughput : stats.throughputTokS =
    if elapsedS = 0 then 0
    else roundTo 1 (((measurements requests).map (·.tokens)).sum / elapsedS)
  ttftP50 : ∃ p50, numpy.percentile (ttftSample requests) 50 = .ok p50 ∧
    stats.ttftP50Ms = roundTo 1 p50
  ttftP99 : ∃ p99, numpy.percentile (ttftSample requests) 99 = .ok p99 ∧
    stats.ttftP99Ms = roundTo 1 p99
  tpotMean : stats.tpotMsMean = if tpots = [] then 0 else roundTo 1 (numpy.mean tpots)

theorem throughput_eq (totalTokens : Nat) (elapsedS : ℚ) :
    throughput totalTokens elapsedS =
      .ok (if elapsedS = 0 then 0 else roundTo 1 (totalTokens / elapsedS)) := by
  by_cases elapsed : elapsedS = 0
  · rw [throughput, if_neg (not_not.mpr elapsed), if_pos elapsed]
  · rw [throughput, truediv, if_pos elapsed, if_neg elapsed, if_neg elapsed]
    rfl

theorem ttftSample_ne_nil (requests : List Request) : ttftSample requests ≠ [] := by
  simp only [ttftSample]
  split
  next => exact List.cons_ne_nil _ _
  next measured => exact measured

theorem eq_nil_iff_of_perm {values others : List ℚ} (same : values.Perm others) :
    values = [] ↔ others = [] := by
  rw [← List.length_eq_zero_iff, ← List.length_eq_zero_iff, same.length_eq]

section

variable {numpy : Numpy}

theorem percentile_perm {values others : List ℚ} (same : values.Perm others)
    (percent : ℚ) :
    numpy.percentile values percent = numpy.percentile others percent := by
  have sorted : values.mergeSort (· ≤ ·) = others.mergeSort (· ≤ ·) := by
    apply List.Perm.eq_of_sortedLE List.sortedLE_mergeSort List.sortedLE_mergeSort
    exact (List.mergeSort_perm _ _).trans (same.trans (List.mergeSort_perm _ _).symm)
  rw [numpy.percentile_sorted, sorted, ← numpy.percentile_sorted]

/-- An exact mean does not depend on the order. -/
theorem mean_perm {values others : List ℚ} (exact : numpy.ExactMean)
    (same : values.Perm others) (nonempty : values ≠ []) :
    numpy.mean values = numpy.mean others := by
  have others_nonempty := (eq_nil_iff_of_perm same).not.mp nonempty
  rw [exact values nonempty, exact others others_nonempty, same.sum_eq, same.length_eq]

/-- There is always a report: nothing is divided by zero, and no percentile is taken of
an empty array. -/
theorem reports_of_accounts {requests : List Request} {totals : Totals}
    (accounts : Accounts requests totals) (elapsedS : ℚ) :
    ∃ stats, report numpy requests.length totals elapsedS = .ok stats ∧
      Reports numpy requests totals.tpotsMs elapsedS stats := by
  have nonempty := ttftSample_ne_nil requests
  rcases numpy.percentile_ok _ 50 nonempty (by norm_num) (by norm_num) with ⟨p50, median⟩
  rcases numpy.percentile_ok _ 99 nonempty (by norm_num) (by norm_num) with ⟨p99, tail⟩
  have sample : (if totals.ttftsMs ≠ [] then totals.ttftsMs else [0]).Perm
      (ttftSample requests) := by
    simp only [ttftSample, ne_eq, eq_nil_iff_of_perm accounts.ttfts, ite_not]
    split
    next => exact .refl _
    next => exact accounts.ttfts
  have count := length_measurements requests
  have ok : (requests.length : ℤ) - totals.errors = (measurements requests).length := by
    rw [accounts.errors]
    omega
  rw [report, throughput_eq]
  simp only [percentile_perm sample, median, tail]
  refine ⟨_, rfl, ok, accounts.errors, rfl, ?_, ⟨p50, median, rfl⟩, ⟨p99, tail, rfl⟩, ?_⟩
  · rw [accounts.totalTokens]
  · exact ite_not _ _ _

/-- What the order of the samples can make different is the mean. -/
theorem Reports.unique {requests : List Request} {tpots others : List ℚ} {elapsedS : ℚ}
    {stats restats : Report} (reports : Reports numpy requests tpots elapsedS stats)
    (rereports : Reports numpy requests others elapsedS restats)
    (sameMean : stats.tpotMsMean = restats.tpotMsMean) : stats = restats := by
  rcases reports.ttftP50 with ⟨p50, median, ttftP50⟩
  rcases reports.ttftP99 with ⟨p99, tail, ttftP99⟩
  rcases rereports.ttftP50 with ⟨_, remedian, rettftP50⟩
  rcases rereports.ttftP99 with ⟨_, retail, rettftP99⟩
  cases median.symm.trans remedian
  cases tail.symm.trans retail
  rcases stats with ⟨ok, errors, elapsed, throughput, first, last, mean⟩
  rcases restats with ⟨reok, reerrors, reelapsed, rethroughput, refirst, relast, remean⟩
  simp only [Report.mk.injEq]
  exact ⟨reports.ok.trans rereports.ok.symm, reports.errors.trans rereports.errors.symm,
    reports.elapsed.trans rereports.elapsed.symm,
    reports.throughput.trans rereports.throughput.symm, ttftP50.trans rettftP50.symm,
    ttftP99.trans rettftP99.symm, sameMean⟩

/-- Where the mean is exact, the report does not depend on the order. -/
theorem report_eq_of_accounts {requests : List Request} {left right : Totals}
    (exact : numpy.ExactMean) (leftAccounts : Accounts requests left)
    (rightAccounts : Accounts requests right) (elapsedS : ℚ) :
    report numpy requests.length left elapsedS =
      report numpy requests.length right elapsedS := by
  rcases reports_of_accounts leftAccounts elapsedS with ⟨stats, reported, reports⟩
  rcases reports_of_accounts rightAccounts elapsedS with ⟨restats, rereported, rereports⟩
  have same := leftAccounts.tpots.trans rightAccounts.tpots.symm
  have sameMean : stats.tpotMsMean = restats.tpotMsMean := by
    rw [reports.tpotMean, rereports.tpotMean, if_congr (eq_nil_iff_of_perm same) rfl rfl]
    split
    next => rfl
    next measured =>
      rw [mean_perm exact same ((eq_nil_iff_of_perm same).not.mpr measured)]
  rw [reported, rereported, reports.unique rereports sameMean]

end

/-! ## The end of `gather` -/

def Stream.work : Stream → Nat
  | .chunk _ _ rest => rest.work + 1
  | .ended _ => 1
  | .raised => 1

def Frame.work : Frame → Nat
  | .awaitCreate _ none => 1
  | .awaitCreate _ (some stream) => stream.work + 1
  | .awaitChunk _ _ stream => stream.work

/-- The moves that a request has still to make. -/
def work : Phase Request Frame → Nat
  | .waiting request => (Frame.awaitCreate request.start request.stream).work + 1
  | .running frame => frame.work
  | .finished => 0

theorem Stream.work_pos (stream : Stream) : 0 < stream.work := by
  cases stream <;> exact Nat.succ_pos _

theorem Frame.work_pos (frame : Frame) : 0 < frame.work := by
  cases frame with
  | awaitCreate start stream => cases stream <;> exact Nat.succ_pos _
  | awaitChunk start progress stream => exact stream.work_pos

theorem Frame.work_of_resume {frame next : Frame}
    (resumed : frame.resume = .ok (.inl next)) : next.work < frame.work := by
  cases frame with
  | awaitCreate start stream =>
      cases stream with
      | none => cases resumed
      | some stream =>
          cases resumed
          exact Nat.lt_succ_self _
  | awaitChunk start progress stream =>
      cases stream with
      | chunk clock chunk rest =>
          rw [resume] at resumed
          cases read : readChunk start clock progress chunk with
          | error raised =>
              rw [read] at resumed
              cases resumed
          | ok progress =>
              rw [read] at resumed
              cases resumed
              exact Nat.lt_succ_self _
      | ended | raised => cases resumed

/-- Every move of a request brings it closer to its end. -/
theorem work_of_move {phase next : Phase Request Frame} {permits permits' : Nat}
    {totals totals' : Totals}
    (moved : task.move phase permits totals = some (next, permits', totals')) :
    work next < work phase := by
  cases moves_of_move moved with
  | enters request => exact Nat.lt_succ_self _
  | goesOn _ resumed => exact Frame.work_of_resume resumed
  | raises => exact Frame.work_pos _
  | returns => exact Frame.work_pos _

/-! ## The load test -/

/-- All orders in which the requests can go on give the same report. -/
def SameReport (numpy : Numpy) (requests : List Request) (concurrency : Nat) : Prop :=
  ∀ state other, (loadTest requests concurrency).Reachable state → state.Complete →
    (loadTest requests concurrency).Reachable other → other.Complete →
    ∀ elapsedS, report numpy requests.length state.shared elapsedS =
      report numpy requests.length other.shared elapsedS

/-- What holds of `load_test`, whatever order the requests go on in. -/
structure CountsExactly (numpy : Numpy) (requests : List Request) (concurrency : Nat) :
    Prop where
  measures : ∀ request ∈ requests, ∀ measured, oneRequest request = .ok measured →
    ∃ stream, request.stream = some stream ∧ Measures request.start stream measured
  inFlight : ∀ state, (loadTest requests concurrency).Reachable state →
    state.inFlight ≤ concurrency
  /-- As long as a request has not ended, some request can go on. -/
  goesOn : ∀ state, (loadTest requests concurrency).Reachable state →
    state.Complete ∨ ∃ index next, task.step state index = some next
  /-- No run is longer than the requests have moves. -/
  ends : ∀ start labels state, (loadTest requests concurrency).Initial start →
    (loadTest requests concurrency).Run start labels state →
    labels.length ≤ (requests.map fun request => work (.waiting request)).sum
  accounts : ∀ state, (loadTest requests concurrency).Reachable state →
    state.Complete → Accounts requests state.shared
  reports : ∀ state, (loadTest requests concurrency).Reachable state → state.Complete →
    ∀ elapsedS, ∃ stats,
      report numpy requests.length state.shared elapsedS = .ok stats ∧
      Reports numpy requests state.shared.tpotsMs elapsedS stats
  sameReport : numpy.ExactMean → SameReport numpy requests concurrency

/-- However the requests overlap, no more of them are in flight than allowed, all of
them end, each is counted once, and over exact arithmetic the report is the same. -/
theorem loadTest_accounts (numpy : Numpy) (requests : List Request) {concurrency : Nat}
    (positive : 1 ≤ concurrency) : CountsExactly numpy requests concurrency where
  measures request _ measured returned := measures_of_oneRequest returned
  inFlight state reachable := Task.inFlight_le reachable
  goesOn state reachable := Task.complete_or_step positive reachable
  ends start labels state initial run := by
    cases initial
    have bounded := Task.length_le (fun _ _ _ _ _ _ => work_of_move) run
    rw [Task.held, Task.held, Pool.start, List.map_map] at bounded
    exact (Nat.le_add_right _ _).trans bounded
  accounts state reachable complete := accounts_of_complete reachable complete
  reports state reachable complete elapsedS :=
    reports_of_accounts (accounts_of_complete reachable complete) elapsedS
  sameReport exact state other reachable complete otherReachable otherComplete elapsedS :=
    report_eq_of_accounts exact (accounts_of_complete reachable complete)
      (accounts_of_complete otherReachable otherComplete) elapsedS

/-- Percentiles by linear interpolation, as numpy takes them by default. -/
def linear : Numpy where
  percentile values percent :=
    let sorted := values.mergeSort (· ≤ ·)
    let position := ((sorted.length : ℚ) - 1) * percent / 100
    match sorted[position.floor.toNat]? with
    | none => .error .indexError
    | some low =>
        let high := sorted[position.floor.toNat + 1]?.getD low
        .ok (low + (position - position.floor) * (high - low))
  mean values := values.sum / values.length
  percentile_ok := by
    intro values percent nonempty _ most
    have count : 0 < values.length := List.length_pos_iff.mpr nonempty
    have inRange : (((values.length : ℚ) - 1) * percent / 100).floor.toNat <
        (values.mergeSort (· ≤ ·)).length := by
      have last :
          ((values.length : ℚ) - 1) * percent / 100 ≤ (values.length : ℤ) - 1 := by
        have size : (1 : ℚ) ≤ values.length := by exact_mod_cast count
        push_cast
        nlinarith
      have floored : (((values.length : ℚ) - 1) * percent / 100).floor ≤
          (values.length : ℤ) - 1 := by
        exact_mod_cast (Rat.floor_le _).trans last
      rw [List.length_mergeSort]
      omega
    simp only [List.length_mergeSort, List.getElem?_eq_getElem inRange]
    exact ⟨_, rfl⟩
  percentile_sorted := by
    intro values percent
    have sorted := List.mergeSort_eq_self (· ≤ ·) (values.sortedLE_mergeSort.pairwise)
    rw [sorted]

/-- Three requests: one of two tokens, one that is refused, one without a token. -/
def threeRequests : List Request :=
  [⟨0, some (.chunk (1 / 2) ⟨[some "Hello"]⟩ (.chunk (3 / 4) ⟨[none]⟩
      (.chunk 1 ⟨[some " world"]⟩ (.ended 1))))⟩,
    ⟨0, none⟩, ⟨1 / 4, some (.ended 1)⟩]

/-- One order of their moves, and another one in which the last request overtakes the
first. -/
def inTurn : List Nat :=
  [0, 0, 0, 0, 0, 0, 1, 1, 2, 2, 2]

def overtaking : List Nat :=
  [0, 1, 1, 2, 0, 2, 0, 2, 0, 0, 0]

/-- The pool in which all of three requests have ended. -/
def allEnded (permits : Nat) (totals : Totals) : Pool Request Frame Totals where
  phases := [.finished, .finished, .finished]
  permits := permits
  shared := totals

theorem complete_allEnded (permits : Nat) (totals : Totals) :
    (allEnded permits totals).Complete := by
  intro phase member
  exact List.eq_of_mem_replicate (n := 3) member

/-- In both orders one request raises and two are measured, and the reports are equal. -/
theorem loadTest_accounts_three :
    Accounts threeRequests ⟨[750, 500], [500], 2, 1⟩ ∧
    (∃ stats, report linear 3 ⟨[750, 500], [500], 2, 1⟩ 1 = .ok stats ∧
      Reports linear threeRequests [500] 1 stats) ∧
    report linear 3 ⟨[500, 750], [500], 2, 1⟩ 1 =
      report linear 3 ⟨[750, 500], [500], 2, 1⟩ 1 := by
  have counts : CountsExactly linear threeRequests 2 :=
    loadTest_accounts linear threeRequests (by decide)
  have exact : linear.ExactMean := fun _ _ => rfl
  have overtaken : (loadTest threeRequests 2).Reachable
      (allEnded 2 ⟨[750, 500], [500], 2, 1⟩) :=
    System.reachable_of_execute overtaking (by decide +kernel)
  have taken : (loadTest threeRequests 2).Reachable
      (allEnded 2 ⟨[500, 750], [500], 2, 1⟩) :=
    System.reachable_of_execute inTurn (by decide +kernel)
  exact ⟨counts.accounts _ overtaken (complete_allEnded _ _),
    counts.reports _ overtaken (complete_allEnded _ _) 1,
    counts.sameReport exact _ _ taken (complete_allEnded _ _) overtaken
      (complete_allEnded _ _) 1⟩

/-! ## A mean of floats -/

/-- The mean of doubles, added one after another. -/
def doubleMean (values : List ℚ) : ℚ :=
  roundFloat 52 ((addUp (values.map (Binary.round 52))).value / values.length)

/-- A numpy whose means round. -/
def rounding : Numpy :=
  { linear with mean := doubleMean }

/-- Four tokens: the first one `1 / 512` s behind the start, the others with the end of
the stream, at `1 / 8` s. -/
def fourTokens (start : ℚ) : Request where
  start := start
  stream := some (.chunk (start + 1 / 512) ⟨[some "Four"]⟩
    (.chunk (1 / 8) ⟨[some " tokens"]⟩ (.chunk (1 / 8) ⟨[some " in"]⟩
      (.chunk (1 / 8) ⟨[some " all"]⟩ (.ended (1 / 8))))))

/-- Three requests that end together, and so in any order.  Their times per token are
34.50…, 31.25 and 27.99… ms, and the mean of these is 31.25 ms. -/
def together : List Request :=
  [fourTokens (10 / 512), fourTokens (15 / 512), fourTokens (20 / 512)]

/-- The requests wait for their ends. -/
def untilEnd : List Nat :=
  (List.replicate 6 [0, 1, 2]).flatten

/-- The mean rounds up to 31.3 ms if the requests end in turn, and to 31.2 ms if the last
one ends first. -/
theorem lastDecimal_differs :
    (∃ state stats, (loadTest together 3).Reachable state ∧ state.Complete ∧
      report rounding 3 state.shared (1 / 8) = .ok stats ∧
      stats.tpotMsMean = 313 / 10) ∧
    (∃ state stats, (loadTest together 3).Reachable state ∧ state.Complete ∧
      report rounding 3 state.shared (1 / 8) = .ok stats ∧
      stats.tpotMsMean = 312 / 10) ∧
    ¬ SameReport rounding together 3 := by
  let ended (tpotsMs : List ℚ) : Totals :=
    ⟨[1000 / 512, 1000 / 512, 1000 / 512], tpotsMs, 12, 0⟩
  let ordered := ended [53000 / 1536, 48000 / 1536, 43000 / 1536]
  let lastFirst := ended [43000 / 1536, 53000 / 1536, 48000 / 1536]
  have first : (loadTest together 3).Reachable (allEnded 3 ordered) :=
    System.reachable_of_execute (untilEnd ++ [0, 1, 2]) (by decide +kernel)
  have second : (loadTest together 3).Reachable (allEnded 3 lastFirst) :=
    System.reachable_of_execute (untilEnd ++ [2, 0, 1]) (by decide +kernel)
  have complete (totals : Totals) := complete_allEnded 3 totals
  rcases @reports_of_accounts rounding _ _ (accounts_of_complete first (complete _))
    (1 / 8) with ⟨stats, reported, reports⟩
  rcases @reports_of_accounts rounding _ _ (accounts_of_complete second (complete _))
    (1 / 8) with ⟨restats, rereported, rereports⟩
  have up : stats.tpotMsMean = 313 / 10 :=
    reports.tpotMean.trans (by decide +kernel)
  have down : restats.tpotMsMean = 312 / 10 :=
    rereports.tpotMean.trans (by decide +kernel)
  refine ⟨⟨_, stats, first, complete _, reported, up⟩,
    ⟨_, restats, second, complete _, rereported, down⟩, ?_⟩
  intro same
  have reportSame := same _ _ first (complete _) second (complete _) (1 / 8)
  rw [reported, rereported] at reportSame
  cases reportSame
  have differ : (313 / 10 : ℚ) = 312 / 10 := up.symm.trans down
  norm_num at differ

end DistributedInference.LlmEngine
