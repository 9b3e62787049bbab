import DistributedInference.Prometheus.Histogram
import DistributedInference.Ranking.Batching
import DistributedInference.Transition.System

/-!
# The ranker under concurrent calls

A replica of `Ranker` answers calls that overlap.  `__call__` puts a batched call into
the queue of `score_batch`, or starts a `_score` of its own; the batcher takes what has
come in up to the limit it read when it began to collect; `_score` is suspended at the
feature store and at the forward pass; `reconfigure` may retune the batcher at any time.
A step is one stretch between two of these suspensions.

A call is a request with its position among all calls.  Whatever the interleaving, each
call is in exactly one place, is answered as it would be on its own, and is counted once
by the metrics.
-/

namespace DistributedInference.Ranking

open Prometheus Tensor Transition

variable {K : Type}

/-! ## The knobs -/

def defaultMaxBatchSize : Nat := 32

/-- Ten milliseconds. -/
def defaultBatchWaitTimeoutS : ℚ := 1 / 100

/-- `BatchConfig`, with the bounds that its fields are validated against. -/
structure BatchConfig where
  maxBatchSize : Nat
  batchWaitTimeoutS : ℚ
  maxBatchSize_ge : 1 ≤ maxBatchSize
  batchWaitTimeoutS_ge : 0 ≤ batchWaitTimeoutS

namespace BatchConfig

/-- `BatchConfig()`, the `user_config` of the deployment. -/
def default : BatchConfig where
  maxBatchSize := defaultMaxBatchSize
  batchWaitTimeoutS := defaultBatchWaitTimeoutS
  maxBatchSize_ge := by decide
  batchWaitTimeoutS_ge := by decide +kernel

/-- `BatchConfig(**config)`; `none` if the validation fails. -/
def validate (maxBatchSize : Option Int) (batchWaitTimeoutS : Option ℚ) :
    Option BatchConfig :=
  let size := maxBatchSize.getD defaultMaxBatchSize
  let timeout := batchWaitTimeoutS.getD defaultBatchWaitTimeoutS
  if valid : 1 ≤ size ∧ 0 ≤ timeout then
    some ⟨size.toNat, timeout, by omega, valid.2⟩
  else none

end BatchConfig

/-! ## The replica -/

/-- The metrics that `_score` emits. -/
structure Metrics where
  requestsRanked : Nat
  candidateSetSize : Histogram Nat

namespace Metrics

def candidateSetBoundaries : List Nat := [1, 5, 10, 25, 50, 100, 250, 500]

def initial : Metrics where
  requestsRanked := 0
  candidateSetSize := .empty candidateSetBoundaries

/-- The body of the loop over the requests. -/
def emit (metrics : Metrics) (request : RankRequest) : Metrics where
  requestsRanked := metrics.requestsRanked + 1
  candidateSetSize := metrics.candidateSetSize.observe request.candidateIds.length

end Metrics

/-- A request with its position among all calls. -/
abbrev Call := RankRequest × Nat

/-- Where a `_score` is suspended. -/
inductive ScorePhase (K : Type) where
  /-- In `await self.store.batch_get(user_ids)`. -/
  | fetching
  /-- In `await asyncio.to_thread(self.forward, ...)`. -/
  | forwarding (userFeats : List (Fin embedDim → K))

/-- One `_score`, with the calls it was started for. -/
structure ScoreTask (K : Type) where
  batch : List Call
  phase : ScorePhase K

/-- A replica, the calls it has accepted and those it has answered. -/
structure Server (K : Type) where
  config : BatchConfig
  accepted : List RankRequest
  /-- The queue of `score_batch`. -/
  queue : List Call
  /-- The limit that the batcher has read for the batch it collects. -/
  collecting : Option Nat
  scoring : List (ScoreTask K)
  answered : List (Call × RankResponse K)
  /-- Calls whose `_score` raised. -/
  failed : List Call
  metrics : Metrics

inductive ServerAction where
  | call (request : RankRequest) (useBatching : Bool)
  | reconfigure (maxBatchSize : Option Int) (batchWaitTimeoutS : Option ℚ)
  /-- The batcher sees a first request and reads its limit. -/
  | collect
  /-- It hands over what has come in by then. -/
  | launch (count : Nat)
  | featuresArrive (index : Nat)
  | forwardReturns (index : Nat)

namespace Server

def initial : Server K where
  config := .default
  accepted := []
  queue := []
  collecting := none
  scoring := []
  answered := []
  failed := []
  metrics := .initial

/-- `__call__`, up to its first suspension. -/
def call (state : Server K) (request : RankRequest) (useBatching : Bool) : Server K :=
  let ticket := (request, state.accepted.length)
  let accepted := state.accepted ++ [request]
  if useBatching then { state with accepted := accepted, queue := state.queue ++ [ticket] }
  else
    { state with
      accepted := accepted
      scoring := state.scoring ++ [⟨[ticket], .fetching⟩] }

/-- `reconfigure`: a configuration that is not valid raises before a knob is set. -/
def reconfigure (state : Server K) (maxBatchSize : Option Int)
    (batchWaitTimeoutS : Option ℚ) : Server K :=
  match BatchConfig.validate maxBatchSize batchWaitTimeoutS with
  | none => state
  | some config => { state with config := config }

/-- The end of a `_score`, from the return of `forward`: the metrics, and the results
for the calls of the batch.  The batcher refuses a list of another length. -/
def finish (state : Server K) (index : Nat) (batch : List Call) :
    Option (List (RankResponse K)) → Server K
  | none =>
      { state with
        scoring := state.scoring.eraseIdx index
        failed := state.failed ++ batch }
  | some responses =>
      let emitted := (batch.map Prod.fst).foldl Metrics.emit state.metrics
      if responses.length = batch.length then
        { state with
          scoring := state.scoring.eraseIdx index
          answered := state.answered ++ batch.zip responses
          metrics := emitted }
      else
        { state with
          scoring := state.scoring.eraseIdx index
          failed := state.failed ++ batch
          metrics := emitted }

variable [CommSemiring K] [LinearOrder K]

/-- The step function; `none` when the action is not enabled. -/
def step (ranker : Ranker K) (state : Server K) : ServerAction → Option (Server K)
  | .call request useBatching => some (state.call request useBatching)
  | .reconfigure maxBatchSize batchWaitTimeoutS =>
      some (state.reconfigure maxBatchSize batchWaitTimeoutS)
  | .collect =>
      if state.collecting = none ∧ state.queue ≠ [] then
        some { state with collecting := some state.config.maxBatchSize }
      else none
  | .launch count =>
      match state.collecting with
      | some limit =>
          if 1 ≤ count ∧ count ≤ limit ∧ count ≤ state.queue.length then
            some { state with
              collecting := none
              queue := state.queue.drop count
              scoring := state.scoring ++ [⟨state.queue.take count, .fetching⟩] }
          else none
      | none => none
  | .featuresArrive index =>
      match state.scoring[index]? with
      | some ⟨batch, .fetching⟩ =>
          let userIds := batch.map (·.1.userId)
          some { state with
            scoring := state.scoring.set index
              ⟨batch, .forwarding (ranker.store.batchGet userIds)⟩ }
      | _ => none
  | .forwardReturns index =>
      match state.scoring[index]? with
      | some ⟨batch, .forwarding userFeats⟩ =>
          some (state.finish index batch
            (ranker.forward (batch.map Prod.fst) userFeats))
      | _ => none

end Server

/-- A replica with its callers and the batcher. -/
def server [CommSemiring K] [LinearOrder K] (ranker : Ranker K) :
    System (Server K) ServerAction :=
  .ofFunction .initial (Server.step ranker)

end DistributedInference.Ranking
