import DistributedInference.Ranking.Model
import DistributedInference.Sorting.SortedBy

/-!
# The ranker

`RankerLogic.forward` scores a batch in one pass: the candidates of all requests
are flattened, each user's embedding is repeated for its own candidates, and the
flat scores are sliced back with a running offset.  `Ranker` adds the feature
store.  The metrics that `_score` emits are in `Server`.
-/

namespace DistributedInference.Ranking

open Python Sorting Tensor

structure RankRequest where
  userId : String
  candidateIds : List String
  deriving DecidableEq, Repr

structure ScoredCandidate (K : Type) where
  candidateId : String
  score : K
  deriving DecidableEq, Repr

structure RankResponse (K : Type) where
  userId : String
  ranked : List (ScoredCandidate K)
  deriving DecidableEq, Repr

variable {K : Type}

/-- `FeatureStore`, by the feature vectors that `_features_for` draws. -/
structure FeatureStore (K : Type) where
  featuresFor : String → Fin embedDim → K

namespace FeatureStore

/-- The store whose vectors are drawn by a generator seeded with the user id. -/
def seeded (randn : Nat → Fin embedDim → K) : FeatureStore K where
  featuresFor userId := randn (crc32 (utf8 userId))

/-- `batch_get`: row `i` for `user_ids[i]`. -/
def batchGet (store : FeatureStore K) (userIds : List String) :
    List (Fin embedDim → K) :=
  userIds.map store.featuresFor

end FeatureStore

structure RankerLogic (K : Type) where
  model : TwoTowerRanker K

namespace RankerLogic

variable [LinearOrder K]

/-- The candidates of one request with the scores from `offset` on.  There is none
if an index is out of range. -/
def scored (flatScores : List K) (offset : Nat) (request : RankRequest) :
    Option (List (ScoredCandidate K)) :=
  request.candidateIds.zipIdx.mapM fun pair =>
    (flatScores[offset + pair.2]?).map (ScoredCandidate.mk pair.1)

/-- The loop of `forward` over `zip(requests, counts)`. -/
def slice (flatScores : List K) (offset : Nat) :
    List (RankRequest × Nat) → Option (List (RankResponse K))
  | [] => some []
  | (request, count) :: rest => do
      let scored ← scored flatScores offset request
      let ranked := sortedByDescending ScoredCandidate.score scored
      let responses ← slice flatScores (offset + count) rest
      return { userId := request.userId, ranked := ranked } :: responses

/-- `RankerLogic.forward`; `none` if it raises. -/
def forward [CommSemiring K] (logic : RankerLogic K) (requests : List RankRequest)
    (userFeats : List (Fin embedDim → K)) : Option (List (RankResponse K)) := do
  let counts := requests.map (·.candidateIds.length)
  let flatIds := requests.flatMap (·.candidateIds.map itemIdToIndex)
  let userEmbs := logic.model.embedUsers userFeats
  let itemVecs := logic.model.embedItems flatIds
  let expanded ← repeatInterleave userEmbs counts
  let product ← broadcastMul expanded itemVecs
  let flatScores := sumRows product
  slice flatScores 0 (requests.zip counts)

end RankerLogic

structure Ranker (K : Type) extends RankerLogic K where
  store : FeatureStore K

namespace Ranker

variable [CommSemiring K] [LinearOrder K]

/-- `_score`. -/
def score (ranker : Ranker K) (requests : List RankRequest) :
    Option (List (RankResponse K)) :=
  let userIds := requests.map (·.userId)
  let userFeats := ranker.store.batchGet userIds
  ranker.forward requests userFeats

/-- `score_unbatched`. -/
def scoreUnbatched (ranker : Ranker K) (request : RankRequest) :
    Option (RankResponse K) := do
  let results ← ranker.score [request]
  results[0]?

end Ranker

end DistributedInference.Ranking
