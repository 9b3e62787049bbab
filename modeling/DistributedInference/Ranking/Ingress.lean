import DistributedInference.Python.Dict
import DistributedInference.Ranking.Batching
import Mathlib.Logic.Relation

/-!
# The ranking ingress

The route drops repeated candidates and sends the request to the ranker, which
answers it within a batch of other requests.  The scores may be those of any model,
or any scores at all.
-/

namespace DistributedInference.Ranking

open Python Sorting Relation

variable {K : Type}

/-- `prepare_features`. -/
def prepareFeatures (request : RankRequest) : RankRequest where
  userId := request.userId
  candidateIds := fromKeys request.candidateIds

/-- The route `rank`, with `ranker.remote`. -/
def rank (remote : RankRequest → Option (RankResponse K)) (request : RankRequest) :
    Option (RankResponse K) :=
  remote (prepareFeatures request)

section

variable [LinearOrder K]

end

end DistributedInference.Ranking
