import DistributedInference.Ranking.Ranker
import Mathlib.Algebra.Order.Ring.Rat

/-!
# Batched scoring

A batch is scored request by request: what a request is answered does not depend on
the requests it was coalesced with.
-/

namespace DistributedInference.Ranking

open Sorting Tensor

variable {K : Type}

/-! ## Responses by score -/

/-- The response to a request whose candidates have the given scores. -/
def RankRequest.respond [LinearOrder K] (request : RankRequest)
    (scoreOf : String → K) : RankResponse K where
  userId := request.userId
  ranked := sortedByDescending ScoredCandidate.score
    (request.candidateIds.map fun candidateId => ⟨candidateId, scoreOf candidateId⟩)

/-- The loop slices each request's scores out of the flat list. -/
theorem slice_respond [LinearOrder K] (scoreOf : RankRequest → String → K)
    (before : List K) (requests : List RankRequest) :
    RankerLogic.slice
        (before ++ requests.flatMap fun request =>
          request.candidateIds.map (scoreOf request))
        before.length (requests.zip (requests.map (·.candidateIds.length))) =
      some (requests.map fun request => request.respond (scoreOf request)) := by
  induction requests generalizing before with
  | nil => rfl
  | cons request rest ih =>
      have length : request.candidateIds.length =
          (request.candidateIds.map (scoreOf request)).length :=
        (List.length_map _).symm
      have here := mapM_zipIdx_segment ScoredCandidate.mk length before
        (rest.flatMap fun request => request.candidateIds.map (scoreOf request))
        (Nat.add_zero before.length).symm
      rw [List.zipWith_map_right, List.zipWith_self] at here
      have later := ih (before ++ request.candidateIds.map (scoreOf request))
      rw [List.length_append, ← length, List.append_assoc] at later
      simp only [List.map_cons, List.zip_cons_cons, List.flatMap_cons,
        RankerLogic.slice, RankerLogic.scored, here, later]
      rfl

variable [CommSemiring K] [LinearOrder K]

namespace Ranker

/-- The score that the model gives a candidate for the features of a user. -/
def scoreOf (ranker : Ranker K) (userId candidateId : String) : K :=
  ranker.model.itemEmbWeight (itemIdToIndex candidateId) ⬝ᵥ
    ranker.model.userTower (ranker.store.featuresFor userId)

/-- The candidates of a request with the scores that the model gives them for the
features of its user. -/
def scoredCandidates (ranker : Ranker K) (request : RankRequest) :
    List (ScoredCandidate K) :=
  List.zipWith ScoredCandidate.mk request.candidateIds
    (ranker.model.forward (ranker.store.featuresFor request.userId)
      (request.candidateIds.map itemIdToIndex))

/-- The response to a request on its own. -/
def answer (ranker : Ranker K) (request : RankRequest) : RankResponse K where
  userId := request.userId
  ranked := sortedByDescending ScoredCandidate.score (ranker.scoredCandidates request)

end Ranker

section

variable (ranker : Ranker K) (request : RankRequest)

/-- Every candidate carries the score of its own item row. -/
theorem scoredCandidates_eq_map :
    ranker.scoredCandidates request = request.candidateIds.map fun candidateId =>
      ⟨candidateId, ranker.model.itemEmbWeight (itemIdToIndex candidateId) ⬝ᵥ
        ranker.model.userTower (ranker.store.featuresFor request.userId)⟩ := by
  simp only [Ranker.scoredCandidates, TwoTowerRanker.forward,
    TwoTowerRanker.embedItems, List.map_map, List.zipWith_map_right, List.zipWith_self]
  rfl

/-- The response ranks by the scores of the model. -/
theorem answer_eq_respond :
    ranker.answer request = request.respond (ranker.scoreOf request.userId) := by
  rw [Ranker.answer, scoredCandidates_eq_map]
  rfl

def userEmb : Fin hiddenDim → K :=
  ranker.model.userTower (ranker.store.featuresFor request.userId)

def itemVecs : List (Fin hiddenDim → K) :=
  request.candidateIds.map fun candidateId =>
    ranker.model.itemEmbWeight (itemIdToIndex candidateId)

/-- The scores of one request. -/
def scoresOf : List K :=
  ranker.model.forward (ranker.store.featuresFor request.userId)
    (request.candidateIds.map itemIdToIndex)

omit [CommSemiring K] [LinearOrder K] in
theorem length_itemVecs :
    (itemVecs ranker request).length = request.candidateIds.length :=
  List.length_map _

/-- Multiplying elementwise and summing up is the dot product. -/
theorem sumRows_products :
    sumRows ((itemVecs ranker request).map (userEmb ranker request * ·)) =
      scoresOf ranker request := by
  simp only [sumRows, itemVecs, scoresOf, TwoTowerRanker.forward,
    TwoTowerRanker.embedItems, List.map_map]
  apply List.map_congr_left
  intro candidateId _
  exact dotProduct_comm _ _

end

/-- The loop on the scores of the model. -/
theorem slice_flatMap (ranker : Ranker K) (before : List K)
    (requests : List RankRequest) :
    RankerLogic.slice (before ++ requests.flatMap (scoresOf ranker)) before.length
        (requests.zip (requests.map (·.candidateIds.length))) =
      some (requests.map ranker.answer) := by
  have scores : scoresOf ranker = fun request =>
      request.candidateIds.map (ranker.scoreOf request.userId) := by
    funext request
    simp only [scoresOf, TwoTowerRanker.forward, TwoTowerRanker.embedItems,
      List.map_map]
    rfl
  have answers : ranker.answer = fun request =>
      request.respond (ranker.scoreOf request.userId) :=
    funext (answer_eq_respond ranker)
  rw [scores, answers]
  exact slice_respond (fun request => ranker.scoreOf request.userId) before requests

/-- A non-empty batch is answered request by request. -/
theorem score_eq_map_answer (ranker : Ranker K) {requests : List RankRequest}
    (nonempty : requests ≠ []) :
    ranker.score requests = some (requests.map ranker.answer) := by
  have users : ranker.model.embedUsers
      (ranker.store.batchGet (requests.map (·.userId))) =
        requests.map (userEmb ranker) := by
    simp [TwoTowerRanker.embedUsers, FeatureStore.batchGet, userEmb]
  have items : ranker.model.embedItems
      (requests.flatMap (·.candidateIds.map itemIdToIndex)) =
        requests.flatMap (itemVecs ranker) := by
    simp only [TwoTowerRanker.embedItems, List.map_flatMap, List.map_map]
    rfl
  have expanded := repeatInterleave_map nonempty (userEmb ranker)
    (·.candidateIds.length)
  have product := broadcastMul_groups (userEmb ranker) (itemVecs ranker) requests
  simp only [length_itemVecs] at product
  have scores : sumRows (requests.flatMap fun request =>
      (itemVecs ranker request).map (userEmb ranker request * ·)) =
        requests.flatMap (scoresOf ranker) := by
    have each := funext (sumRows_products ranker)
    rw [← each, sumRows, List.map_flatMap]
    rfl
  have sliced := slice_flatMap ranker [] requests
  simp only [Ranker.score, RankerLogic.forward, users, items, expanded, product,
    Option.bind_eq_bind, Option.bind_some, scores]
  exact sliced

end DistributedInference.Ranking
