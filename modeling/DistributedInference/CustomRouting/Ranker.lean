import DistributedInference.Python.Numbers
import DistributedInference.Python.Text
import DistributedInference.Sorting.SortedBy
import Mathlib.Data.List.AList
import Mathlib.Data.Matrix.Mul

/-!
# A replica of the ranker

`Ranker.rank` looks the user up in the feature cache of its replica and awaits
the feature store on a miss.  Between awaits it is not interrupted, so a call is
one stretch up to the `await`, or to the end on a hit, and a second stretch from
the answer of the store to the end.

The random generator behind the features, `torch.randn`, is a parameter, and so
is the id that `serve.get_replica_context` returns.  Scores are exact.
-/

namespace DistributedInference.CustomRouting

open Sorting Python

/-- `EMBED_DIM`. -/
def embedDim : Nat := 64

/-- `NUM_ITEMS`. -/
def numItems : Nat := 10000

/-- A vector of user features, or a row of the item embedding. -/
abbrev Features := Fin embedDim → ℚ

/-- `torch.randn(EMBED_DIM, generator=…)` by the seed of the generator. -/
structure FeatureStore where
  randn : Nat → Features

/-- What `FeatureStore.get` returns. -/
def FeatureStore.get (store : FeatureStore) (userId : String) : Features :=
  store.randn (crc32 (utf8 userId))

structure RankRequest where
  userId : String
  candidateIds : List String
  deriving DecidableEq, Repr

structure RankedCandidate where
  candidateId : String
  score : ℚ
  deriving DecidableEq, Repr

structure RankResponse where
  userId : String
  ranked : List RankedCandidate
  cacheHit : Bool
  replica : String
  deriving DecidableEq, Repr

/-- The attributes of a `Ranker`, with the id of its replica. -/
structure Ranker where
  itemEmb : Fin numItems → Features
  store : FeatureStore
  replica : String
  featureCache : AList fun _ : String => Features := ∅
  /-- The calls entered and not yet left. -/
  ongoing : ℤ := 0
  hits : Nat := 0
  misses : Nat := 0

/-- Where a stretch of `rank` ends. -/
inductive Progress where
  /-- In `await self.store.get(request.user_id)`. -/
  | awaitingFeatures
  /-- Returned, or raised if there is no response. -/
  | left (response : Option RankResponse)
  deriving DecidableEq, Repr

namespace Ranker

/-- `__init__`.  The item embedding is drawn with a fixed seed, so it is the same on
every replica. -/
def init (itemEmb : Fin numItems → Features) (store : FeatureStore)
    (replica : String) : Ranker where
  itemEmb := itemEmb
  store := store
  replica := replica

/-- `zlib.crc32(c.encode("utf-8")) % NUM_ITEMS`. -/
def itemIndex (candidateId : String) : Fin numItems :=
  ⟨crc32 (utf8 candidateId) % numItems, Nat.mod_lt _ (by decide)⟩

/-- `record_routing_stats`. -/
def recordRoutingStats (ranker : Ranker) : List (String × ℚ) :=
  let total := ranker.hits + ranker.misses
  [("ongoing_requests", ranker.ongoing),
    ("cached_users", ranker.featureCache.keys.length),
    ("cache_hit_rate", if total = 0 then 0 else roundTo 3 (ranker.hits / total))]

/-- The part of `rank` that needs the features: score, sort and answer. -/
def respond (ranker : Ranker) (request : RankRequest) (userFeatures : Features)
    (cacheHit : Bool) : RankResponse :=
  let scores := request.candidateIds.map fun candidateId =>
    ranker.itemEmb (itemIndex candidateId) ⬝ᵥ userFeatures
  let ranked := sortedByDescending Prod.snd (request.candidateIds.zip scores)
  { userId := request.userId
    ranked := ranked.map fun pair => ⟨pair.1, roundTo 4 pair.2⟩
    cacheHit := cacheHit
    replica := ranker.replica }

/-- The `finally` clause. -/
def leave (ranker : Ranker) : Ranker :=
  { ranker with ongoing := ranker.ongoing - 1 }

/-- `rank` up to its `await`, or to its end on a hit.  Scoring may raise. -/
def rank (ranker : Ranker) (request : RankRequest) (raises : Bool) :
    Ranker × Progress :=
  let ranker := { ranker with ongoing := ranker.ongoing + 1 }
  match ranker.featureCache.lookup request.userId with
  | some userFeatures =>
      let ranker := { ranker with hits := ranker.hits + 1 }
      let response :=
        if raises then none else some (ranker.respond request userFeatures true)
      (ranker.leave, .left response)
  | none => ({ ranker with misses := ranker.misses + 1 }, .awaitingFeatures)

/-- `rank` from its `await` to its end.  There are no features if the fetch raised
or the call was cancelled. -/
def resumeRank (ranker : Ranker) (request : RankRequest)
    (fetched : Option Features) (raises : Bool) :
    Ranker × Option RankResponse :=
  match fetched with
  | none => (ranker.leave, none)
  | some userFeatures =>
      let ranker := { ranker with
        featureCache := ranker.featureCache.insert request.userId userFeatures }
      let response :=
        if raises then none else some (ranker.respond request userFeatures false)
      (ranker.leave, response)

variable {ranker : Ranker} {request : RankRequest} {raises : Bool}

/-- A cached user is answered at once, from the cache. -/
theorem rank_of_lookup {userFeatures : Features}
    (cached : ranker.featureCache.lookup request.userId = some userFeatures) :
    ranker.rank request raises =
      ({ ranker with hits := ranker.hits + 1 },
        .left (if raises then none
          else some (ranker.respond request userFeatures true))) := by
  simp [rank, cached, leave, respond]

/-- Any other user is fetched from the store. -/
theorem rank_of_lookup_none
    (missing : ranker.featureCache.lookup request.userId = none) :
    ranker.rank request raises =
      ({ ranker with ongoing := ranker.ongoing + 1, misses := ranker.misses + 1 },
        .awaitingFeatures) := by
  simp [rank, missing]

/-- Looking a user up leaves the cache alone. -/
@[simp] theorem rank_featureCache (ranker : Ranker) (request : RankRequest)
    (raises : Bool) :
    (ranker.rank request raises).1.featureCache = ranker.featureCache := by
  cases cached : ranker.featureCache.lookup request.userId with
  | none => rw [rank_of_lookup_none cached]
  | some userFeatures => rw [rank_of_lookup cached]

/-- A fetch fills the cache, also if scoring raises afterwards. -/
theorem mem_resumeRank_featureCache {fetched : Option Features} {userId : String} :
    userId ∈ (ranker.resumeRank request fetched raises).1.featureCache ↔
      userId ∈ ranker.featureCache ∨
        userId = request.userId ∧ fetched.isSome = true := by
  cases fetched with
  | none => simp [resumeRank, leave]
  | some userFeatures => simp [resumeRank, leave, or_comm]

end Ranker

/-! ## The calls of a replica -/

/-- Where a call of `rank` is. -/
inductive CallPhase where
  /-- Accepted by the replica, not yet entered. -/
  | accepted
  | awaitingFeatures
  | left (response : Option RankResponse)
  deriving DecidableEq, Repr

/-- The phase of a call after its first stretch. -/
def Progress.phase : Progress → CallPhase
  | .awaitingFeatures => .awaitingFeatures
  | .left response => .left response

structure Call where
  request : RankRequest
  phase : CallPhase
  deriving DecidableEq, Repr

/-- A stretch of a call, as an observer of the replica sees it. -/
inductive Event where
  /-- The call looked its user up and went this far. -/
  | entered (userId : String) (progress : Progress)
  /-- The call left after its fetch; `stored` if the fetch returned features,
  which the call put in the cache. -/
  | resumed (userId : String) (stored : Bool) (response : Option RankResponse)
  deriving DecidableEq, Repr

/-- A replica with the calls it ever accepted, in order of arrival. -/
structure Replica where
  ranker : Ranker
  calls : List Call := []

namespace Replica

/-- The replica takes a request. -/
def accept (replica : Replica) (request : RankRequest) : Replica :=
  { replica with calls := replica.calls ++ [⟨request, .accepted⟩] }

/-- The call at `index` runs its first stretch. -/
def enter (replica : Replica) (index : Nat) (raises : Bool) :
    Option (Replica × Event) :=
  match replica.calls[index]? with
  | some ⟨request, .accepted⟩ =>
      let (ranker, progress) := replica.ranker.rank request raises
      some ({ ranker := ranker
              calls := replica.calls.set index ⟨request, progress.phase⟩ },
        .entered request.userId progress)
  | _ => none

/-- The store answers the call at `index`, which runs its second stretch. -/
def resume (replica : Replica) (index : Nat) (fetched raises : Bool) :
    Option (Replica × Event) :=
  match replica.calls[index]? with
  | some ⟨request, .awaitingFeatures⟩ =>
      let features :=
        if fetched then some (replica.ranker.store.get request.userId) else none
      let (ranker, response) := replica.ranker.resumeRank request features raises
      some ({ ranker := ranker
              calls := replica.calls.set index ⟨request, .left response⟩ },
        .resumed request.userId fetched response)
  | _ => none

variable {replica next : Replica} {index : Nat} {raises fetched : Bool}
variable {event : Event}

theorem enter_eq_some (entered : replica.enter index raises = some (next, event)) :
    ∃ request, replica.calls[index]? = some ⟨request, .accepted⟩ ∧
      next.ranker = (replica.ranker.rank request raises).1 ∧
      next.calls = replica.calls.set index
        ⟨request, (replica.ranker.rank request raises).2.phase⟩ ∧
      event = .entered request.userId (replica.ranker.rank request raises).2 := by
  simp only [enter] at entered
  split at entered
  next request found =>
    cases entered
    exact ⟨request, found, rfl, rfl, rfl⟩
  next => contradiction

theorem resume_eq_some
    (resumed : replica.resume index fetched raises = some (next, event)) :
    ∃ request, replica.calls[index]? = some ⟨request, .awaitingFeatures⟩ ∧
      let result := replica.ranker.resumeRank request
        (if fetched then some (replica.ranker.store.get request.userId) else none)
        raises
      next.ranker = result.1 ∧
      next.calls = replica.calls.set index ⟨request, .left result.2⟩ ∧
      event = .resumed request.userId fetched result.2 := by
  simp only [resume] at resumed
  split at resumed
  next request found =>
    cases resumed
    exact ⟨request, found, rfl, rfl, rfl⟩
  next => contradiction

end Replica

end DistributedInference.CustomRouting
