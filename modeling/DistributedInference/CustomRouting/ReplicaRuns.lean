import DistributedInference.Caching.Memo
import DistributedInference.CustomRouting.Fleet
import DistributedInference.Transition.Registry

/-!
# Concurrent calls on one replica

The calls of one replica overlap at their `await`: a step accepts a call, or runs
one stretch of an accepted one, in any order.  A fetch may fail or be cancelled,
and scoring may raise.

The feature cache stays a memo table of the store, and the counters of the
replica count its calls.
-/

namespace DistributedInference.CustomRouting

open Caching Python Transition

/-- What can happen next on a replica. -/
inductive Stretch where
  | accept (request : RankRequest)
  | enter (call : Nat) (raises : Bool)
  /-- The `await` of a call ends, with the features of the store if `fetched`. -/
  | resume (call : Nat) (fetched raises : Bool)

namespace Replica

def step (replica : Replica) : Stretch → Option Replica
  | .accept request => some (replica.accept request)
  | .enter call raises => (replica.enter call raises).map Prod.fst
  | .resume call fetched raises => (replica.resume call fetched raises).map Prod.fst

/-- The steps of a replica, one for each way through `rank`. -/
inductive Moves (replica : Replica) : Stretch → Replica → Prop
  | accepted {request : RankRequest} :
      Moves replica (.accept request) (replica.accept request)
  | hit {index : Nat} {raises : Bool} {request : RankRequest}
      {userFeatures : Features} :
      replica.calls[index]? = some ⟨request, .accepted⟩ →
      replica.ranker.featureCache.lookup request.userId = some userFeatures →
      Moves replica (.enter index raises)
        { ranker := { replica.ranker with hits := replica.ranker.hits + 1 }
          calls := replica.calls.set index ⟨request, .left (if raises then none
            else some (replica.ranker.respond request userFeatures true))⟩ }
  | miss {index : Nat} {raises : Bool} {request : RankRequest} :
      replica.calls[index]? = some ⟨request, .accepted⟩ →
      replica.ranker.featureCache.lookup request.userId = none →
      Moves replica (.enter index raises)
        { ranker := { replica.ranker with
            ongoing := replica.ranker.ongoing + 1
            misses := replica.ranker.misses + 1 }
          calls := replica.calls.set index ⟨request, .awaitingFeatures⟩ }
  | filled {index : Nat} {raises : Bool} {request : RankRequest} :
      replica.calls[index]? = some ⟨request, .awaitingFeatures⟩ →
      Moves replica (.resume index true raises)
        { ranker := { replica.ranker with
            ongoing := replica.ranker.ongoing - 1
            featureCache := replica.ranker.featureCache.insert request.userId
              (replica.ranker.store.get request.userId) }
          calls := replica.calls.set index ⟨request, .left (if raises then none
            else some (replica.ranker.respond request
              (replica.ranker.store.get request.userId) false))⟩ }
  | failed {index : Nat} {raises : Bool} {request : RankRequest} :
      replica.calls[index]? = some ⟨request, .awaitingFeatures⟩ →
      Moves replica (.resume index false raises)
        { ranker := replica.ranker.leave
          calls := replica.calls.set index ⟨request, .left none⟩ }

variable {replica next : Replica} {stretch : Stretch}

theorem moves_of_enter {index : Nat} {raises : Bool} {event : Event}
    (entered : replica.enter index raises = some (next, event)) :
    replica.Moves (.enter index raises) next := by
  rcases enter_eq_some entered with ⟨request, found, ranker, calls, _⟩
  cases next with
  | mk nextRanker nextCalls =>
    cases cached : replica.ranker.featureCache.lookup request.userId with
    | none =>
        rw [Ranker.rank_of_lookup_none cached] at ranker calls
        cases ranker
        cases calls
        exact .miss found cached
    | some userFeatures =>
        rw [Ranker.rank_of_lookup cached] at ranker calls
        cases ranker
        cases calls
        exact .hit found cached

theorem moves_of_resume {index : Nat} {fetched raises : Bool} {event : Event}
    (resumed : replica.resume index fetched raises = some (next, event)) :
    replica.Moves (.resume index fetched raises) next := by
  rcases resume_eq_some resumed with ⟨request, found, ranker, calls, _⟩
  cases next with
  | mk nextRanker nextCalls =>
    cases ranker
    cases calls
    cases fetched with
    | false => exact .failed found
    | true => exact .filled found

theorem moves_of_step (taken : replica.step stretch = some next) :
    replica.Moves stretch next := by
  cases stretch with
  | accept request =>
      cases taken
      exact .accepted
  | enter index raises =>
      rcases Option.map_eq_some_iff.mp taken with ⟨⟨after, event⟩, entered, rfl⟩
      exact moves_of_enter entered
  | resume index fetched raises =>
      rcases Option.map_eq_some_iff.mp taken with ⟨⟨after, event⟩, resumed, rfl⟩
      exact moves_of_resume resumed

end Replica

/-- A replica from its start on. -/
def oneReplica (itemEmb : Fin numItems → Features) (store : FeatureStore)
    (uniqueId : String) : System Replica Stretch :=
  .ofFunction { ranker := .init itemEmb store uniqueId } Replica.step

variable {itemEmb : Fin numItems → Features} {store : FeatureStore}
variable {uniqueId : String} {replica next : Replica} {stretch : Stretch}

/-! ## Answers -/

/-- A call that nothing disturbs, from its start to its end. -/
def Ranker.answer (ranker : Ranker) (request : RankRequest) : Option RankResponse :=
  match ranker.rank request false with
  | (_, .left response) => response
  | (waiting, .awaitingFeatures) =>
      (waiting.resumeRank request (some (waiting.store.get request.userId)) false).2

theorem Ranker.answer_of_empty {ranker : Ranker} (empty : ranker.featureCache = ∅)
    (request : RankRequest) :
    ranker.answer request =
      some (ranker.respond request (ranker.store.get request.userId) false) := by
  have missing : ranker.featureCache.lookup request.userId = none := by
    rw [empty, AList.lookup_empty]
  simp [answer, rank_of_lookup_none missing, resumeRank, leave, respond]

/-- The scores depend on the item embedding and the features, and on nothing else
of a replica. -/
theorem Ranker.respond_ranked_congr {ranker other : Ranker}
    (sameItems : ranker.itemEmb = other.itemEmb) (request : RankRequest)
    (userFeatures : Features) (cacheHit otherHit : Bool) :
    (ranker.respond request userFeatures cacheHit).ranked =
      (other.respond request userFeatures otherHit).ranked := by
  simp only [respond, sameItems]

/-- The cache holds features of the store, and every response so far was computed
from them. -/
structure Transparent (itemEmb : Fin numItems → Features) (store : FeatureStore)
    (replica : Replica) : Prop where
  itemEmb_eq : replica.ranker.itemEmb = itemEmb
  store_eq : replica.ranker.store = store
  memoizes : Memoizes replica.ranker.featureCache store.get
  answers : ∀ call ∈ replica.calls, ∀ response, call.phase = .left (some response) →
    ∃ cacheHit, response = replica.ranker.respond call.request
      (store.get call.request.userId) cacheHit

namespace Transparent

/-- A call that is not answered, or answered from the features of the store, joins
the others. -/
theorem answers_set (transparent : Transparent itemEmb store replica)
    {ranker : Ranker} {index : Nat} {after : Call}
    (respond_eq : ranker.respond = replica.ranker.respond)
    (answered : ∀ response, after.phase = .left (some response) →
      ∃ cacheHit, response = replica.ranker.respond after.request
        (store.get after.request.userId) cacheHit) :
    ∀ call ∈ replica.calls.set index after, ∀ response,
      call.phase = .left (some response) →
      ∃ cacheHit, response = ranker.respond call.request
        (store.get call.request.userId) cacheHit := by
  intro call member
  rw [respond_eq]
  rcases List.mem_or_eq_of_mem_set member with earlier | rfl
  · exact transparent.answers call earlier
  · exact answered

theorem moves (transparent : Transparent itemEmb store replica)
    (moves : replica.Moves stretch next) : Transparent itemEmb store next := by
  rcases transparent with ⟨rfl, rfl, memoizes, answers⟩
  have transparent : Transparent replica.ranker.itemEmb replica.ranker.store replica :=
    ⟨rfl, rfl, memoizes, answers⟩
  cases moves with
  | accepted =>
      refine ⟨rfl, rfl, memoizes, ?_⟩
      intro call member response left
      rcases List.mem_append.mp member with earlier | new
      · exact answers call earlier response left
      · cases List.mem_singleton.mp new
        contradiction
  | @hit index raises request userFeatures found cached =>
      refine ⟨rfl, rfl, memoizes, transparent.answers_set rfl ?_⟩
      intro response left
      cases raises with
      | true => cases left
      | false =>
          cases left
          exact ⟨true, congrArg (replica.ranker.respond request · true)
            (memoizes request.userId userFeatures cached)⟩
  | miss found missing =>
      refine ⟨rfl, rfl, memoizes, transparent.answers_set rfl ?_⟩
      intro response left
      cases left
  | @filled index raises request found =>
      refine ⟨rfl, rfl, memoizes.insert request.userId,
        transparent.answers_set rfl ?_⟩
      intro response left
      cases raises with
      | true => cases left
      | false =>
          cases left
          exact ⟨false, rfl⟩
  | failed found =>
      refine ⟨rfl, rfl, memoizes, transparent.answers_set rfl ?_⟩
      intro response left
      cases left

end Transparent

theorem transparent_of_reachable
    (reachable : (oneReplica itemEmb store uniqueId).Reachable replica) :
    Transparent itemEmb store replica := by
  apply reachable.invariant (Transparent itemEmb store)
  · intro replica initial
    cases initial
    exact ⟨rfl, rfl, memoizes_empty, fun call member => absurd member List.not_mem_nil⟩
  · intro replica stretch next _ transparent taken
    exact transparent.moves (Replica.moves_of_step taken)

/-- The feature cache is transparent: whatever overlapped before, it maps a user to
the features of the store, and every response ranks as a replica with an empty cache
would have. -/
theorem cacheTransparent
    (reachable : (oneReplica itemEmb store uniqueId).Reachable replica) :
    (∀ userId userFeatures,
      replica.ranker.featureCache.lookup userId = some userFeatures →
        userFeatures = store.get userId) ∧
    ∀ call ∈ replica.calls, ∀ response, call.phase = .left (some response) →
      ∀ empty : Ranker, empty.itemEmb = itemEmb → empty.store = store →
        empty.featureCache = ∅ →
        ∃ fresh, empty.answer call.request = some fresh ∧
          response.ranked = fresh.ranked := by
  have transparent := transparent_of_reachable reachable
  refine ⟨transparent.memoizes, ?_⟩
  intro call member response left empty sameItems sameStore noneCached
  rcases transparent.answers call member response left with ⟨cacheHit, rfl⟩
  refine ⟨_, Ranker.answer_of_empty noneCached call.request, ?_⟩
  rw [sameStore]
  apply Ranker.respond_ranked_congr
  rw [transparent.itemEmb_eq, sameItems]

/-- Two calls of one user overlap in their fetches, the first of which is cancelled.
A third call finds what the second one stored. -/
def overlapping : List Stretch :=
  [.accept ⟨"c", ["x", "y"]⟩, .accept ⟨"c", ["y"]⟩, .enter 0 false, .enter 1 false,
    .resume 1 true false, .accept ⟨"c", ["x"]⟩, .enter 2 false, .resume 0 false false]

theorem execute_overlapping :
    ∃ replica, (oneReplica (fun _ _ => 1) ⟨fun _ _ => 1⟩ "r0").Reachable replica ∧
      replica.calls = [⟨⟨"c", ["x", "y"]⟩, .left none⟩,
        ⟨⟨"c", ["y"]⟩, .left (some ⟨"c", [⟨"y", 64⟩], false, "r0"⟩)⟩,
        ⟨⟨"c", ["x"]⟩, .left (some ⟨"c", [⟨"x", 64⟩], true, "r0"⟩)⟩] := by
  have executed : (System.execute Replica.step
      { ranker := .init (fun _ _ => 1) ⟨fun _ _ => 1⟩ "r0" } overlapping).map
        Replica.calls =
      some [⟨⟨"c", ["x", "y"]⟩, .left none⟩,
        ⟨⟨"c", ["y"]⟩, .left (some ⟨"c", [⟨"y", 64⟩], false, "r0"⟩)⟩,
        ⟨⟨"c", ["x"]⟩, .left (some ⟨"c", [⟨"x", 64⟩], true, "r0"⟩)⟩] := by
    decide +kernel
  rcases Option.map_eq_some_iff.mp executed with ⟨replica, run, calls⟩
  exact ⟨replica, System.reachable_of_execute overlapping run, calls⟩

theorem cacheTransparent_overlapping :
    ∃ replica, (oneReplica (fun _ _ => 1) ⟨fun _ _ => 1⟩ "r0").Reachable replica ∧
      ∃ fresh, (Ranker.init (fun _ _ => 1) ⟨fun _ _ => 1⟩ "r1").answer
          ⟨"c", ["x"]⟩ = some fresh ∧ [⟨"x", 64⟩] = fresh.ranked := by
  rcases execute_overlapping with ⟨replica, reachable, calls⟩
  have third : ⟨⟨"c", ["x"]⟩, .left (some ⟨"c", [⟨"x", 64⟩], true, "r0"⟩)⟩ ∈
      replica.calls := by
    rw [calls]
    decide
  exact ⟨replica, reachable,
    (cacheTransparent reachable).2 _ third _ rfl _ rfl rfl rfl⟩

/-! ## Counters -/

/-- The first stretch of the call ran. -/
def Call.entered (call : Call) : Bool :=
  match call.phase with
  | .accepted => false
  | .awaitingFeatures | .left _ => true

/-- The call is entered and not yet left. -/
def Call.inFlight (call : Call) : Bool :=
  match call.phase with
  | .awaitingFeatures => true
  | .accepted | .left _ => false

/-- What the counters of a replica count.  Each call that still waits for features
accounts for a miss that no cached user accounts for. -/
structure Counted (replica : Replica) : Prop where
  ongoing : replica.ranker.ongoing = replica.calls.countP Call.inFlight
  lookups : replica.ranker.hits + replica.ranker.misses =
    replica.calls.countP Call.entered
  cached : replica.ranker.featureCache.keys.length +
    replica.calls.countP Call.inFlight ≤ replica.ranker.misses

/-- A call goes on to another phase, and the counters move by what it counted for
before and after. -/
theorem Counted.set (counted : Counted replica) {ranker : Ranker} {index : Nat}
    {before : Call} (after : Call) (found : replica.calls[index]? = some before)
    (ongoing : ranker.ongoing + before.inFlight.toNat =
      replica.ranker.ongoing + after.inFlight.toNat)
    (lookups : ranker.hits + ranker.misses + before.entered.toNat =
      replica.ranker.hits + replica.ranker.misses + after.entered.toNat)
    (cached : ranker.featureCache.keys.length + after.inFlight.toNat +
        replica.ranker.misses ≤
      replica.ranker.featureCache.keys.length + before.inFlight.toNat +
        ranker.misses) :
    Counted ⟨ranker, replica.calls.set index after⟩ := by
  have waiting := countP_set_of_getElem? Call.inFlight after found
  have entered := countP_set_of_getElem? Call.entered after found
  have wasOngoing := counted.ongoing
  have wereLookups := counted.lookups
  have wereCached := counted.cached
  simp only [Bool.toNat, Bool.cond_eq_ite] at ongoing lookups cached
  constructor <;> dsimp only <;> omega

theorem Counted.moves (counted : Counted replica)
    (moves : replica.Moves stretch next) : Counted next := by
  cases moves with
  | accepted =>
      rcases counted with ⟨ongoing, lookups, cached⟩
      constructor <;>
        simpa [Replica.accept, Call.inFlight, Call.entered, List.countP_append]
  | hit found =>
      apply counted.set _ found <;>
        simp only [Call.inFlight, Call.entered, Bool.toNat_true, Bool.toNat_false] <;>
        omega
  | miss found =>
      apply counted.set _ found <;>
        simp only [Call.inFlight, Call.entered, Bool.toNat_true, Bool.toNat_false] <;>
        omega
  | @filled index raises request found =>
      have filled : (replica.ranker.featureCache.insert request.userId
          (replica.ranker.store.get request.userId)).keys.length ≤
            replica.ranker.featureCache.keys.length + 1 := length_keys_insert_le _ _
      apply counted.set _ found <;>
        simp only [Call.inFlight, Call.entered, Bool.toNat_true, Bool.toNat_false] <;>
        omega
  | failed found =>
      apply counted.set _ found <;>
        simp only [Ranker.leave, Call.inFlight, Call.entered, Bool.toNat_true,
          Bool.toNat_false] <;>
        omega

theorem counted_of_reachable
    (reachable : (oneReplica itemEmb store uniqueId).Reachable replica) :
    Counted replica := by
  apply reachable.invariant Counted
  · intro replica initial
    cases initial
    exact ⟨rfl, rfl, le_rfl⟩
  · intro replica stretch next _ counted taken
    exact counted.moves (Replica.moves_of_step taken)

/-- The rate of hits, rounded, is between 0 and 1. -/
theorem Ranker.lookup_cacheHitRate (ranker : Ranker) :
    ∃ rate, ranker.recordRoutingStats.lookup "cache_hit_rate" = some rate ∧
      0 ≤ rate ∧ rate ≤ 1 := by
  refine ⟨_, rfl, ?_⟩
  split
  next => exact ⟨le_rfl, zero_le_one⟩
  next looked =>
    have part : (ranker.hits : ℚ) ≤ (ranker.hits + ranker.misses : Nat) := by
      exact_mod_cast Nat.le_add_right _ _
    have bounds := @roundTo_mem_Icc 0 1
      (ranker.hits / (ranker.hits + ranker.misses : Nat)) 3 (by positivity)
      (by simpa using div_le_one_of_le₀ part (by positivity))
    simpa using bounds

/-- The statistics of a replica are exact: `ongoing` counts the calls in flight, the
hits and misses are the calls ever entered, each cached user was missed once, and the
router reads the true load and a hit rate between 0 and 1. -/
theorem statsExact
    (reachable : (oneReplica itemEmb store uniqueId).Reachable replica) :
    replica.ranker.ongoing = replica.calls.countP Call.inFlight ∧
    0 ≤ replica.ranker.ongoing ∧
    ((∀ call ∈ replica.calls, call.inFlight = false) → replica.ranker.ongoing = 0) ∧
    replica.ranker.hits + replica.ranker.misses =
      replica.calls.countP Call.entered ∧
    replica.ranker.featureCache.keys.length ≤ replica.ranker.misses ∧
    (∀ {ReplicaID : Type} (running : RunningReplica ReplicaID),
      running.routingStats = replica.ranker.recordRoutingStats →
        running.load = replica.calls.countP Call.inFlight) ∧
    ∃ rate, replica.ranker.recordRoutingStats.lookup "cache_hit_rate" = some rate ∧
      0 ≤ rate ∧ rate ≤ 1 := by
  have counted := counted_of_reachable reachable
  have ongoing := counted.ongoing
  refine ⟨ongoing, ?_, ?_, counted.lookups, ?_, ?_, replica.ranker.lookup_cacheHitRate⟩
  · omega
  · intro idle
    rw [ongoing, List.countP_eq_zero.mpr (by simpa using idle)]
    rfl
  · exact le_of_add_le_left counted.cached
  · intro ReplicaID running stats
    have load : running.load = replica.ranker.ongoing := by
      rw [RunningReplica.load, stats]
      rfl
    rw [load, ongoing]
    rfl

theorem statsExact_overlapping :
    ∃ replica, (oneReplica (fun _ _ => 1) ⟨fun _ _ => 1⟩ "r0").Reachable replica ∧
      replica.ranker.ongoing = 0 ∧ replica.ranker.hits + replica.ranker.misses = 3 := by
  rcases execute_overlapping with ⟨replica, reachable, calls⟩
  have exact := statsExact reachable
  refine ⟨replica, reachable, exact.2.2.1 ?_, ?_⟩
  · rw [calls]
    decide
  · rw [exact.2.2.2.1, calls]
    decide

/-! ## The replicas of a fleet -/

/-- A replica of a fleet runs as it would alone. -/
def replicaOfFleet {ReplicaID : Type} [DecidableEq ReplicaID] [ToString ReplicaID]
    (imbalanceThreshold : ℤ) (itemEmb : Fin numItems → Features)
    (store : FeatureStore) (uniqueId : ReplicaID → String) (id : ReplicaID) :
    System.Simulation (fleet imbalanceThreshold itemEmb store uniqueId)
      (oneReplica itemEmb store (uniqueId id)) where
  view fleet := fleet.replicas id
  initial := by
    intro state initial
    cases initial
    rfl
  step := by
    intro state action next _ taken
    cases Fleet.moves_of_step taken with
    | @route request candidates available landed ranks chosen member =>
        by_cases here : id = landed
        · subst here
          exact ⟨[.accept request], .single (by simp [oneReplica, System.ofFunction,
            Replica.step])⟩
        · exact ⟨[], by simpa [Function.update_of_ne here] using .nil _⟩
    | @enter other call raises stretch entered =>
        by_cases here : id = other
        · subst here
          exact ⟨[.enter call raises], .single (by simp [oneReplica, System.ofFunction,
            Replica.step, Fleet.observe, entered])⟩
        · exact ⟨[], by
            simpa [Fleet.observe, Function.update_of_ne here] using .nil _⟩
    | @resume other call fetched raises stretch resumed =>
        by_cases here : id = other
        · subst here
          exact ⟨[.resume call fetched raises], .single (by simp [oneReplica,
            System.ofFunction, Replica.step, Fleet.observe, resumed])⟩
        · exact ⟨[], by
            simpa [Fleet.observe, Function.update_of_ne here] using .nil _⟩

/-- Every replica of a fleet keeps a transparent cache and exact counters. -/
theorem replicas_of_fleet {ReplicaID : Type} [DecidableEq ReplicaID]
    [ToString ReplicaID] {imbalanceThreshold : ℤ} {names : ReplicaID → String}
    {state : Fleet ReplicaID}
    (reachable : (fleet imbalanceThreshold itemEmb store names).Reachable state)
    (id : ReplicaID) :
    Transparent itemEmb store (state.replicas id) ∧ Counted (state.replicas id) := by
  have alone := (replicaOfFleet imbalanceThreshold itemEmb store names id).reachable
    reachable
  exact ⟨transparent_of_reachable alone, counted_of_reachable alone⟩

end DistributedInference.CustomRouting
