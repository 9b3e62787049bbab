import DistributedInference.Caching.Cache
import DistributedInference.CustomRouting.Affinity
import DistributedInference.CustomRouting.Fleet

/-!
# Affinity makes the cache hit

While every replica stays available, no affine replica carries too much and every
request lands on rank zero, the caches of the fleet behave like one cache: a user
is served by one replica, and only the lookups before the first stored fetch go to
the feature store.
-/

namespace DistributedInference.CustomRouting

open Caching Python Transition

/-! ## The accesses in a log -/

namespace Event

/-- The cache access that a stretch makes. -/
def access : Event → Option (Access String)
  | .entered userId .awaitingFeatures => some (.miss userId)
  | .entered userId (.left _) => some (.hit userId)
  | .resumed userId stored _ => if stored then some (.fill userId) else none

/-- A call that left without asking the store reports a cache hit. -/
def Honest : Event → Prop
  | .entered _ (.left response) => ∀ answer ∈ response, answer.cacheHit = true
  | _ => True

/-- The call looked `userId` up. -/
def looksUp (userId : String) : Event → Bool
  | .entered user _ => user = userId
  | .resumed .. => false

/-- The call asked the store for the features of `userId`. -/
def callsStore (userId : String) : Event → Bool
  | .entered user .awaitingFeatures => user = userId
  | _ => false

/-- The call stored the features of `userId`. -/
def stores (userId : String) : Event → Bool
  | .resumed user stored _ => user = userId && stored
  | .entered .. => false

theorem access_eq_fill_iff (event : Event) (userId : String) :
    event.access = some (.fill userId) ↔ event.stores userId = true := by
  cases event with
  | entered user progress => cases progress <;> simp [access, stores]
  | resumed user stored response => cases stored <;> simp [access, stores]

theorem honest_entered (ranker : Ranker) (request : RankRequest) (raises : Bool) :
    (entered request.userId (ranker.rank request raises).2).Honest := by
  cases cached : ranker.featureCache.lookup request.userId with
  | none =>
      rw [Ranker.rank_of_lookup_none cached]
      trivial
  | some userFeatures =>
      rw [Ranker.rank_of_lookup cached]
      intro answer answered
      cases raises with
      | false =>
          cases answered
          rfl
      | true => cases answered

end Event

variable {ReplicaID : Type}

/-- What affinity promises about a fleet and its history. -/
structure ServedFromCache (fleet : Fleet ReplicaID) : Prop where
  /-- All requests of one user land on one replica. -/
  oneReplica : ∀ landing ∈ fleet.routed, ∀ other ∈ fleet.routed,
    landing.1 = other.1 → landing.2 = other.2
  /-- A lookup after a stored fetch of the same user is answered without a call of
  the store, and reported as a cache hit. -/
  hits : ∀ before id userId progress after,
    fleet.log = before ++ (id, .entered userId progress) :: after →
    (∃ entry ∈ before, entry.2.stores userId = true) →
    ∃ response, progress = .left response ∧
      ∀ answer ∈ response, answer.cacheHit = true
  /-- The store is called for the lookups before the first stored fetch. -/
  storeCalls : ∀ userId,
    fleet.log.countP (·.2.callsStore userId) =
      (fleet.log.takeWhile (!·.2.stores userId)).countP (·.2.looksUp userId)

/-! ## Reading the log as cache accesses -/

/-- The accesses up to the first fill belong to the stretches up to the first stored
fetch. -/
theorem takeWhile_access (log : List (ReplicaID × Event)) (userId : String) :
    (log.filterMap (·.2.access)).takeWhile (· ≠ .fill userId) =
      (log.takeWhile (!·.2.stores userId)).filterMap (·.2.access) := by
  have agree : ∀ event : Event,
      event.access.all (· ≠ .fill userId) = !event.stores userId := by
    intro event
    have filled := event.access_eq_fill_iff userId
    cases access : event.access with
    | none => simpa [access] using filled
    | some access' =>
        simp only [access, Option.some.injEq] at filled
        simp [filled]
  simp only [List.takeWhile_filterMap, agree]

theorem storeCalls_of_fitting {log : List (ReplicaID × Event)}
    (fitting : Fitting (log.filterMap (·.2.access))) (userId : String) :
    log.countP (·.2.callsStore userId) =
      (log.takeWhile (!·.2.stores userId)).countP (·.2.looksUp userId) := by
  have misses : ∀ event : Event,
      (event.access.map (· == .miss userId)).getD false =
        event.callsStore userId := by
    intro event
    cases event with
    | entered user progress =>
        cases progress <;> simp [Event.access, Event.callsStore, beq_eq_decide]
    | resumed user stored response =>
        cases stored <;> simp [Event.access, Event.callsStore]
  have lookups : ∀ event : Event,
      (event.access.map (Access.looksUp userId)).getD false =
        event.looksUp userId := by
    intro event
    cases event with
    | entered user progress =>
        cases progress <;> simp [Event.access, Event.looksUp, Access.looksUp]
    | resumed user stored response =>
        cases stored <;> simp [Event.access, Event.looksUp, Access.looksUp]
  have counted := fitting.count_miss userId
  simpa only [takeWhile_access, List.count_eq_countP, List.countP_filterMap, misses,
    lookups] using counted

/-! ## Steady runs -/

variable [DecidableEq ReplicaID] [ToString ReplicaID]

/-- Every replica of the fleet is available, the affine one is not too far above
the others, and the request lands on rank zero. -/
def Steady (ids : List ReplicaID) (fleet : Fleet ReplicaID) : Action ReplicaID → Prop
  | .route request candidates available landed =>
      (candidates.map RunningReplica.replicaId).Perm ids ∧ available = candidates ∧
      (∀ preferred ∈ (affineReplica (.ofString request.userId) available).toOption,
        Balanced fleet.router.imbalanceThreshold available preferred) ∧
      ∃ ranks ∈ (fleet.chooseReplicas request candidates available).toOption,
        landed ∈ (ranks.headD []).map RunningReplica.replicaId
  | .enter .. => True
  | .resume .. => True

instance (ids : List ReplicaID) (fleet : Fleet ReplicaID) :
    (action : Action ReplicaID) → Decidable (Steady ids fleet action)
  | .route .. => inferInstanceAs (Decidable (_ ∧ _))
  | .enter .. => inferInstanceAs (Decidable True)
  | .resume .. => inferInstanceAs (Decidable True)

variable {ids : List ReplicaID} {state next : Fleet ReplicaID}

/-- A steady request lands at home. -/
theorem landed_home {request : RankRequest}
    {candidates available : List (RunningReplica ReplicaID)} {landed : ReplicaID}
    (injective : Function.Injective (toString : ReplicaID → String))
    (distinct : ids.Nodup)
    (steady : Steady ids state (.route request candidates available landed)) :
    homeOf ids request.userId = some landed := by
  rcases steady with ⟨listed, rfl, balanced, ranks, chosen, rankZero⟩
  have computed : state.chooseReplicas request available available = .ok ranks := by
    cases result : state.chooseReplicas request available available <;>
      simp_all [Except.toOption]
  have strings := (listed.map (toString : ReplicaID → String)).nodup_iff.mpr
    (distinct.map injective)
  rw [← homeOf_perm request.userId strings listed]
  cases choice_of_chooseReplicas computed with
  | noneAvailable => cases rankZero
  | unkeyed _ keyless => cases keyless
  | dropped keyed affine _ unbalanced =>
      cases keyed
      exact absurd (balanced _ (by rw [affine]; rfl)) unbalanced
  | @kept _ preferred keyed affine _ =>
      cases keyed
      rcases affineRanks_eq_cons preferred available with ⟨others, ranks⟩
      rw [ranks] at rankZero
      cases List.mem_singleton.mp rankZero
      exact homeOf_of_affineReplica affine

/-! ## Everything about a user is at home -/

/-- A replica is called on for, and caches, users of its own only. -/
structure OwnUsers (ids : List ReplicaID) (id : ReplicaID) (replica : Replica) :
    Prop where
  called : ∀ call ∈ replica.calls, homeOf ids call.request.userId = some id
  cached : ∀ userId ∈ replica.ranker.featureCache, homeOf ids userId = some id

/-- A user is routed to, called on and cached by its home replica only. -/
structure AtHome (ids : List ReplicaID) (fleet : Fleet ReplicaID) : Prop where
  routed : ∀ landing ∈ fleet.routed, homeOf ids landing.1 = some landing.2
  replicas : ∀ id, OwnUsers ids id (fleet.replicas id)

omit [DecidableEq ReplicaID] in
theorem OwnUsers.accept {id : ReplicaID} {replica : Replica} {request : RankRequest}
    (own : OwnUsers ids id replica)
    (home : homeOf ids request.userId = some id) :
    OwnUsers ids id (replica.accept request) where
  called call member := by
    rcases List.mem_append.mp member with old | new
    · exact own.called call old
    · cases List.mem_singleton.mp new
      exact home
  cached := own.cached

omit [DecidableEq ReplicaID] in
/-- A stretch of a call caches at most the user of the call. -/
theorem OwnUsers.stretch {id : ReplicaID} {replica later : Replica} {index : Nat}
    {request : RankRequest} {phase laterPhase : CallPhase}
    (own : OwnUsers ids id replica)
    (found : replica.calls[index]? = some ⟨request, phase⟩)
    (calls : later.calls = replica.calls.set index ⟨request, laterPhase⟩)
    (cache : ∀ userId ∈ later.ranker.featureCache,
      userId ∈ replica.ranker.featureCache ∨ userId = request.userId) :
    OwnUsers ids id later := by
  have home := own.called _ (List.mem_of_getElem? found)
  constructor
  · intro call member
    rw [calls] at member
    rcases List.mem_or_eq_of_mem_set member with old | new
    · exact own.called call old
    · exact new ▸ home
  · intro userId member
    rcases cache userId member with old | new
    · exact own.cached userId old
    · exact new ▸ home

theorem AtHome.moves (atHome : AtHome ids state) {action : Action ReplicaID}
    (injective : Function.Injective (toString : ReplicaID → String))
    (distinct : ids.Nodup) (steady : Steady ids state action)
    (moves : state.Moves action next) : AtHome ids next := by
  have others : ∀ changed id, id ≠ changed → OwnUsers ids id (state.replicas id) :=
    fun _ id _ => atHome.replicas id
  cases moves with
  | @route request _ _ landed =>
      have home := landed_home injective distinct steady
      constructor
      · intro landing member
        rcases List.mem_append.mp member with old | new
        · exact atHome.routed landing old
        · cases List.mem_singleton.mp new
          exact home
      · exact (Function.forall_update_iff _ (OwnUsers ids)).mpr
          ⟨(atHome.replicas landed).accept home, others landed⟩
  | @enter id _ _ stretch entered =>
      rcases Replica.enter_eq_some entered with ⟨request, found, ranker, calls, _⟩
      refine ⟨atHome.routed, (Function.forall_update_iff _ (OwnUsers ids)).mpr
        ⟨(atHome.replicas id).stretch found calls ?_, others id⟩⟩
      intro userId member
      rw [ranker, Ranker.rank_featureCache] at member
      exact .inl member
  | @resume id _ _ _ stretch resumed =>
      rcases Replica.resume_eq_some resumed with ⟨request, found, ranker, calls, _⟩
      refine ⟨atHome.routed, (Function.forall_update_iff _ (OwnUsers ids)).mpr
        ⟨(atHome.replicas id).stretch found calls ?_, others id⟩⟩
      intro userId member
      rw [ranker, Ranker.mem_resumeRank_featureCache] at member
      exact member.imp_right And.left

/-! ## The fleet as one cache -/

/-- The users that some replica has cached. -/
def cachedUsers (replicas : ReplicaID → Replica) : Set String :=
  {userId | ∃ id, userId ∈ (replicas id).ranker.featureCache}

/-- The union of the caches of the fleet, with the accesses to any of them. -/
def sharedCache (fleet : Fleet ReplicaID) : Cache String where
  keys := cachedUsers fleet.replicas
  log := fleet.log.filterMap (·.2.access)

omit [ToString ReplicaID] in
theorem cachedUsers_update {replicas : ReplicaID → Replica} {id : ReplicaID}
    {later : Replica} (added : Set String)
    (cache : ∀ userId, userId ∈ later.ranker.featureCache ↔
      userId ∈ (replicas id).ranker.featureCache ∨ userId ∈ added) :
    cachedUsers (Function.update replicas id later) =
      cachedUsers replicas ∪ added := by
  ext userId
  have cached : ∀ changed : Replica,
      (∃ other, userId ∈
          (Function.update replicas id changed other).ranker.featureCache) ↔
        userId ∈ changed.ranker.featureCache ∨
          ∃ other ≠ id, userId ∈ (replicas other).ranker.featureCache := fun _ =>
    Function.exists_update_iff replicas
      fun _ (replica : Replica) => userId ∈ replica.ranker.featureCache
  have before := cached (replicas id)
  rw [Function.update_eq_self] at before
  simp only [cachedUsers, Set.mem_union, Set.mem_ofPred_eq]
  rw [cached later, before, cache, or_right_comm]

omit [ToString ReplicaID] in
theorem sharedCache_observe (state : Fleet ReplicaID) (id : ReplicaID)
    (stretch : Replica × Event) (added : Set String)
    (cache : ∀ userId, userId ∈ stretch.1.ranker.featureCache ↔
      userId ∈ (state.replicas id).ranker.featureCache ∨ userId ∈ added) :
    sharedCache (state.observe id stretch) =
      { keys := (sharedCache state).keys ∪ added
        log := (sharedCache state).log ++ stretch.2.access.toList } := by
  have recorded : [(id, stretch.2)].filterMap (·.2.access) =
      stretch.2.access.toList := by
    cases access : stretch.2.access <;> simp [access]
  simp only [sharedCache, Fleet.observe, cachedUsers_update added cache,
    List.filterMap_append, recorded]

omit [ToString ReplicaID] in
theorem sharedCache_route {router : UserAffinityRouter} {request : RankRequest}
    {landed : ReplicaID} {routed : List (String × ReplicaID)} :
    sharedCache { state with
      router := router
      replicas := Function.update state.replicas landed
        ((state.replicas landed).accept request)
      routed := routed } = sharedCache state := by
  have kept : cachedUsers (Function.update state.replicas landed
      ((state.replicas landed).accept request)) = cachedUsers state.replicas ∪ ∅ :=
    cachedUsers_update ∅ (by simp [Replica.accept])
  simp only [sharedCache, kept, Set.union_empty]

omit [DecidableEq ReplicaID] in
/-- The lookups of a user find in its own replica what any replica has cached. -/
theorem AtHome.mem_sharedCache_iff (atHome : AtHome ids state) {userId : String}
    {id : ReplicaID} (home : homeOf ids userId = some id) :
    userId ∈ (sharedCache state).keys ↔
      userId ∈ (state.replicas id).ranker.featureCache := by
  constructor
  · intro shared
    rcases shared with ⟨replica, cached⟩
    cases home.symm.trans ((atHome.replicas replica).cached userId cached)
    exact cached
  · intro cached
    exact ⟨id, cached⟩

/-- A step of the fleet is at most one access to the shared cache. -/
theorem AtHome.sharedCache_step (atHome : AtHome ids state)
    {action : Action ReplicaID} (moves : state.Moves action next) :
    ∃ accesses, Cache.system.Run (sharedCache state) accesses (sharedCache next) := by
  cases moves with
  | route =>
      rw [sharedCache_route]
      exact ⟨[], .nil _⟩
  | @enter id _ raises stretch entered =>
      rcases Replica.enter_eq_some entered with
        ⟨request, found, ranker, _, event⟩
      have home := (atHome.replicas id).called _ (List.mem_of_getElem? found)
      have view := sharedCache_observe state id stretch ∅ (by simp [ranker])
      rw [view, Set.union_empty, event]
      cases cached :
          (state.replicas id).ranker.featureCache.lookup request.userId with
      | none =>
          have missing : request.userId ∉ (sharedCache state).keys := by
            rw [atHome.mem_sharedCache_iff home]
            exact AList.lookup_eq_none.mp cached
          rw [Ranker.rank_of_lookup_none cached]
          exact ⟨_, .single (.miss missing)⟩
      | some userFeatures =>
          have found : request.userId ∈ (sharedCache state).keys := by
            rw [atHome.mem_sharedCache_iff home]
            exact AList.lookup_isSome.mp (by simp [cached])
          rw [Ranker.rank_of_lookup cached]
          exact ⟨_, .single (.hit found)⟩
  | @resume id _ fetched _ stretch resumed =>
      rcases Replica.resume_eq_some resumed with ⟨request, _, ranker, _, event⟩
      cases fetched with
      | false =>
          have view := sharedCache_observe state id stretch ∅
            (by simp [ranker, Ranker.mem_resumeRank_featureCache])
          rw [view, Set.union_empty, event]
          simp only [Event.access, Bool.false_eq_true, if_false, Option.toList_none,
            List.append_nil]
          exact ⟨[], .nil _⟩
      | true =>
          have view := sharedCache_observe state id stretch {request.userId}
            (by simp [ranker, Ranker.mem_resumeRank_featureCache])
          rw [view, Set.union_singleton, event]
          exact ⟨_, .single .fill⟩

/-- The steady runs of a fleet. -/
def steadyFleet (ids : List ReplicaID) (imbalanceThreshold : ℤ)
    (itemEmb : Fin numItems → Features) (store : FeatureStore)
    (uniqueId : ReplicaID → String) : System (Fleet ReplicaID) (Action ReplicaID) :=
  (fleet imbalanceThreshold itemEmb store uniqueId).restrict (Steady ids)

variable {imbalanceThreshold : ℤ} {itemEmb : Fin numItems → Features}
variable {store : FeatureStore} {uniqueId : ReplicaID → String}

theorem atHome_of_reachable
    (injective : Function.Injective (toString : ReplicaID → String))
    (distinct : ids.Nodup)
    (reachable : (steadyFleet ids imbalanceThreshold itemEmb store
      uniqueId).Reachable state) : AtHome ids state := by
  apply reachable.invariant (AtHome ids)
  · intro state initial
    cases initial
    exact ⟨by simp [Fleet.initial], fun id =>
      ⟨by simp [Fleet.initial], by simp [Fleet.initial, Ranker.init]⟩⟩
  · intro state action next _ atHome taken
    exact atHome.moves injective distinct taken.1 (Fleet.moves_of_step taken.2)

/-- Under affinity the caches of the fleet are one cache. -/
def refinesSharedCache
    (injective : Function.Injective (toString : ReplicaID → String))
    (distinct : ids.Nodup) :
    System.Simulation (steadyFleet ids imbalanceThreshold itemEmb store uniqueId)
      (Cache.system : System (Cache String) (Access String)) where
  view := sharedCache
  initial := by
    intro state initial
    cases initial
    simp [Cache.system, Cache.empty, sharedCache, cachedUsers, Fleet.initial,
      Ranker.init]
  step := by
    intro state action next reachable taken
    exact (atHome_of_reachable injective distinct reachable).sharedCache_step
      (Fleet.moves_of_step taken.2)

theorem honest_moves {action : Action ReplicaID}
    (honest : ∀ entry ∈ state.log, entry.2.Honest)
    (moves : state.Moves action next) : ∀ entry ∈ next.log, entry.2.Honest := by
  cases moves with
  | route => exact honest
  | enter entered =>
      rcases Replica.enter_eq_some entered with ⟨request, _, _, _, event⟩
      intro entry member
      rcases List.mem_append.mp member with old | new
      · exact honest entry old
      · rw [List.mem_singleton.mp new, event]
        exact Event.honest_entered _ request _
  | resume resumed =>
      rcases Replica.resume_eq_some resumed with ⟨request, _, _, _, event⟩
      intro entry member
      rcases List.mem_append.mp member with old | new
      · exact honest entry old
      · rw [List.mem_singleton.mp new, event]
        trivial

theorem honest_of_reachable
    (reachable : (fleet imbalanceThreshold itemEmb store uniqueId).Reachable state) :
    ∀ entry ∈ state.log, entry.2.Honest := by
  apply reachable.invariant fun state => ∀ entry ∈ state.log, entry.2.Honest
  · intro state initial
    cases initial
    simp [Fleet.initial]
  · intro state action next _ honest taken
    exact honest_moves honest (Fleet.moves_of_step taken)

/-! ## Serving from the cache -/

/-- In a steady run a user is served by one replica, and only the lookups before
the first stored fetch call the store. -/
theorem servedFromCache
    (injective : Function.Injective (toString : ReplicaID → String))
    (distinct : ids.Nodup)
    (reachable : (steadyFleet ids imbalanceThreshold itemEmb store
      uniqueId).Reachable state) : ServedFromCache state := by
  have atHome := atHome_of_reachable injective distinct reachable
  have shared := (refinesSharedCache injective distinct).reachable reachable
  have coherent := coherent_of_reachable shared
  have fitting : Fitting (state.log.filterMap (·.2.access)) := coherent.fitting
  constructor
  · intro landing member other otherMember same
    have home := atHome.routed landing member
    rw [same, atHome.routed other otherMember] at home
    exact (Option.some.inj home).symm
  · intro before id userId progress after split stored
    rcases stored with ⟨entry, earlier, stores⟩
    have filled : .fill userId ∈ before.filterMap (·.2.access) :=
      List.mem_filterMap.mpr
        ⟨entry, earlier, (Event.access_eq_fill_iff _ _).mpr stores⟩
    have honest := honest_of_reachable reachable.of_restrict
      (id, .entered userId progress) (by simp [split])
    cases progress with
    | left response => exact ⟨response, rfl, honest⟩
    | awaitingFeatures =>
        have accesses : state.log.filterMap (·.2.access) =
            before.filterMap (·.2.access) ++
              .miss userId :: after.filterMap (·.2.access) := by
          simp [split, Event.access]
        cases fitting.hit_of_fill accesses (by simp [Access.looksUp]) filled
  · exact storeCalls_of_fitting fitting

/-- Two requests of one user, listed in either order: the second is a hit. -/
def twice : List (Action String) :=
  let listing := [reporting "r0" 0, reporting "r1" 0]
  [.route ⟨"c", ["x"]⟩ listing listing "r1", .enter "r1" 0 false,
    .resume "r1" 0 true false,
    .route ⟨"c", ["y"]⟩ listing.reverse listing.reverse "r1", .enter "r1" 1 false]

theorem servedFromCache_twice :
    ∃ state, (steadyFleet ["r0", "r1"] 10 (fun _ _ => 0) ⟨fun _ _ => 0⟩
        id).Reachable state ∧
      state.log.map (·.2.callsStore "c") = [true, false, false] ∧
      ServedFromCache state := by
  have executed : (System.execute
      (System.guarded (Steady ["r0", "r1"]) Fleet.step)
      (.initial 10 (fun _ _ => 0) ⟨fun _ _ => 0⟩ id) twice).map
        (·.log.map (·.2.callsStore "c")) = some [true, false, false] := by
    decide +kernel
  rcases Option.map_eq_some_iff.mp executed with ⟨state, run, calls⟩
  have reachable := System.reachable_of_guarded twice run
  exact ⟨state, reachable, calls,
    servedFromCache (fun _ _ => id) (by decide) reachable⟩

end DistributedInference.CustomRouting
