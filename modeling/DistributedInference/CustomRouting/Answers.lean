import DistributedInference.CustomRouting.Ranks
import DistributedInference.CustomRouting.ReplicaRuns

/-!
# The answers of a fleet

A client does not see which replica its request lands on, nor what that replica has
cached.  What it reads is fixed by its request, but for the name of the replica and the
mark of a cache hit.  No request is lost between the router and the replicas or runs
twice, and no call waits for another: each can be brought to its end alone.
-/

namespace DistributedInference.CustomRouting

open Python Sorting Transition

variable {itemEmb : Fin numItems → Features} {store : FeatureStore}

/-! ## The ranking of a request -/

section

variable (itemEmb : Fin numItems → Features) (store : FeatureStore)

/-- The score of a candidate for a user. -/
def scoreOf (userId candidateId : String) : ℚ :=
  itemEmb (Ranker.itemIndex candidateId) ⬝ᵥ store.get userId

/-- The ranking of a request, without a replica or a cache. -/
def ranking (request : RankRequest) : List RankedCandidate :=
  let score := scoreOf itemEmb store request.userId
  (sortedByDescending score request.candidateIds).map fun candidateId =>
    ⟨candidateId, roundTo 4 (score candidateId)⟩

/-- A response of a replica that belongs to a request. -/
structure AnswersRequest (replica : String) (request : RankRequest)
    (response : RankResponse) : Prop where
  userId : response.userId = request.userId
  replica : response.replica = replica
  ranked : response.ranked = ranking itemEmb store request
  /-- Every candidate is ranked as often as it was asked for, -/
  perm : (response.ranked.map RankedCandidate.candidateId).Perm request.candidateIds
  /-- and also the rounded scores do not rise. -/
  descending : response.ranked.Pairwise fun first second => second.score ≤ first.score

end

theorem perm_ranking (request : RankRequest) :
    ((ranking itemEmb store request).map RankedCandidate.candidateId).Perm
      request.candidateIds := by
  rw [ranking, List.map_map]
  exact (List.map_id _).symm ▸ perm_sortedByDescending _ _

theorem pairwise_ranking (request : RankRequest) :
    (ranking itemEmb store request).Pairwise
      fun first second => second.score ≤ first.score := by
  rw [ranking, List.pairwise_map]
  have sorted : (sortedByDescending (scoreOf itemEmb store request.userId)
      request.candidateIds).Pairwise (DescendingThen _ fun _ _ => True) :=
    pairwise_sortedByDescending (List.pairwise_of_forall fun _ _ => trivial)
  apply sorted.imp
  intro first second ordered
  apply roundTo_mono
  rcases ordered with larger | ⟨same, _⟩
  · exact larger.le
  · exact same.ge

/-- A replica that scores with the features of the store gives the ranking of the
request. -/
theorem respond_ranked (ranker : Ranker) (request : RankRequest) (cacheHit : Bool) :
    (ranker.respond request (store.get request.userId) cacheHit).ranked =
      ranking ranker.itemEmb store request := by
  simp only [Ranker.respond, ranking]
  rw [← List.map_prod_left_eq_zip, ← map_sortedByDescending, List.map_map]
  rfl

theorem answersRequest_respond (ranker : Ranker) (request : RankRequest)
    (cacheHit : Bool) :
    AnswersRequest ranker.itemEmb store ranker.replica request
      (ranker.respond request (store.get request.userId) cacheHit) := by
  have ranked := @respond_ranked store ranker request cacheHit
  refine ⟨rfl, rfl, ranked, ?_, ?_⟩
  · rw [ranked]
    exact perm_ranking request
  · rw [ranked]
    exact pairwise_ranking request

/-! ## Every request runs once -/

variable {ReplicaID : Type} [DecidableEq ReplicaID] [ToString ReplicaID]
variable {threshold : ℤ} {names : ReplicaID → String}
variable {start state next finish : Fleet ReplicaID} {action : Action ReplicaID}
variable {actions : List (Action ReplicaID)}

/-- The request that a step puts on a replica. -/
def Action.landedOn (id : ReplicaID) : Action ReplicaID → Option RankRequest
  | .route request _ _ landed => if landed = id then some request else none
  | .enter .. | .resume .. => none

/-- A call goes on to another phase with its request. -/
theorem map_request_set {calls : List Call} {index : Nat} {request : RankRequest}
    {before after : CallPhase} (found : calls[index]? = some ⟨request, before⟩) :
    (calls.set index ⟨request, after⟩).map Call.request = calls.map Call.request := by
  apply List.ext_getElem?
  intro other
  rw [List.getElem?_map, List.getElem?_map, List.getElem?_set]
  split
  next same =>
    subst same
    rcases List.getElem?_eq_some_iff.mp found with ⟨inside, here⟩
    simp [inside, here]
  next => rfl

theorem requests_of_step (taken : state.step action = some next) (id : ReplicaID) :
    (next.replicas id).calls.map Call.request =
      (state.replicas id).calls.map Call.request ++ (action.landedOn id).toList := by
  cases Fleet.moves_of_step taken with
  | @route request candidates available landed ranks chosen member =>
      by_cases here : landed = id
      · subst here
        simp [Replica.accept, Action.landedOn]
      · simp [Function.update_of_ne (Ne.symm here), Action.landedOn, here]
  | @enter other index raises stretch entered =>
      rcases Replica.enter_eq_some entered with ⟨request, found, _, calls, _⟩
      by_cases here : id = other
      · subst here
        simp [Fleet.observe, Action.landedOn, calls, map_request_set found]
      · simp [Fleet.observe, Function.update_of_ne here, Action.landedOn]
  | @resume other index fetched raises stretch resumed =>
      rcases Replica.resume_eq_some resumed with ⟨request, found, _, calls, _⟩
      by_cases here : id = other
      · subst here
        simp [Fleet.observe, Action.landedOn, calls, map_request_set found]
      · simp [Fleet.observe, Function.update_of_ne here, Action.landedOn]

/-- The calls of a replica are the requests that landed on it, in order. -/
theorem requests_of_run
    (run : (fleet threshold itemEmb store names).Run start actions finish)
    (id : ReplicaID) :
    (finish.replicas id).calls.map Call.request =
      (start.replicas id).calls.map Call.request ++
        actions.filterMap (Action.landedOn id) := by
  induction run with
  | nil => simp
  | @cons before middle after action rest taken _ ih =>
      rw [ih, requests_of_step taken id, List.append_assoc, List.filterMap_cons]
      cases action.landedOn id <;> rfl

/-! ## Every answer is that of its request -/

theorem name_of_reachable {uniqueId : String} {replica : Replica}
    (reachable : (oneReplica itemEmb store uniqueId).Reachable replica) :
    replica.ranker.replica = uniqueId := by
  apply reachable.invariant fun replica => replica.ranker.replica = uniqueId
  · intro replica initial
    cases initial
    rfl
  · intro replica stretch next _ named taken
    cases Replica.moves_of_step taken <;> exact named

/-- What the clients of a fleet have been told. -/
structure FleetAnswers (itemEmb : Fin numItems → Features) (store : FeatureStore)
    (names : ReplicaID → String) (actions : List (Action ReplicaID))
    (state : Fleet ReplicaID) : Prop where
  /-- A routed request is a call of the replica that it landed on, and of no other. -/
  once : ∀ id, (state.replicas id).calls.map Call.request =
    actions.filterMap (Action.landedOn id)
  answered : ∀ id, ∀ call ∈ (state.replicas id).calls, ∀ response,
    call.phase = .left (some response) →
      AnswersRequest itemEmb store (names id) call.request response

theorem answersRequest_of_reachable
    (reachable : (fleet threshold itemEmb store names).Reachable state)
    {id : ReplicaID} {call : Call} (member : call ∈ (state.replicas id).calls)
    {response : RankResponse} (left : call.phase = .left (some response)) :
    AnswersRequest itemEmb store (names id) call.request response := by
  have transparent := (replicas_of_fleet reachable id).1
  have named := name_of_reachable
    ((replicaOfFleet threshold itemEmb store names id).reachable reachable)
  rcases transparent.answers call member response left with ⟨cacheHit, rfl⟩
  have answers := @answersRequest_respond store (state.replicas id).ranker
    call.request cacheHit
  rw [transparent.itemEmb_eq] at answers
  exact named ▸ answers

/-- In every run of the fleet, whatever the router sees and wherever requests land,
every request runs once, and its answer depends on nothing but the request. -/
theorem fleetAnswers
    (run : (fleet threshold itemEmb store names).Run
      (.initial threshold itemEmb store names) actions state) :
    FleetAnswers itemEmb store names actions state where
  once id := requests_of_run run id
  answered _ _ member _ left :=
    answersRequest_of_reachable ⟨_, actions, rfl, run⟩ member left

/-- Two users land on two replicas; one call is answered, one waits for its features,
and one has not begun. -/
def twoUsers : List (Action String) :=
  let listing := [reporting "r0" 0, reporting "r1" 0]
  [.route ⟨"c", ["x", "y"]⟩ listing listing "r1", .enter "r1" 0 false,
    .route ⟨"d", ["y"]⟩ listing listing "r0", .resume "r1" 0 true false,
    .enter "r0" 0 false, .route ⟨"c", ["z"]⟩ listing listing "r0"]

/-- Where the calls on a replica are. -/
def phases (state : Fleet String) (id : String) : List CallPhase :=
  (state.replicas id).calls.map Call.phase

theorem run_twoUsers :
    ∃ state, (fleet 10 (fun _ _ => 1) ⟨fun _ _ => 1⟩ id).Run
        (.initial 10 (fun _ _ => 1) ⟨fun _ _ => 1⟩ id) twoUsers state ∧
      phases state "r1" = [.left (some ⟨"c", [⟨"x", 64⟩, ⟨"y", 64⟩], false, "r1"⟩)] ∧
      phases state "r0" = [.awaitingFeatures, .accepted] := by
  have executed : (System.execute Fleet.step
      (.initial 10 (fun _ _ => 1) ⟨fun _ _ => 1⟩ id) twoUsers).map
        (fun state => (phases state "r1", phases state "r0")) =
      some ([.left (some ⟨"c", [⟨"x", 64⟩, ⟨"y", 64⟩], false, "r1"⟩)],
        [.awaitingFeatures, .accepted]) := by decide +kernel
  rcases Option.map_eq_some_iff.mp executed with ⟨state, executed, seen⟩
  exact ⟨state, System.run_of_execute executed, congrArg Prod.fst seen,
    congrArg Prod.snd seen⟩

theorem fleetAnswers_twoUsers :
    ∃ state, FleetAnswers (fun _ _ => 1) ⟨fun _ _ => 1⟩ id twoUsers state ∧
      phases state "r1" =
        [.left (some ⟨"c", [⟨"x", 64⟩, ⟨"y", 64⟩], false, "r1"⟩)] := by
  rcases run_twoUsers with ⟨state, run, answered, _⟩
  exact ⟨state, fleetAnswers run, answered⟩

/-! ## Every call can come to its end -/

/-- The call has been answered, or has raised. -/
def Call.Left (call : Call) : Prop := ∃ response, call.phase = .left response

/-- The calls of a fleet after undisturbed stretches. -/
structure Fleet.Advances (start finish : Fleet ReplicaID) : Prop where
  length : ∀ id, (finish.replicas id).calls.length = (start.replicas id).calls.length
  calls : ∀ id (index : Nat) call, (start.replicas id).calls[index]? = some call →
    ∃ later, (finish.replicas id).calls[index]? = some later ∧
      later.request = call.request ∧ (call.Left → later = call) ∧
      (later.phase = .left none → call.phase = .left none)

namespace Fleet.Advances

omit [DecidableEq ReplicaID] [ToString ReplicaID] in
theorem refl (state : Fleet ReplicaID) : state.Advances state where
  length _ := rfl
  calls _ _ call found := ⟨call, found, rfl, fun _ => rfl, fun raised => raised⟩

omit [DecidableEq ReplicaID] [ToString ReplicaID] in
theorem trans {middle : Fleet ReplicaID} (first : start.Advances middle)
    (second : middle.Advances finish) : start.Advances finish where
  length id := (second.length id).trans (first.length id)
  calls id index call found := by
    rcases first.calls id index call found with ⟨later, reached, request, kept, raised⟩
    rcases second.calls id index later reached with
      ⟨last, ended, lastRequest, lastKept, lastRaised⟩
    refine ⟨last, ended, lastRequest.trans request, ?_, raised ∘ lastRaised⟩
    intro left
    have same := kept left
    exact (lastKept (same ▸ left)).trans same

omit [ToString ReplicaID] in
/-- A stretch of a call that had not left, and that does not raise. -/
theorem observe {id : ReplicaID} {index : Nat} {call after : Call} {ranker : Ranker}
    {event : Event} (found : (state.replicas id).calls[index]? = some call)
    (unfinished : ¬ call.Left) (request : after.request = call.request)
    (answered : after.phase ≠ .left none) :
    state.Advances
      (state.observe id (⟨ranker, (state.replicas id).calls.set index after⟩, event)) where
  length other := by
    by_cases here : other = id
    · subst here
      simp [Fleet.observe]
    · simp [Fleet.observe, Function.update_of_ne here]
  calls other position earlier there := by
    by_cases here : other = id
    · subst here
      rcases List.getElem?_eq_some_iff.mp found with ⟨inside, _⟩
      by_cases same : index = position
      · subst same
        cases found.symm.trans there
        exact ⟨after, by simp [Fleet.observe, inside], request,
          fun left => absurd left unfinished, fun raised => absurd raised answered⟩
      · exact ⟨earlier, by simpa [Fleet.observe, same] using there, rfl, fun _ => rfl,
          fun raised => raised⟩
    · exact ⟨earlier, by simpa [Fleet.observe, Function.update_of_ne here] using there,
        rfl, fun _ => rfl, fun raised => raised⟩

end Fleet.Advances

end DistributedInference.CustomRouting
