import DistributedInference.CustomRouting.Listing
import DistributedInference.Transition.System
import Mathlib.Data.Finset.Card

/-!
# What the sets of replicas signal

`on_request_routed` collects the replicas that each user's requests landed on, as a
signal that affinity was dropped for the user.  A second replica gets into the set
in two more ways: Serve places a request on a fallback rank, or a full replica
leaves the list of the available ones and moves the affine replica.

A run consists of routing decisions over one set of candidate replicas, with any
loads and any of them available, and of the landings of requests on replicas of
their ranks.  Decisions for several requests may precede their landings.
-/

namespace DistributedInference.CustomRouting

open Sorting Python Transition

/-- A call of `choose_replicas` that returned, and where its request landed. -/
structure Decision (ReplicaID : Type) where
  pending : PendingRequest
  available : List (RunningReplica ReplicaID)
  ranks : List (List (RunningReplica ReplicaID))
  landed : Option ReplicaID := none

/-- The router, with the decisions it ever took. -/
structure Routing (ReplicaID : Type) where
  router : UserAffinityRouter
  decisions : List (Decision ReplicaID) := []

inductive RoutingAction (ReplicaID : Type) where
  /-- `choose_replicas`, with the candidates that are available. -/
  | choose (pending : PendingRequest)
      (candidates available : List (RunningReplica ReplicaID))
  /-- The request of a decision lands, which calls `on_request_routed`. -/
  | land (decision : Nat) (landed : ReplicaID)

variable {ReplicaID : Type} [DecidableEq ReplicaID] [ToString ReplicaID]

namespace Routing

def step (routing : Routing ReplicaID) :
    RoutingAction ReplicaID → Option (Routing ReplicaID)
  | .choose pending candidates available =>
      match routing.router.chooseReplicas (fun _ => available) candidates
          (some pending) with
      | .error _ => none
      | .ok ranks => some { routing with
          decisions := routing.decisions ++ [⟨pending, available, ranks, none⟩] }
  | .land index landed =>
      match routing.decisions[index]? with
      | some ⟨pending, available, ranks, none⟩ =>
          if landed ∈ ranks.flatten.map RunningReplica.replicaId then
            some {
              router := routing.router.onRequestRouted pending landed
              decisions :=
                routing.decisions.set index ⟨pending, available, ranks, landed⟩ }
          else none
      | _ => none

/-- The replicas on record for a user. -/
def usedBy (routing : Routing ReplicaID) (userId : PyString) : Finset String :=
  (routing.router.replicasPerUser.lookup userId).getD ∅

/-- Some decision for the user dropped affinity. -/
def DroppedFor (routing : Routing ReplicaID) (threshold : ℤ) (userId : PyString) :
    Prop :=
  ∃ decision ∈ routing.decisions, decision.pending.userId? = some userId ∧
    DropsAffinity threshold userId decision.available

instance (routing : Routing ReplicaID) (threshold : ℤ) (userId : PyString) :
    Decidable (routing.DroppedFor threshold userId) :=
  inferInstanceAs (Decidable (∃ decision ∈ routing.decisions, _ ∧ _))

/-- A second replica on record means that affinity was dropped. -/
def SignalSound (threshold : ℤ) (routing : Routing ReplicaID) : Prop :=
  ∀ userId, 2 ≤ (routing.usedBy userId).card → routing.DroppedFor threshold userId

/-- The steps of a routing, with what they do to the record. -/
inductive Moves (routing : Routing ReplicaID) :
    RoutingAction ReplicaID → Routing ReplicaID → Prop
  | choose {pending : PendingRequest}
      {candidates available : List (RunningReplica ReplicaID)}
      {ranks : List (List (RunningReplica ReplicaID))} :
      Moves routing (.choose pending candidates available)
        { routing with
          decisions := routing.decisions ++ [⟨pending, available, ranks, none⟩] }
  | land {index : Nat} {landed : ReplicaID} {decision : Decision ReplicaID} :
      routing.decisions[index]? = some decision →
      Moves routing (.land index landed)
        { router := routing.router.onRequestRouted decision.pending landed
          decisions := routing.decisions.set index
            { decision with landed := some landed } }

variable {routing next : Routing ReplicaID} {action : RoutingAction ReplicaID}
variable {threshold : ℤ} {userId : PyString}

theorem moves_of_step (taken : routing.step action = some next) :
    routing.Moves action next := by
  cases action with
  | choose pending candidates available =>
      simp only [step] at taken
      split at taken
      next => contradiction
      next ranks computed =>
        cases taken
        exact .choose
  | land index landed =>
      simp only [step] at taken
      split at taken
      next pending available ranks found =>
        split at taken
        next member =>
          cases taken
          exact .land found
        next => contradiction
      next => contradiction

omit [DecidableEq ReplicaID] in
/-- A landing adds its replica to the record of its user. -/
theorem usedBy_onRequestRouted (router : UserAffinityRouter)
    (decisions : List (Decision ReplicaID)) (pending : PendingRequest)
    (landed : ReplicaID) (userId : PyString) :
    usedBy ⟨router.onRequestRouted pending landed, decisions⟩ userId =
      if pending.userId? = some userId then
        insert (toString landed) (usedBy ⟨router, decisions⟩ userId)
      else usedBy ⟨router, decisions⟩ userId := by
  cases keyed : pending.userId? with
  | none => simp [usedBy, UserAffinityRouter.onRequestRouted, keyed]
  | some user =>
      by_cases same : user = userId
      · subst same
        simp [usedBy, UserAffinityRouter.onRequestRouted, keyed]
      · rw [if_neg (by simpa using same)]
        simp [usedBy, UserAffinityRouter.onRequestRouted, keyed,
          AList.lookup_insert_ne (Ne.symm same)]

omit [DecidableEq ReplicaID] in
/-- Recording where a request landed leaves what was decided. -/
theorem droppedFor_land {index : Nat} {landed : ReplicaID}
    {decision : Decision ReplicaID} {router : UserAffinityRouter}
    (found : routing.decisions[index]? = some decision) :
    DroppedFor ⟨router, routing.decisions.set index
        { decision with landed := some landed }⟩ threshold userId ↔
      routing.DroppedFor threshold userId := by
  constructor
  · intro dropped
    rcases dropped with ⟨other, member, drops⟩
    rcases List.mem_or_eq_of_mem_set member with earlier | rfl
    · exact ⟨other, earlier, drops⟩
    · exact ⟨decision, List.mem_of_getElem? found, drops⟩
  · intro dropped
    rcases dropped with ⟨other, member, drops⟩
    rcases List.getElem?_of_mem member with ⟨position, at_position⟩
    by_cases here : index = position
    · subst here
      cases found.symm.trans at_position
      have bound := (List.getElem?_eq_some_iff.mp found).1
      exact ⟨{ decision with landed := some landed },
        List.mem_set bound _, drops⟩
    · exact ⟨other, List.mem_of_getElem?
        ((List.getElem?_set_ne here).trans at_position), drops⟩

end Routing

/-! ## Runs over one set of candidates -/

/-- The candidates are the replicas of the fleet, and the available ones are among
them. -/
def SameCandidates (ids : List ReplicaID) (_ : Routing ReplicaID) :
    RoutingAction ReplicaID → Prop
  | .choose _ candidates available =>
      (candidates.map RunningReplica.replicaId).Perm ids ∧
        available.Sublist candidates
  | .land _ _ => True

instance (ids : List ReplicaID) (routing : Routing ReplicaID) :
    ∀ action, Decidable (SameCandidates ids routing action)
  | .choose _ _ _ => inferInstanceAs (Decidable (_ ∧ _))
  | .land _ _ => inferInstanceAs (Decidable True)

/-- The runs from a fresh router on. -/
def routingRuns (ids : List ReplicaID) (threshold : ℤ) :
    System (Routing ReplicaID) (RoutingAction ReplicaID) :=
  (System.ofFunction { router := .initializeState threshold }
    Routing.step).restrict (SameCandidates ids)

/-- The id that `_affine_replica` picks for a user among all replicas of the
fleet. -/
def affineId (ids : List ReplicaID) (userId : PyString) : Option ReplicaID :=
  userId.encode.bind fun bytes =>
    (sortedBy toString ids)[crc32 bytes % ids.length]?

/-- A request lands at the affine replica that its user has when all candidates are
available, unless some decision for the user has dropped affinity. -/
def LandsAtHome (ids : List ReplicaID) (threshold : ℤ) (routing : Routing ReplicaID) :
    RoutingAction ReplicaID → Prop
  | .choose _ _ _ => True
  | .land index landed =>
      ∀ decision ∈ routing.decisions[index]?, ∀ userId ∈ decision.pending.userId?,
        ¬ routing.DroppedFor threshold userId →
          (affineId ids userId).map toString = some (toString landed)

instance (ids : List ReplicaID) (threshold : ℤ) (routing : Routing ReplicaID) :
    ∀ action, Decidable (LandsAtHome ids threshold routing action)
  | .choose _ _ _ => inferInstanceAs (Decidable True)
  | .land index _ => inferInstanceAs (Decidable
      (∀ decision ∈ routing.decisions[index]?,
        ∀ userId ∈ decision.pending.userId?, _ → _))

/-- The user of a landing has landed before. -/
def Returning (routing : Routing ReplicaID) : RoutingAction ReplicaID → Prop
  | .choose _ _ _ => True
  | .land index _ =>
      ∀ decision ∈ routing.decisions[index]?, ∀ userId ∈ decision.pending.userId?,
        (routing.usedBy userId).Nonempty

variable {ids : List ReplicaID} {threshold : ℤ}
variable {routing next : Routing ReplicaID} {action : RoutingAction ReplicaID}

/-- A user without a dropped decision has no replica on record but the affine one. -/
def OnlyHome (ids : List ReplicaID) (threshold : ℤ)
    (routing : Routing ReplicaID) : Prop :=
  ∀ userId, ¬ routing.DroppedFor threshold userId →
    ∀ used ∈ routing.usedBy userId, (affineId ids userId).map toString = some used

namespace OnlyHome

omit [DecidableEq ReplicaID] in
theorem signalSound (onlyHome : OnlyHome ids threshold routing) :
    routing.SignalSound threshold := by
  intro userId several
  apply Classical.by_contradiction
  intro kept
  have single : (routing.usedBy userId).card ≤ 1 := by
    apply Finset.card_le_one.mpr
    intro one oneUsed other otherUsed
    have atHome := onlyHome userId kept one oneUsed
    exact Option.some.inj (atHome.symm.trans (onlyHome userId kept other otherUsed))
  omega

omit [DecidableEq ReplicaID] in
theorem moves (onlyHome : OnlyHome ids threshold routing)
    (condition : LandsAtHome ids threshold routing action)
    (moves : routing.Moves action next) : OnlyHome ids threshold next := by
  cases moves with
  | choose =>
      intro userId kept
      apply onlyHome userId
      intro dropped
      rcases dropped with ⟨decision, member, drops⟩
      exact kept ⟨decision, List.mem_append_left _ member, drops⟩
  | @land index landed decision found =>
      intro userId kept used member
      rw [Routing.droppedFor_land found] at kept
      rw [Routing.usedBy_onRequestRouted] at member
      split at member
      next keyed =>
        rcases Finset.mem_insert.mp member with rfl | earlier
        · exact condition decision found userId keyed kept
        · exact onlyHome userId kept used earlier
      next => exact onlyHome userId kept used member

omit [DecidableEq ReplicaID] in
/-- A user who landed before, and whose affinity no decision dropped, spoils the
signal by landing elsewhere. -/
theorem landsAtHome (onlyHome : OnlyHome ids threshold routing)
    (returning : Returning routing action) (moves : routing.Moves action next)
    (sound : next.SignalSound threshold) :
    LandsAtHome ids threshold routing action := by
  cases moves with
  | choose => trivial
  | @land index landed decision found =>
      intro other otherFound userId keyed kept
      cases found.symm.trans otherFound
      rcases returning decision found userId keyed with ⟨used, member⟩
      have atHome := onlyHome userId kept used member
      rw [atHome]
      apply Classical.by_contradiction
      intro elsewhere
      have differs : toString landed ≠ used := fun same => elsewhere (same ▸ rfl)
      apply kept
      apply (Routing.droppedFor_land found).mp
      apply sound userId
      rw [Routing.usedBy_onRequestRouted, if_pos (Option.mem_def.mp keyed)]
      apply Finset.one_lt_card.mpr
      exact ⟨_, Finset.mem_insert_self _ _, used,
        Finset.mem_insert_of_mem member, differs⟩

end OnlyHome

theorem onlyHome_of_reachable
    (reachable : ((routingRuns ids threshold).restrict
      (LandsAtHome ids threshold)).Reachable routing) :
    OnlyHome ids threshold routing := by
  apply reachable.invariant (OnlyHome ids threshold)
  · intro routing initial
    cases initial
    intro userId _ used member
    simp [Routing.usedBy, UserAffinityRouter.initializeState] at member
  · intro routing action next _ onlyHome taken
    exact onlyHome.moves taken.1 (Routing.moves_of_step taken.2.2)

/-- The signal is sound in every run in which the requests of a user land on the
user's affine replica until a decision drops affinity; and after such a run, a
landing of a user who landed before keeps the signal sound only if it does so
too. -/
theorem signalSound_iff
    (reachable : ((routingRuns ids threshold).restrict
      (LandsAtHome ids threshold)).Reachable routing) :
    routing.SignalSound threshold ∧
    ∀ action next, (routingRuns ids threshold).Step routing action next →
      Returning routing action →
      (next.SignalSound threshold ↔ LandsAtHome ids threshold routing action) := by
  have onlyHome := onlyHome_of_reachable reachable
  refine ⟨onlyHome.signalSound, ?_⟩
  intro action next taken returning
  have moves := Routing.moves_of_step taken.2
  constructor
  · exact onlyHome.landsAtHome returning moves
  · intro condition
    exact (onlyHome.moves condition moves).signalSound

/-! ## Where the condition holds -/

omit [DecidableEq ReplicaID] in
/-- The affine id of a listing is that of any other listing of the same ids. -/
theorem affineId_of_affineReplica {available : List (RunningReplica ReplicaID)}
    {preferred : RunningReplica ReplicaID} {userId : PyString}
    (distinct : (ids.map toString).Nodup)
    (listed : (available.map RunningReplica.replicaId).Perm ids)
    (affine : affineReplica userId available = .ok preferred) :
    affineId ids userId = some preferred.replicaId := by
  rcases affineReplica_eq_ok_iff.mp affine with ⟨bytes, encoded, chosen⟩
  have sorted := map_sortedBy (toString : ReplicaID → String)
    RunningReplica.replicaId available
  rw [affineId, encoded, Option.bind_some, sortedBy_eq_of_perm distinct listed.symm,
    ← listed.length_eq, ← sorted, List.length_map, List.getElem?_map]
  exact congrArg (Option.map RunningReplica.replicaId) chosen

/-- A request that keeps its affinity while every replica is available, and that
lands on rank zero, lands at home. -/
theorem affineId_of_rankZero {router : UserAffinityRouter}
    {available : List (RunningReplica ReplicaID)} {pending : PendingRequest}
    {userId : PyString} {rankZero : List (RunningReplica ReplicaID)}
    {fallbacks : List (List (RunningReplica ReplicaID))} {landed : ReplicaID}
    (distinct : (ids.map toString).Nodup)
    (allAvailable : (available.map RunningReplica.replicaId).Perm ids)
    (keyed : pending.userId? = some userId)
    (computed : router.chooseReplicas id available (some pending) =
      .ok (rankZero :: fallbacks))
    (keeps : ¬ DropsAffinity router.imbalanceThreshold userId available)
    (member : landed ∈ rankZero.map RunningReplica.replicaId) :
    affineId ids userId = some landed := by
  have carried : (some pending).bind PendingRequest.userId? = some userId := keyed
  rcases rankZero_of_chooseReplicas carried computed with ⟨affine, isAffine, first⟩
  split at first
  next balanced =>
    rw [affineId_of_affineReplica distinct allAvailable isAffine]
    simpa [first, eq_comm] using member
  next unbalanced =>
    rcases first with ⟨least, minimal, _⟩
    exact absurd ((dropsAffinity_iff isAffine minimal).mpr
      ((not_balanced_iff minimal).mp unbalanced)) keeps

/-- The two requests of user `c` land on its affine replica. -/
def atHome : List (RoutingAction String) :=
  let both := [reporting "r0" 0, reporting "r1" 0]
  [.choose (.ofUser "c") both both, .choose (.ofUser "c") both both, .land 1 "r1",
    .land 0 "r1"]

theorem signalSound_iff_atHome :
    ∃ routing, ((routingRuns ["r0", "r1"] 10).restrict
        (LandsAtHome ["r0", "r1"] 10)).Reachable routing ∧
      routing.usedBy (.ofString "c") = {"r1"} ∧ routing.SignalSound 10 := by
  have executed : (System.execute
      (System.guarded
        (fun routing action => LandsAtHome ["r0", "r1"] 10 routing action ∧
          SameCandidates ["r0", "r1"] routing action) Routing.step)
      { router := .initializeState 10 } atHome).map
        (·.usedBy (.ofString "c")) = some {"r1"} := by
    decide +kernel
  rcases Option.map_eq_some_iff.mp executed with ⟨routing, run, used⟩
  have reachable : ((routingRuns ["r0", "r1"] 10).restrict
      (LandsAtHome ["r0", "r1"] 10)).Reachable routing := by
    rw [routingRuns, System.restrict_restrict]
    exact System.reachable_of_guarded atHome run
  exact ⟨routing, reachable, used, (signalSound_iff reachable).1⟩

/-! ## A second replica without a dropped affinity -/

/-- Every decision for the user kept affinity, and two replicas are on record. -/
def LooksOverridden (threshold : ℤ) (userId : PyString)
    (routing : Routing ReplicaID) : Prop :=
  2 ≤ (routing.usedBy userId).card ∧
    ∀ decision ∈ routing.decisions,
      ¬ DropsAffinity threshold userId decision.available

instance (threshold : ℤ) (userId : PyString) (routing : Routing ReplicaID) :
    Decidable (LooksOverridden threshold userId routing) :=
  inferInstanceAs (Decidable (_ ∧ _))

omit [DecidableEq ReplicaID] in
theorem LooksOverridden.not_signalSound {userId : PyString}
    (looks : LooksOverridden threshold userId routing) :
    ¬ routing.SignalSound threshold := by
  intro sound
  rcases sound userId looks.1 with ⟨decision, member, _, drops⟩
  exact looks.2 decision member drops

/-- A run over the candidates after which affinity looks overridden for a user. -/
theorem exists_not_signalSound (userId : PyString)
    (actions : List (RoutingAction ReplicaID))
    (looks : (System.execute (System.guarded (SameCandidates ids) Routing.step)
        { router := .initializeState threshold } actions).map
          (fun routing => decide (LooksOverridden threshold userId routing)) =
      some true) :
    ∃ routing, (routingRuns ids threshold).Reachable routing ∧
      ¬ routing.SignalSound threshold := by
  rcases Option.map_eq_some_iff.mp looks with ⟨routing, run, overridden⟩
  exact ⟨routing, System.reachable_of_guarded _ run,
    (of_decide_eq_true overridden).not_signalSound⟩

/-- A request lands on its affine replica and the next one on the fallback. -/
def onFallback : List (RoutingAction String) :=
  let both := [reporting "r0" 0, reporting "r1" 0]
  [.choose (.ofUser "c") both both, .land 0 "r1",
    .choose (.ofUser "c") both both, .land 1 "r0"]

/-- Both requests land on rank zero, the second one while `r2` is full. -/
def whileFull : List (RoutingAction String) :=
  [.choose (.ofUser "a") trio trio, .land 0 "r0",
    .choose (.ofUser "a") trio (trio.filter (·.replicaId ≠ "r2")), .land 1 "r1"]

/-- All replicas are idle, so nothing drops affinity, and yet two replicas are on
record. -/
theorem fallback_looksOverridden :
    (∃ routing, (routingRuns ["r0", "r1"] 10).Reachable routing ∧
      ¬ routing.SignalSound 10) ∧
    ∃ routing, (routingRuns ["r0", "r1", "r2"] 10).Reachable routing ∧
      ¬ routing.SignalSound 10 := by
  constructor
  · exact exists_not_signalSound (.ofString "c") onFallback (by decide +kernel)
  · exact exists_not_signalSound (.ofString "a") whileFull (by decide +kernel)

end DistributedInference.CustomRouting
