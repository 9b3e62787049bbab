import DistributedInference.CustomRouting.Choice
import DistributedInference.CustomRouting.Ranker
import DistributedInference.Transition.System
import Mathlib.Logic.Function.Basic

/-!
# The router and its replicas

A step of the fleet is one routing decision, or one stretch of one call on one
replica.  Which replicas the router sees as available, what they report, which
replica of the ranks accepts the request, what the store answers and whether
scoring raises is left open.
-/

namespace DistributedInference.CustomRouting

open Sorting Python Transition

/-- The router, the replicas, and the history of both. -/
structure Fleet (ReplicaID : Type) where
  router : UserAffinityRouter
  replicas : ReplicaID → Replica
  /-- Where each user's requests landed, in order. -/
  routed : List (String × ReplicaID) := []
  /-- The stretches that ran, in order. -/
  log : List (ReplicaID × Event) := []

/-- What can happen next. -/
inductive Action (ReplicaID : Type) where
  /-- `request` is routed.  The router sees `candidates`, of which `available` have
  room, and the request is accepted by `landed`. -/
  | route (request : RankRequest)
      (candidates available : List (RunningReplica ReplicaID)) (landed : ReplicaID)
  /-- A call on a replica runs its first stretch. -/
  | enter (replica : ReplicaID) (call : Nat) (raises : Bool)
  /-- The store answers a call on a replica, which runs its second stretch. -/
  | resume (replica : ReplicaID) (call : Nat) (fetched raises : Bool)

namespace Fleet

variable {ReplicaID : Type} [DecidableEq ReplicaID] [ToString ReplicaID]

/-- A fleet that has not served any request. -/
def initial (imbalanceThreshold : ℤ) (itemEmb : Fin numItems → Features)
    (store : FeatureStore) (uniqueId : ReplicaID → String) : Fleet ReplicaID where
  router := .initializeState imbalanceThreshold
  replicas id := { ranker := .init itemEmb store (uniqueId id) }

/-- `choose_replicas` for the call `ranker.rank.remote(request)`. -/
def chooseReplicas (fleet : Fleet ReplicaID) (request : RankRequest)
    (candidates available : List (RunningReplica ReplicaID)) :
    Except RoutingError (List (List (RunningReplica ReplicaID))) :=
  fleet.router.chooseReplicas (fun _ => available) candidates
    (some (.ofUser request.userId))

/-- A replica after a stretch of one of its calls. -/
def observe (fleet : Fleet ReplicaID) (id : ReplicaID) (stretch : Replica × Event) :
    Fleet ReplicaID :=
  { fleet with
    replicas := Function.update fleet.replicas id stretch.1
    log := fleet.log ++ [(id, stretch.2)] }

def step (fleet : Fleet ReplicaID) : Action ReplicaID → Option (Fleet ReplicaID)
  | .route request candidates available landed =>
      match fleet.chooseReplicas request candidates available with
      | .error _ => none
      | .ok ranks =>
          if landed ∈ ranks.flatten.map RunningReplica.replicaId then
            some { fleet with
              router := fleet.router.onRequestRouted (.ofUser request.userId) landed
              replicas := Function.update fleet.replicas landed
                ((fleet.replicas landed).accept request)
              routed := fleet.routed ++ [(request.userId, landed)] }
          else none
  | .enter id call raises =>
      ((fleet.replicas id).enter call raises).map (fleet.observe id)
  | .resume id call fetched raises =>
      ((fleet.replicas id).resume call fetched raises).map (fleet.observe id)

/-- The steps of a fleet. -/
inductive Moves (fleet : Fleet ReplicaID) : Action ReplicaID → Fleet ReplicaID → Prop
  | route {request : RankRequest}
      {candidates available : List (RunningReplica ReplicaID)}
      {landed : ReplicaID} {ranks : List (List (RunningReplica ReplicaID))} :
      fleet.chooseReplicas request candidates available = .ok ranks →
      landed ∈ ranks.flatten.map RunningReplica.replicaId →
      Moves fleet (.route request candidates available landed)
        { fleet with
          router := fleet.router.onRequestRouted (.ofUser request.userId) landed
          replicas := Function.update fleet.replicas landed
            ((fleet.replicas landed).accept request)
          routed := fleet.routed ++ [(request.userId, landed)] }
  | enter {id : ReplicaID} {call : Nat} {raises : Bool} {stretch : Replica × Event} :
      (fleet.replicas id).enter call raises = some stretch →
      Moves fleet (.enter id call raises) (fleet.observe id stretch)
  | resume {id : ReplicaID} {call : Nat} {fetched raises : Bool}
      {stretch : Replica × Event} :
      (fleet.replicas id).resume call fetched raises = some stretch →
      Moves fleet (.resume id call fetched raises) (fleet.observe id stretch)

theorem moves_of_step {state next : Fleet ReplicaID} {action : Action ReplicaID}
    (taken : state.step action = some next) : state.Moves action next := by
  cases action with
  | route request candidates available landed =>
      simp only [step] at taken
      split at taken
      next => contradiction
      next ranks chosen =>
        split at taken
        next member =>
          cases taken
          exact .route chosen member
        next => contradiction
  | enter id call raises =>
      rcases Option.map_eq_some_iff.mp taken with ⟨stretch, entered, rfl⟩
      exact .enter entered
  | resume id call fetched raises =>
      rcases Option.map_eq_some_iff.mp taken with ⟨stretch, resumed, rfl⟩
      exact .resume resumed

end Fleet

/-- The fleet of one deployment. -/
def fleet {ReplicaID : Type} [DecidableEq ReplicaID] [ToString ReplicaID]
    (imbalanceThreshold : ℤ) (itemEmb : Fin numItems → Features)
    (store : FeatureStore) (uniqueId : ReplicaID → String) :
    System (Fleet ReplicaID) (Action ReplicaID) :=
  .ofFunction (.initial imbalanceThreshold itemEmb store uniqueId) Fleet.step

end DistributedInference.CustomRouting
