import DistributedInference.Sorting.SortedBy
import DistributedInference.Python.Text
import Mathlib.Data.Finset.Insert
import Mathlib.Data.List.AList
import Mathlib.Data.List.MinMax
import Mathlib.Data.Rat.Defs
import Mathlib.Algebra.Order.Ring.Rat
import Mathlib.Data.String.Basic

/-!
# The user affinity router

`UserAffinityRouter` sends the requests of one user to one replica, unless that
replica carries too many more requests than the least loaded one.

The type of replica ids belongs to Ray; its `__str__` is the `ToString` instance.
`select_available_replicas` belongs to Ray as well and is a parameter of
`chooseReplicas`.
-/

namespace DistributedInference.CustomRouting

open Sorting Python

/-- The exceptions that can leave `choose_replicas`. -/
inductive RoutingError where
  /-- A property or a `get` of the payload raised, and `getattr` with a default
  swallows `AttributeError` only. -/
  | payloadError
  /-- `user_id.encode("utf-8")` met a lone surrogate. -/
  | unicodeEncodeError
  /-- `% len(ordered)` of an empty list. -/
  | zeroDivisionError
  /-- The index was out of range. -/
  | indexError
  /-- `min` of an empty list. -/
  | valueError
  deriving DecidableEq, Repr

/-- A Python value, as far as the router looks into it. -/
inductive Value where
  | text (value : PyString)
  /-- Any other object: its attributes, and its entries if it is a `dict`.  `none`
  stands where the lookup raises; an attribute whose lookup raises `AttributeError`
  is not listed. -/
  | object (attributes : List (String × Option Value))
      (entries : Option (List (String × Option Value)))

namespace Value

/-- What a lookup returns: nothing, what it found, or an exception. -/
def found : Option (Option Value) → Except RoutingError (Option Value)
  | none => .ok none
  | some none => .error .payloadError
  | some (some value) => .ok (some value)

/-- `getattr(value, name, None)`. -/
def attribute? (value : Value) (name : String) : Except RoutingError (Option Value) :=
  match value with
  | .text _ => .ok none
  | .object attributes _ => found (attributes.lookup name)

/-- `value.get(key)` where `isinstance(value, dict)`; `value[key]` reads the same
entry. -/
def entry? (value : Value) (key : String) : Except RoutingError (Option Value) :=
  match value with
  | .text _ => .ok none
  | .object _ entries => found (entries.bind (·.lookup key))

/-- The string itself, where `isinstance(value, str)`. -/
def text? : Value → Option PyString
  | .text value => some value
  | .object _ _ => none

/-- One iteration of the loop of `_user_id`. -/
def userId (value : Value) : Except RoutingError (Option PyString) := do
  match (← value.attribute? "user_id").bind text? with
  | some userId => return some userId
  | none => return (← value.entry? "user_id").bind text?

end Value

/-- The arguments of a call that waits for a replica. -/
structure PendingRequest where
  args : List Value
  kwargs : List (String × Value)

namespace PendingRequest

/-- `list(pending_request.args) + list(pending_request.kwargs.values())`. -/
def values (pendingRequest : PendingRequest) : List Value :=
  pendingRequest.args ++ pendingRequest.kwargs.map Prod.snd

/-- `_user_id`. -/
def userId (pendingRequest : PendingRequest) : Except RoutingError (Option PyString) :=
  pendingRequest.values.findSomeM? Value.userId

/-- The user id that `_user_id` returns, if it returns one. -/
def userId? (pendingRequest : PendingRequest) : Option PyString :=
  match pendingRequest.userId with
  | .ok userId => userId
  | .error _ => none

/-- A call with one argument, an object whose attribute `user_id` is a string. -/
def ofUser (userId : String) : PendingRequest where
  args := [.object [("user_id", some (.text (.ofString userId)))] none]
  kwargs := []

@[simp] theorem userId?_ofUser (userId : String) :
    (ofUser userId).userId? = some (.ofString userId) := rfl

end PendingRequest

/-- `self._user_id(pending_request) if pending_request else None`. -/
def userIdOf : Option PendingRequest → Except RoutingError (Option PyString)
  | none => .ok none
  | some pendingRequest => pendingRequest.userId

/-- A replica as the router sees it. -/
structure RunningReplica (ReplicaID : Type) where
  replicaId : ReplicaID
  routingStats : List (String × ℚ)
  deriving DecidableEq

namespace RunningReplica

variable {ReplicaID : Type}

/-- `_load_of`. -/
def load (replica : RunningReplica ReplicaID) : ℚ :=
  (replica.routingStats.lookup "ongoing_requests").getD 0

/-- `str(r.replica_id)`. -/
def idString [ToString ReplicaID] (replica : RunningReplica ReplicaID) : String :=
  toString replica.replicaId

end RunningReplica

/-- The state of a router. -/
structure UserAffinityRouter where
  imbalanceThreshold : ℤ := 10
  /-- Where each user's requests landed, by `str(replica_id)`. -/
  replicasPerUser : AList fun _ : PyString => Finset String := ∅

section

variable {ReplicaID : Type} [ToString ReplicaID]

/-- `_affine_replica`. -/
def affineReplica (userId : PyString) (replicas : List (RunningReplica ReplicaID)) :
    Except RoutingError (RunningReplica ReplicaID) :=
  let ordered := sortedBy RunningReplica.idString replicas
  match userId.encode with
  | none => .error .unicodeEncodeError
  | some bytes =>
      if ordered.length = 0 then .error .zeroDivisionError
      else
        match ordered[crc32 bytes % ordered.length]? with
        | none => .error .indexError
        | some replica => .ok replica

/-- `min(available, key=self._load_of)`: the first of the least loaded. -/
def leastLoaded (available : List (RunningReplica ReplicaID)) :
    Except RoutingError (RunningReplica ReplicaID) :=
  match available.argmin RunningReplica.load with
  | none => .error .valueError
  | some replica => .ok replica

/-- The ranks when affinity is kept: the preferred replica, then the others. -/
def affineRanks [DecidableEq ReplicaID] (preferred : RunningReplica ReplicaID)
    (available : List (RunningReplica ReplicaID)) :
    List (List (RunningReplica ReplicaID)) :=
  let fallbacks := available.filter (·.replicaId ≠ preferred.replicaId)
  if fallbacks.isEmpty then [[preferred]] else [[preferred], fallbacks]

namespace UserAffinityRouter

/-- `initialize_state`. -/
def initializeState (imbalanceThreshold : ℤ := 10) : UserAffinityRouter where
  imbalanceThreshold := imbalanceThreshold
  replicasPerUser := ∅

/-- `choose_replicas`. -/
def chooseReplicas [DecidableEq ReplicaID] (router : UserAffinityRouter)
    (selectAvailableReplicas : List (RunningReplica ReplicaID) →
      List (RunningReplica ReplicaID))
    (candidateReplicas : List (RunningReplica ReplicaID))
    (pendingRequest : Option PendingRequest) :
    Except RoutingError (List (List (RunningReplica ReplicaID))) :=
  let available := selectAvailableReplicas candidateReplicas
  if available.isEmpty then .ok []
  else do
    match ← userIdOf pendingRequest with
    | none => return [available]
    | some userId =>
        let preferred ← affineReplica userId available
        let leastLoaded ← leastLoaded available
        -- Affinity loses when it would pile onto an already hot replica.
        if router.imbalanceThreshold ≤ preferred.load - leastLoaded.load then
          return [[leastLoaded]]
        else return affineRanks preferred available

/-- The router after `on_request_routed`.  A call whose `_user_id` raises has recorded
nothing. -/
def onRequestRouted (router : UserAffinityRouter) (pendingRequest : PendingRequest)
    (replicaId : ReplicaID) : UserAffinityRouter :=
  match pendingRequest.userId? with
  | none => router
  | some userId =>
      let landedOn := (router.replicasPerUser.lookup userId).getD ∅
      { router with
        replicasPerUser := router.replicasPerUser.insert userId
          (insert (toString replicaId) landedOn) }

end UserAffinityRouter

end

end DistributedInference.CustomRouting
