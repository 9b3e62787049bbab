import DistributedInference.CustomRouting.Affinity

/-!
# Payloads that cannot be keyed by user

`_user_id` looks for a string and returns `None` for anything else, so that an
unexpected payload routes on load.  A lookup that raises something else than
`AttributeError` leaves it, and a string with a lone surrogate is found there and
cannot be encoded afterwards.
-/

namespace DistributedInference.CustomRouting

open Python

variable {ReplicaID : Type} [ToString ReplicaID] [DecidableEq ReplicaID]
variable {router : UserAffinityRouter}
variable {select : List (RunningReplica ReplicaID) → List (RunningReplica ReplicaID)}
variable {candidates : List (RunningReplica ReplicaID)}
variable {pending : Option PendingRequest} {userId : PyString}

/-- The request carries no user id that has a checksum. -/
def Unkeyable (pending : Option PendingRequest) : Prop :=
  ∀ userId, pending.bind PendingRequest.userId? = some userId → userId.encode = none

/-- `choose_replicas` returns ranks, and one rank with every available replica for a
request that cannot be keyed by user. -/
def Degrades (router : UserAffinityRouter)
    (select : List (RunningReplica ReplicaID) → List (RunningReplica ReplicaID))
    (candidates : List (RunningReplica ReplicaID))
    (pending : Option PendingRequest) : Prop :=
  (∃ ranks, router.chooseReplicas select candidates pending = .ok ranks) ∧
    (Unkeyable pending →
      router.chooseReplicas select candidates pending = .ok [select candidates])

/-- A user id that does not encode is not ranked at all. -/
theorem chooseReplicas_of_encode_none (nonempty : select candidates ≠ [])
    (keyed : pending.bind PendingRequest.userId? = some userId)
    (fails : userId.encode = none) :
    router.chooseReplicas select candidates pending = .error .unicodeEncodeError := by
  rw [chooseReplicas_keyed nonempty keyed]
  simp only [affineReplica, fails]
  rfl

/-- The router degrades exactly on the requests whose lookups return and whose user
id, if they carry one, has no lone surrogate. -/
theorem degrades_iff (nonempty : select candidates ≠ []) :
    Degrades router select candidates pending ↔
      (∀ request ∈ pending, request.LookupsReturn) ∧
      ∀ userId, pending.bind PendingRequest.userId? = some userId →
        ∀ codePoint ∈ userId.codePoints, ¬ IsSurrogate codePoint := by
  constructor
  · intro degrades
    rcases degrades.1 with ⟨ranks, computed⟩
    refine ⟨lookupsReturn_of_chooseReplicas nonempty computed, ?_⟩
    intro userId keyed
    rw [← PyString.isSome_encode_iff]
    cases encoded : userId.encode with
    | none =>
        rw [chooseReplicas_of_encode_none nonempty keyed encoded] at computed
        cases computed
    | some bytes => rfl
  · intro condition
    rcases condition with ⟨returns, encodes⟩
    rcases exists_userIdOf_iff.mpr returns with ⟨found, read⟩
    cases found with
    | none =>
        have onLoad : router.chooseReplicas select candidates pending =
            .ok [select candidates] :=
          (Choice.unkeyed nonempty read).chooseReplicas_eq
        exact ⟨⟨_, onLoad⟩, fun _ => onLoad⟩
    | some userId =>
        have keyed := keyed_of_userIdOf read
        have encodable := PyString.isSome_encode_iff.mpr (encodes userId keyed)
        rcases Option.isSome_iff_exists.mp encodable with ⟨bytes, encoded⟩
        rcases exists_ranks_of_encode nonempty keyed encoded with
          ⟨first, fallbacks, computed⟩
        refine ⟨⟨_, computed⟩, ?_⟩
        intro unkeyable
        cases encoded.symm.trans (unkeyable userId keyed)

/-- A request that carries a dictionary with this entry for its user id. -/
def dictionaryRequest (userId : Value) : PendingRequest where
  args := [.object [] (some [("user_id", some userId)])]
  kwargs := []

theorem degrades_iff_list :
    Degrades ({} : UserAffinityRouter) id [reporting "r0" 0]
      (some (dictionaryRequest (.object [] none))) := by
  apply (degrades_iff (by decide)).mpr
  refine ⟨exists_userIdOf_iff.mp ⟨none, rfl⟩, ?_⟩
  intro userId keyed
  cases keyed

/-- The string `"\ud800"`. -/
def loneSurrogate : PyString := ⟨[0xD800]⟩

/-- The user id is a string with a lone surrogate, and the router raises. -/
theorem loneSurrogate_raises :
    ({} : UserAffinityRouter).chooseReplicas id [reporting "r0" 0]
        (some (dictionaryRequest (.text loneSurrogate))) =
      .error .unicodeEncodeError ∧
    ¬ Degrades ({} : UserAffinityRouter) id [reporting "r0" 0]
      (some (dictionaryRequest (.text loneSurrogate))) := by
  have raised : ({} : UserAffinityRouter).chooseReplicas id [reporting "r0" 0]
      (some (dictionaryRequest (.text loneSurrogate))) =
        .error .unicodeEncodeError :=
    chooseReplicas_of_encode_none (by decide) rfl (by decide)
  refine ⟨raised, ?_⟩
  intro degrades
  rcases degrades.1 with ⟨ranks, computed⟩
  cases raised.symm.trans computed

-- An object whose property `user_id` raises.
example : ({} : UserAffinityRouter).chooseReplicas id [reporting "r0" 0]
    (some ⟨[.object [("user_id", none)] none], []⟩) = .error .payloadError := rfl

end DistributedInference.CustomRouting
