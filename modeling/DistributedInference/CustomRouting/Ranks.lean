import DistributedInference.CustomRouting.Choice

/-!
# Which replicas the ranks contain

Serve tries the ranks in order, so a replica that is in no rank is never tried.
The ranks are complete unless the affine replica carries too much: then the
least loaded replica is returned alone.
-/

namespace DistributedInference.CustomRouting

open Sorting Python

variable {ReplicaID : Type}
variable {available : List (RunningReplica ReplicaID)}
variable {preferred replica least : RunningReplica ReplicaID}

theorem nodup_of_ids (distinct : (available.map RunningReplica.replicaId).Nodup) :
    available.Nodup :=
  distinct.of_map _

/-- Distinct ids identify the available replicas. -/
theorem eq_of_replicaId_eq
    (distinct : (available.map RunningReplica.replicaId).Nodup)
    (member : replica ∈ available) (other : preferred ∈ available)
    (same : replica.replicaId = preferred.replicaId) : replica = preferred :=
  List.inj_on_of_nodup_map distinct member other same

variable [DecidableEq ReplicaID]

/-- The ranks hold every available replica once and no other one, none of them is
empty, and there is no rank only if nothing is available. -/
structure LosesNoReplica (available : List (RunningReplica ReplicaID))
    (ranks : List (List (RunningReplica ReplicaID))) : Prop where
  once : ∀ replica ∈ available, ranks.flatten.count replica = 1
  onlyAvailable : ∀ replica ∈ ranks.flatten, replica ∈ available
  noEmptyRank : [] ∉ ranks
  emptyOnlyIf : ranks = [] → available = []

/-! ## The ranks of each outcome -/

/-- One rank with all available replicas is complete. -/
theorem losesNoReplica_singleRank (nonempty : available ≠ [])
    (distinct : (available.map RunningReplica.replicaId).Nodup) :
    LosesNoReplica available [available] where
  once replica member := by
    rw [List.flatten_singleton]
    exact List.count_eq_one_of_mem (nodup_of_ids distinct) member
  onlyAvailable replica member := by
    rwa [List.flatten_singleton] at member
  noEmptyRank empty := nonempty (List.mem_singleton.mp empty).symm
  emptyOnlyIf absurdly := absurd absurdly (List.cons_ne_nil _ _)

theorem flatten_affineRanks :
    (affineRanks preferred available).flatten =
      preferred :: available.filter (·.replicaId ≠ preferred.replicaId) := by
  simp only [affineRanks]
  split
  next noFallback =>
    rw [List.isEmpty_iff.mp noFallback]
    rfl
  next => simp

/-- The preferred replica and its fallbacks are complete. -/
theorem losesNoReplica_affineRanks (member : preferred ∈ available)
    (distinct : (available.map RunningReplica.replicaId).Nodup) :
    LosesNoReplica available (affineRanks preferred available) where
  once replica found := by
    rw [flatten_affineRanks]
    by_cases same : replica = preferred
    · subst same
      have notAgain : replica ∉
          available.filter (·.replicaId ≠ replica.replicaId) := by simp
      rw [List.count_cons_self, List.count_eq_zero_of_not_mem notAgain]
    · have differs : replica.replicaId ≠ preferred.replicaId := fun sameId =>
        same (eq_of_replicaId_eq distinct found member sameId)
      rw [List.count_cons_of_ne (Ne.symm same),
        List.count_filter (by simpa using differs)]
      exact List.count_eq_one_of_mem (nodup_of_ids distinct) found
  onlyAvailable replica found := by
    rw [flatten_affineRanks] at found
    rcases List.mem_cons.mp found with same | fallback
    · exact same ▸ member
    · exact List.mem_of_mem_filter fallback
  noEmptyRank empty := by
    simp only [affineRanks] at empty
    split at empty
    next => simp at empty
    next hasFallback =>
      have noFallback :
          available.filter (·.replicaId ≠ preferred.replicaId) = [] := by
        simpa using empty
      exact hasFallback (List.isEmpty_iff.mpr noFallback)
  emptyOnlyIf noRank := by
    have flat : (affineRanks preferred available).flatten = _ := flatten_affineRanks
    rw [noRank] at flat
    cases flat

/-- The least loaded replica alone is complete only if there is no other. -/
theorem losesNoReplica_dropped_iff (member : least ∈ available)
    (distinct : (available.map RunningReplica.replicaId).Nodup) :
    LosesNoReplica available [[least]] ↔ available.length = 1 := by
  constructor
  · intro complete
    have alone : ∀ replica ∈ available, replica = least := by
      intro replica found
      have counted := complete.once replica found
      have listed : replica ∈ [[least]].flatten :=
        List.count_pos_iff.mp (by omega)
      simpa using listed
    have same := List.eq_replicate_of_mem alone
    have once := List.count_eq_one_of_mem (nodup_of_ids distinct) member
    rw [same, List.count_replicate_self] at once
    exact once
  · intro single
    rcases List.length_eq_one_iff.mp single with ⟨only, rfl⟩
    cases List.mem_singleton.mp member
    exact losesNoReplica_singleRank (List.cons_ne_nil _ _) distinct

/-! ## Complete ranks -/

variable [ToString ReplicaID] {router : UserAffinityRouter}
variable {select : List (RunningReplica ReplicaID) → List (RunningReplica ReplicaID)}
variable {candidates : List (RunningReplica ReplicaID)}
variable {pending : Option PendingRequest}

/-- `choose_replicas` returns complete ranks exactly if the lookups in the request
return and find no user id, or one that encodes and whose affine replica is alone or
not too far above the others. -/
theorem losesNoReplica_iff (nonempty : select candidates ≠ [])
    (distinct : ((select candidates).map RunningReplica.replicaId).Nodup) :
    (∃ ranks, router.chooseReplicas select candidates pending = .ok ranks ∧
      LosesNoReplica (select candidates) ranks) ↔
    (∀ request ∈ pending, request.LookupsReturn) ∧
    ∀ userId, pending.bind PendingRequest.userId? = some userId →
      ∃ bytes, userId.encode = some bytes ∧
        ((select candidates).length = 1 ∨
          ∀ preferred, affinePosition bytes (select candidates) = some preferred →
            Balanced router.imbalanceThreshold (select candidates) preferred) := by
  constructor
  · intro complete
    rcases complete with ⟨ranks, computed, complete⟩
    refine ⟨lookupsReturn_of_chooseReplicas nonempty computed, ?_⟩
    intro userId keyed
    rcases (chooseReplicas_keyed_iff nonempty keyed).mp computed with
      ⟨bytes, affine, encoded, chosen, ranked⟩
    refine ⟨bytes, encoded, ?_⟩
    by_cases balanced :
        Balanced router.imbalanceThreshold (select candidates) affine
    · right
      intro preferred selected
      cases chosen.symm.trans selected
      exact balanced
    · left
      rcases (if_neg balanced).mp ranked with ⟨least, minimal, same⟩
      rw [same] at complete
      exact (losesNoReplica_dropped_iff (List.argmin_mem minimal) distinct).mp complete
  · intro condition
    rcases condition with ⟨returns, condition⟩
    rcases exists_userIdOf_iff.mpr returns with ⟨found, read⟩
    cases found with
    | none =>
        exact ⟨_, (Choice.unkeyed nonempty read).chooseReplicas_eq,
          losesNoReplica_singleRank nonempty distinct⟩
    | some userId =>
        have keyed := keyed_of_userIdOf read
        rcases condition userId keyed with ⟨bytes, encoded, harmless⟩
        rcases exists_affinePosition bytes nonempty with ⟨preferred, chosen⟩
        simp only [chooseReplicas_keyed_iff nonempty keyed]
        by_cases balanced :
            Balanced router.imbalanceThreshold (select candidates) preferred
        · exact ⟨_, ⟨bytes, preferred, encoded, chosen, (if_pos balanced).mpr rfl⟩,
            losesNoReplica_affineRanks (mem_of_affinePosition chosen) distinct⟩
        · have single : (select candidates).length = 1 :=
            harmless.resolve_right fun always => balanced (always preferred chosen)
          rcases exists_leastLoaded nonempty with ⟨least, minimal⟩
          have complete := (losesNoReplica_dropped_iff (List.argmin_mem minimal)
            distinct).mpr single
          exact ⟨_, ⟨bytes, preferred, encoded, chosen,
            (if_neg balanced).mpr ⟨least, minimal, rfl⟩⟩, complete⟩

/-- A replica that reports a number of ongoing requests. -/
def reporting (name : String) (ongoing : ℚ) : RunningReplica String where
  replicaId := name
  routingStats := [("ongoing_requests", ongoing)]

theorem losesNoReplica_iff_idle :
    ∃ ranks, ({} : UserAffinityRouter).chooseReplicas id
        [reporting "r0" 0, reporting "r1" 0] (some (.ofUser "c")) = .ok ranks ∧
      LosesNoReplica [reporting "r0" 0, reporting "r1" 0] ranks := by
  have returns : ∀ request ∈ some (PendingRequest.ofUser "c"),
      request.LookupsReturn := exists_userIdOf_iff.mp ⟨_, rfl⟩
  apply (losesNoReplica_iff (by decide) (by decide)).mpr ⟨returns, ?_⟩
  intro userId keyed
  cases keyed
  refine ⟨_, PyString.encode_ofString _, .inr ?_⟩
  have affine : affinePosition (utf8 "c") [reporting "r0" 0, reporting "r1" 0] =
      some (reporting "r1" 0) := by decide +kernel
  intro preferred chosen
  cases affine.symm.trans chosen
  decide +kernel

/-- The affine replica of user `c` is `r1`.  It carries 12 requests more than
`r0`, so `r0` is returned alone and `r1` is in no rank. -/
theorem hotReplica_lost :
    ({} : UserAffinityRouter).chooseReplicas id
        [reporting "r0" 0, reporting "r1" 12] (some (.ofUser "c")) =
      .ok [[reporting "r0" 0]] ∧
    ¬ ∃ ranks, ({} : UserAffinityRouter).chooseReplicas id
        [reporting "r0" 0, reporting "r1" 12] (some (.ofUser "c")) = .ok ranks ∧
      LosesNoReplica [reporting "r0" 0, reporting "r1" 12] ranks := by
  have computed : ({} : UserAffinityRouter).chooseReplicas id
      [reporting "r0" 0, reporting "r1" 12] (some (.ofUser "c")) =
        .ok [[reporting "r0" 0]] := by decide +kernel
  refine ⟨computed, ?_⟩
  intro complete
  rcases complete with ⟨ranks, returned, complete⟩
  cases computed.symm.trans returned
  have lost := complete.once (reporting "r1" 12) (by decide)
  revert lost
  decide

end DistributedInference.CustomRouting
