import DistributedInference.CustomRouting.Ranks

/-!
# Affinity when other replicas are full

The affine replica is selected by the remainder of a checksum modulo the number
of available replicas.  A replica that fills up leaves that list, which changes
the modulus and the positions of the replicas after it, so a user keeps a replica
only if the two changes cancel out.
-/

namespace DistributedInference.CustomRouting

open Sorting Python

variable {ReplicaID : Type} [ToString ReplicaID] [DecidableEq ReplicaID]
variable {userId : PyString} {bytes : List UInt8}
variable {candidates current available : List (RunningReplica ReplicaID)}
variable {home preferred least : RunningReplica ReplicaID}
variable {router : UserAffinityRouter}
variable {select : List (RunningReplica ReplicaID) → List (RunningReplica ReplicaID)}
variable {pending : Option PendingRequest}

/-- The full replicas in front of `preferred` in the order of the id strings. -/
def fullBefore (candidates available : List (RunningReplica ReplicaID))
    (preferred : RunningReplica ReplicaID) : Nat :=
  rankOf RunningReplica.idString (candidates.filter (· ∉ available)) preferred

/-! ## The position after filtering -/

omit [DecidableEq ReplicaID] in
/-- The reports of the replicas do not move their positions. -/
theorem rankOf_idString_congr
    (sameReplicas : current.map RunningReplica.replicaId =
      candidates.map RunningReplica.replicaId)
    (isHome : preferred.replicaId = home.replicaId) :
    rankOf RunningReplica.idString current preferred =
      rankOf RunningReplica.idString candidates home := by
  have strings : current.map RunningReplica.idString =
      candidates.map RunningReplica.idString := by
    have mapped := congrArg (List.map (toString : ReplicaID → String)) sameReplicas
    rwa [List.map_map, List.map_map] at mapped
  have string : preferred.idString = home.idString := congrArg toString isHome
  rw [rankOf_eq_countP_map, rankOf_eq_countP_map, strings, string]

/-- The replica that a user has among all candidates is at the user's position
among the available ones exactly if the smaller modulus makes up for the full
replicas in front of it. -/
theorem affinePosition_filtered_iff
    (injective : Function.Injective (toString : ReplicaID → String))
    (distinct : (candidates.map RunningReplica.replicaId).Nodup)
    (sameReplicas : current.map RunningReplica.replicaId =
      candidates.map RunningReplica.replicaId)
    (filtered : available.Sublist current)
    (atHome : affinePosition bytes candidates = some home)
    (isHome : preferred.replicaId = home.replicaId)
    (free : preferred ∈ available) :
    affinePosition bytes available = some preferred ↔
      crc32 bytes % available.length + fullBefore current available preferred =
        crc32 bytes % candidates.length := by
  have currentDistinct : (current.map RunningReplica.replicaId).Nodup :=
    sameReplicas ▸ distinct
  have availableDistinct : (available.map RunningReplica.replicaId).Nodup :=
    (filtered.map _).nodup currentDistinct
  have before := (affinePosition_eq_some_iff
    (nodup_idString injective distinct)).mp atHome
  have moved : rankOf RunningReplica.idString current preferred = _ :=
    rankOf_sublist (nodup_of_ids currentDistinct) filtered preferred
  rw [rankOf_idString_congr sameReplicas isHome, before.2] at moved
  rw [affinePosition_eq_some_iff (nodup_idString injective availableDistinct),
    and_iff_right free, moved, fullBefore]
  omega

/-! ## Rank zero -/

omit [ToString ReplicaID] in
theorem affineRanks_eq_cons (preferred : RunningReplica ReplicaID)
    (available : List (RunningReplica ReplicaID)) :
    ∃ fallbacks, affineRanks preferred available = [preferred] :: fallbacks := by
  simp only [affineRanks]
  split
  · exact ⟨[], rfl⟩
  · exact ⟨_, rfl⟩

/-- A user id that encodes is ranked, with one replica in rank zero. -/
theorem exists_ranks_of_encode (nonempty : select candidates ≠ [])
    (keyed : pending.bind PendingRequest.userId? = some userId)
    (encoded : userId.encode = some bytes) :
    ∃ first fallbacks, router.chooseReplicas select candidates pending =
      .ok ([first] :: fallbacks) := by
  rcases exists_affinePosition bytes nonempty with ⟨affine, chosen⟩
  rcases exists_leastLoaded nonempty with ⟨least, minimal⟩
  simp only [chooseReplicas_keyed_iff nonempty keyed]
  by_cases balanced :
      Balanced router.imbalanceThreshold (select candidates) affine
  · rcases affineRanks_eq_cons affine (select candidates) with ⟨fallbacks, ranks⟩
    exact ⟨affine, fallbacks, bytes, affine, encoded, chosen,
      (if_pos balanced).mpr ranks.symm⟩
  · exact ⟨least, [], bytes, affine, encoded, chosen,
      (if_neg balanced).mpr ⟨least, minimal, rfl⟩⟩

/-- A call that returns ranks for a user has a replica in rank zero. -/
theorem rankZero_of_chooseReplicas {rankZero : List (RunningReplica ReplicaID)}
    {fallbacks : List (List (RunningReplica ReplicaID))}
    (keyed : pending.bind PendingRequest.userId? = some userId)
    (computed : router.chooseReplicas select candidates pending =
      .ok (rankZero :: fallbacks)) :
    ∃ affine, affineReplica userId (select candidates) = .ok affine ∧
      if Balanced router.imbalanceThreshold (select candidates) affine then
        rankZero = [affine]
      else ∃ least ∈ (select candidates).argmin RunningReplica.load,
        rankZero = [least] := by
  have nonempty : select candidates ≠ [] := by
    intro empty
    simp only [UserAffinityRouter.chooseReplicas, empty, List.isEmpty_nil,
      if_true] at computed
    cases computed
  rcases (chooseReplicas_keyed_iff nonempty keyed).mp computed with
    ⟨bytes, affine, encoded, chosen, ranked⟩
  refine ⟨affine, affineReplica_eq_ok_iff.mpr ⟨bytes, encoded, chosen⟩, ?_⟩
  split at ranked
  next balanced =>
    rcases affineRanks_eq_cons affine (select candidates) with ⟨lower, ranks⟩
    rw [if_pos balanced]
    exact List.head_eq_of_cons_eq (ranked.trans ranks)
  next unbalanced =>
    rcases ranked with ⟨least, minimal, same⟩
    rw [if_neg unbalanced]
    exact ⟨least, minimal, List.head_eq_of_cons_eq same⟩

/-- Rank zero is the affine replica, or the least loaded one where the affine
replica carries too much. -/
theorem rankZero_iff (nonempty : select current ≠ [])
    (encoded : userId.encode = some bytes)
    (keyed : pending.bind PendingRequest.userId? = some userId) :
    (∃ fallbacks, router.chooseReplicas select current pending =
        .ok ([preferred] :: fallbacks)) ↔
      ∃ affine, affinePosition bytes (select current) = some affine ∧
        if Balanced router.imbalanceThreshold (select current) affine then
          affine = preferred
        else preferred ∈ (select current).argmin RunningReplica.load := by
  constructor
  · intro first
    rcases first with ⟨fallbacks, computed⟩
    rcases (chooseReplicas_keyed_iff nonempty keyed).mp computed with
      ⟨_, affine, same, chosen, ranked⟩
    cases encoded.symm.trans same
    refine ⟨affine, chosen, ?_⟩
    by_cases balanced : Balanced router.imbalanceThreshold (select current) affine
    · rw [if_pos balanced] at ranked ⊢
      rcases affineRanks_eq_cons affine (select current) with ⟨others, ranks⟩
      rw [ranks] at ranked
      cases ranked
      rfl
    · rw [if_neg balanced] at ranked ⊢
      rcases ranked with ⟨least, minimal, same⟩
      cases same
      exact minimal
  · intro placed
    rcases placed with ⟨affine, chosen, placed⟩
    simp only [chooseReplicas_keyed_iff nonempty keyed]
    by_cases balanced : Balanced router.imbalanceThreshold (select current) affine
    · cases (if_pos balanced).mp placed
      rcases affineRanks_eq_cons preferred (select current) with ⟨fallbacks, ranks⟩
      exact ⟨fallbacks, bytes, preferred, encoded, chosen,
        (if_pos balanced).mpr ranks.symm⟩
    · exact ⟨[], bytes, affine, encoded, chosen,
        (if_neg balanced).mpr ⟨preferred, (if_neg balanced).mp placed, rfl⟩⟩

/-- While other replicas are full, a user whose replica has room and is not too
far above the others is sent there exactly if the full replicas leave its
position in place, or if the replica at its new position carries too much and the
user's own replica is the least loaded one. -/
theorem staysHome_iff
    (injective : Function.Injective (toString : ReplicaID → String))
    (distinct : (candidates.map RunningReplica.replicaId).Nodup)
    (sameReplicas : current.map RunningReplica.replicaId =
      candidates.map RunningReplica.replicaId)
    (filtered : (select current).Sublist current)
    (encoded : userId.encode = some bytes)
    (keyed : pending.bind PendingRequest.userId? = some userId)
    (atHome : affineReplica userId candidates = .ok home)
    (isHome : preferred.replicaId = home.replicaId)
    (free : preferred ∈ select current)
    (balanced : Balanced router.imbalanceThreshold (select current) preferred) :
    (∃ fallbacks, router.chooseReplicas select current pending =
        .ok ([preferred] :: fallbacks)) ↔
      crc32 bytes % (select current).length +
          fullBefore current (select current) preferred =
        crc32 bytes % candidates.length ∨
      (preferred ∈ (select current).argmin RunningReplica.load ∧
        ∀ affine, affinePosition bytes (select current) = some affine →
          ¬ Balanced router.imbalanceThreshold (select current) affine) := by
  have nonempty : select current ≠ [] := List.ne_nil_of_mem free
  rcases exists_affinePosition bytes nonempty with ⟨affine, chosen⟩
  have placed := (affineReplica_iff_of_encode encoded).mp atHome
  rw [rankZero_iff nonempty encoded keyed, ← affinePosition_filtered_iff injective
    distinct sameReplicas filtered placed isHome free]
  simp only [chosen, Option.some.injEq, exists_eq_left', forall_eq']
  by_cases affineBalanced :
      Balanced router.imbalanceThreshold (select current) affine
  · simp [affineBalanced]
  · -- An affine replica that is too far above the others is not `preferred`.
    have moved : affine ≠ preferred := fun same => affineBalanced (same ▸ balanced)
    simp [affineBalanced, moved]

/-- Three idle replicas. -/
def trio : List (RunningReplica String) :=
  [reporting "r0" 0, reporting "r1" 0, reporting "r2" 0]

/-- User `alice` has `r2`, and keeps it while `r0` is full. -/
theorem staysHome_iff_alice :
    ∃ fallbacks, ({} : UserAffinityRouter).chooseReplicas
      (·.filter (·.replicaId ≠ "r0")) trio (some (.ofUser "alice")) =
        .ok ([reporting "r2" 0] :: fallbacks) := by
  apply (staysHome_iff (fun _ _ => id) (by decide) rfl List.filter_sublist
    (PyString.encode_ofString "alice") rfl
    (show affineReplica _ trio = .ok (reporting "r2" 0) by decide +kernel) rfl
    (by decide +kernel) (by decide +kernel)).mpr
  exact .inl (by decide +kernel)

/-- User `a` has `r0` of three idle replicas.  When `r2` fills up the modulus
becomes two, and `a` is sent to `r1` although `r0` has room. -/
theorem idleHome_left :
    affineReplica (.ofString "a") trio = .ok (reporting "r0" 0) ∧
    reporting "r0" 0 ∈ trio.filter (·.replicaId ≠ "r2") ∧
    Balanced ({} : UserAffinityRouter).imbalanceThreshold
      (trio.filter (·.replicaId ≠ "r2")) (reporting "r0" 0) ∧
    ({} : UserAffinityRouter).chooseReplicas (·.filter (·.replicaId ≠ "r2")) trio
        (some (.ofUser "a")) = .ok [[reporting "r1" 0], [reporting "r0" 0]] ∧
    ¬ ∃ fallbacks, ({} : UserAffinityRouter).chooseReplicas
      (·.filter (·.replicaId ≠ "r2")) trio (some (.ofUser "a")) =
        .ok ([reporting "r0" 0] :: fallbacks) := by
  have computed : ({} : UserAffinityRouter).chooseReplicas
      (·.filter (·.replicaId ≠ "r2")) trio (some (.ofUser "a")) =
        .ok [[reporting "r1" 0], [reporting "r0" 0]] := by decide +kernel
  refine ⟨by decide +kernel, by decide +kernel, by decide +kernel, computed, ?_⟩
  intro stays
  rcases stays with ⟨fallbacks, returned⟩
  have same := Except.ok.inj (computed.symm.trans returned)
  have first := List.head_eq_of_cons_eq same
  revert first
  decide

end DistributedInference.CustomRouting
