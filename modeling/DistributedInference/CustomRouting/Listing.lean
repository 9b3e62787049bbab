import DistributedInference.CustomRouting.Affinity

/-!
# The order in which replicas are listed

Two routers with the same threshold, for instance before and after a restart, see
the same replicas with the same reports, listed in different orders.  They agree on
whether affinity is dropped, on the affine replica and on the least load; which of
several least loaded replicas is returned depends on the listing.
-/

namespace DistributedInference.CustomRouting

open Sorting Python

variable {ReplicaID : Type}
variable {available relisted : List (RunningReplica ReplicaID)}
variable {preferred least : RunningReplica ReplicaID}

/-- Whether affinity is dropped: the comparison of `choose_replicas`. -/
def DropsAffinity [ToString ReplicaID] (threshold : ℤ) (userId : PyString)
    (available : List (RunningReplica ReplicaID)) : Prop :=
  ∃ preferred least, affineReplica userId available = .ok preferred ∧
    leastLoaded available = .ok least ∧ threshold ≤ preferred.load - least.load

/-- The least load of two listings of the same replicas. -/
theorem load_eq_of_perm {other : RunningReplica ReplicaID}
    (perm : available.Perm relisted)
    (minimal : least ∈ available.argmin RunningReplica.load)
    (otherMinimal : other ∈ relisted.argmin RunningReplica.load) :
    least.load = other.load := by
  apply le_antisymm
  · have listed := perm.mem_iff.mpr (List.argmin_mem otherMinimal)
    exact List.le_of_mem_argmin listed minimal
  · have relisted := perm.mem_iff.mp (List.argmin_mem minimal)
    exact List.le_of_mem_argmin relisted otherMinimal

section

variable [DecidableEq ReplicaID]

/-- The lower ranks are the other available replicas. -/
theorem exists_affineRanks (preferred : RunningReplica ReplicaID)
    (available : List (RunningReplica ReplicaID)) :
    ∃ fallbacks, affineRanks preferred available = [preferred] :: fallbacks ∧
      fallbacks.flatten =
        available.filter (·.replicaId ≠ preferred.replicaId) := by
  have flat := @flatten_affineRanks _ available preferred _
  rcases affineRanks_eq_cons preferred available with ⟨fallbacks, ranks⟩
  rw [ranks] at flat
  exact ⟨fallbacks, ranks, (List.cons.inj flat).2⟩

end

variable [ToString ReplicaID] {userId : PyString} {threshold : ℤ}

theorem dropsAffinity_iff (affine : affineReplica userId available = .ok preferred)
    (minimal : least ∈ available.argmin RunningReplica.load) :
    DropsAffinity threshold userId available ↔
      threshold ≤ preferred.load - least.load := by
  constructor
  · intro drops
    rcases drops with ⟨affine', least', chosen, smallest, above⟩
    cases affine.symm.trans chosen
    cases (leastLoaded_eq_ok_iff.mpr minimal).symm.trans smallest
    exact above
  · intro above
    exact ⟨preferred, least, affine, leastLoaded_eq_ok_iff.mpr minimal, above⟩

instance (threshold : ℤ) (userId : PyString)
    (available : List (RunningReplica ReplicaID)) :
    Decidable (DropsAffinity threshold userId available) :=
  match affine : affineReplica userId available, least : leastLoaded available with
  | .error _, _ => .isFalse (by
      intro drops
      rcases drops with ⟨preferred, _, chosen, _⟩
      cases affine.symm.trans chosen)
  | .ok _, .error _ => .isFalse (by
      intro drops
      rcases drops with ⟨_, smallest, _, chosen, _⟩
      cases least.symm.trans chosen)
  | .ok _, .ok _ => decidable_of_iff _
      (dropsAffinity_iff affine (leastLoaded_eq_ok_iff.mp least)).symm

variable [DecidableEq ReplicaID] {router restarted : UserAffinityRouter}
variable {select reselect :
  List (RunningReplica ReplicaID) → List (RunningReplica ReplicaID)}
variable {candidates recandidates : List (RunningReplica ReplicaID)}
variable {pending : Option PendingRequest}

theorem chooseReplicas_of_affine
    (keyed : pending.bind PendingRequest.userId? = some userId)
    (affine : affineReplica userId (select candidates) = .ok preferred)
    (minimal : least ∈ (select candidates).argmin RunningReplica.load) :
    router.chooseReplicas select candidates pending =
      .ok (if router.imbalanceThreshold ≤ preferred.load - least.load then [[least]]
        else affineRanks preferred (select candidates)) := by
  have nonempty := List.ne_nil_of_mem (List.argmin_mem minimal)
  rw [chooseReplicas_keyed nonempty keyed, affine, leastLoaded_eq_ok_iff.mpr minimal]
  exact (apply_ite Except.ok _ _ _).symm

theorem chooseReplicas_of_error {failure : RoutingError}
    (keyed : pending.bind PendingRequest.userId? = some userId)
    (nonempty : select candidates ≠ [])
    (failed : affineReplica userId (select candidates) = .error failure) :
    router.chooseReplicas select candidates pending = .error failure := by
  rw [chooseReplicas_keyed nonempty keyed, failed]
  rfl

/-- What two calls have in common if they make the same decision: both have nothing
to rank, raise the same exception, keep affinity with the same first choice and the
same fallbacks, or drop it for replicas of the same, minimal load. -/
structure SameDecision (threshold : ℤ) (userId : PyString)
    (available relisted : List (RunningReplica ReplicaID))
    (first second :
      Except RoutingError (List (List (RunningReplica ReplicaID)))) : Prop where
  drops_iff :
    DropsAffinity threshold userId available ↔ DropsAffinity threshold userId relisted
  raises_iff : ∀ failure, first = .error failure ↔ second = .error failure
  noneAvailable : available = [] → first = .ok [] ∧ second = .ok []
  kept : available ≠ [] → userId.encode.isSome = true →
    ¬ DropsAffinity threshold userId available →
    ∃ preferred fallbacks refallbacks, affineReplica userId available = .ok preferred ∧
      first = .ok ([preferred] :: fallbacks) ∧
      second = .ok ([preferred] :: refallbacks) ∧
      fallbacks.flatten = available.filter (·.replicaId ≠ preferred.replicaId) ∧
      fallbacks.flatten.Perm refallbacks.flatten
  dropped : DropsAffinity threshold userId available →
    ∃ least other, first = .ok [[least]] ∧ second = .ok [[other]] ∧
      least.load = other.load ∧ ∀ replica ∈ available, least.load ≤ replica.load

omit [DecidableEq ReplicaID] in
theorem affineReplica_ne_error {failure : RoutingError} (nonempty : available ≠ [])
    (encodes : userId.encode.isSome = true) :
    affineReplica userId available ≠ .error failure := by
  rcases Option.isSome_iff_exists.mp encodes with ⟨bytes, encoded⟩
  rcases exists_affinePosition bytes nonempty with ⟨preferred, chosen⟩
  rw [(affineReplica_iff_of_encode encoded).mpr chosen]
  intro failed
  cases failed

omit [DecidableEq ReplicaID] in
theorem not_dropsAffinity_of_error {failure : RoutingError}
    (failed : affineReplica userId available = .error failure) :
    ¬ DropsAffinity threshold userId available := by
  intro drops
  rcases drops with ⟨preferred, least, chosen, _⟩
  cases failed.symm.trans chosen

/-- With an affine replica, the two calls compare the same loads. -/
theorem sameDecision_of_affine
    (sameThreshold : restarted.imbalanceThreshold = router.imbalanceThreshold)
    (perm : (select candidates).Perm (reselect recandidates))
    (keyed : pending.bind PendingRequest.userId? = some userId)
    (affine : affineReplica userId (select candidates) = .ok preferred)
    (reaffine : affineReplica userId (reselect recandidates) = .ok preferred) :
    SameDecision router.imbalanceThreshold userId (select candidates)
      (reselect recandidates)
      (router.chooseReplicas select candidates pending)
      (restarted.chooseReplicas reselect recandidates pending) := by
  have nonempty := List.ne_nil_of_mem (mem_of_affineReplica affine)
  rcases exists_leastLoaded nonempty with ⟨least, minimal⟩
  rcases exists_leastLoaded (List.ne_nil_of_mem (mem_of_affineReplica reaffine)) with
    ⟨other, otherMinimal⟩
  have sameLoad := load_eq_of_perm perm minimal otherMinimal
  have drops : DropsAffinity router.imbalanceThreshold userId (select candidates) ↔ _ :=
    dropsAffinity_iff affine minimal
  have redrops :
      DropsAffinity router.imbalanceThreshold userId (reselect recandidates) ↔ _ :=
    dropsAffinity_iff reaffine otherMinimal
  rw [← sameLoad] at redrops
  rw [chooseReplicas_of_affine keyed affine minimal,
    chooseReplicas_of_affine keyed reaffine otherMinimal, sameThreshold, ← sameLoad]
  by_cases above : router.imbalanceThreshold ≤ preferred.load - least.load
  · rw [if_pos above, if_pos above]
    exact {
      drops_iff := drops.trans redrops.symm
      raises_iff := fun failure => by simp
      noneAvailable := fun empty => absurd empty nonempty
      kept := fun _ _ keeps => absurd (drops.mpr above) keeps
      dropped := fun _ => ⟨least, other, rfl, rfl, sameLoad,
        fun replica member => List.le_of_mem_argmin member minimal⟩ }
  · rw [if_neg above, if_neg above]
    rcases exists_affineRanks preferred (select candidates) with
      ⟨fallbacks, ranks, others⟩
    rcases exists_affineRanks preferred (reselect recandidates) with
      ⟨refallbacks, reranks, reothers⟩
    have sameOthers : fallbacks.flatten.Perm refallbacks.flatten := by
      rw [others, reothers]
      exact perm.filter _
    exact {
      drops_iff := drops.trans redrops.symm
      raises_iff := fun failure => by simp
      noneAvailable := fun empty => absurd empty nonempty
      kept := fun _ _ _ => ⟨preferred, fallbacks, refallbacks, affine,
        congrArg _ ranks, congrArg _ reranks, others, sameOthers⟩
      dropped := fun dropped => absurd (drops.mp dropped) above }

/-- The decision does not depend on the order in which replicas are listed, nor on
the router that makes it. -/
theorem sameDecision_of_perm
    (sameThreshold : restarted.imbalanceThreshold = router.imbalanceThreshold)
    (distinct : ((select candidates).map RunningReplica.idString).Nodup)
    (perm : (select candidates).Perm (reselect recandidates))
    (keyed : pending.bind PendingRequest.userId? = some userId) :
    SameDecision router.imbalanceThreshold userId (select candidates)
      (reselect recandidates)
      (router.chooseReplicas select candidates pending)
      (restarted.chooseReplicas reselect recandidates pending) := by
  have sameAffine := affineReplica_perm userId distinct perm
  cases affine : affineReplica userId (select candidates) with
  | ok preferred =>
      exact sameDecision_of_affine sameThreshold perm keyed affine
        (sameAffine.symm.trans affine)
  | error failure =>
      have keeps : ¬ DropsAffinity router.imbalanceThreshold userId
          (select candidates) := not_dropsAffinity_of_error affine
      have rekeeps : ¬ DropsAffinity router.imbalanceThreshold userId
          (reselect recandidates) :=
        not_dropsAffinity_of_error (sameAffine.symm.trans affine)
      by_cases empty : select candidates = []
      · -- Nothing is available to either router.
        have reempty : reselect recandidates = [] := (empty ▸ perm).nil_eq.symm
        have first : router.chooseReplicas select candidates pending =
            .ok [] := by
          simp [UserAffinityRouter.chooseReplicas, empty]
        have second : restarted.chooseReplicas reselect recandidates pending =
            .ok [] := by
          simp [UserAffinityRouter.chooseReplicas, reempty]
        rw [first, second]
        exact {
          drops_iff := iff_of_false keeps rekeeps
          raises_iff := fun _ => Iff.rfl
          noneAvailable := fun _ => ⟨rfl, rfl⟩
          kept := fun nonempty => absurd empty nonempty
          dropped := fun drops => absurd drops keeps }
      · -- The user id does not encode.
        have renonempty : reselect recandidates ≠ [] := by
          intro reempty
          exact empty (reempty ▸ perm).eq_nil
        rw [chooseReplicas_of_error keyed empty affine,
          chooseReplicas_of_error keyed renonempty (sameAffine.symm.trans affine)]
        exact {
          drops_iff := iff_of_false keeps rekeeps
          raises_iff := fun _ => Iff.rfl
          noneAvailable := fun none => absurd none empty
          kept := fun nonempty encodes =>
            absurd affine (affineReplica_ne_error nonempty encodes)
          dropped := fun drops => absurd drops keeps }

/-- Two replicas are equally idle and the affine one of user `g`, `r1`, is not. -/
def hotTrio : List (RunningReplica String) :=
  [reporting "r0" 0, reporting "r1" 12, reporting "r2" 0]

/-- A router that has routed user `g` before sees the replicas in the other order:
affinity is dropped for `r0` and for `r2` while `r1` is hot, and kept by both when
all are idle. -/
theorem sameDecision_reversed :
    let router := UserAffinityRouter.initializeState 10
    let restarted := router.onRequestRouted (.ofUser "g") "r1"
    let pending := some (PendingRequest.ofUser "g")
    (∃ least other, router.chooseReplicas id hotTrio pending = .ok [[least]] ∧
      restarted.chooseReplicas id hotTrio.reverse pending = .ok [[other]] ∧
      least.load = other.load ∧ ∀ replica ∈ hotTrio, least.load ≤ replica.load) ∧
    ∃ preferred fallbacks refallbacks,
      affineReplica (.ofString "g") trio = .ok preferred ∧
      router.chooseReplicas id trio pending = .ok ([preferred] :: fallbacks) ∧
      restarted.chooseReplicas id trio.reverse pending =
        .ok ([preferred] :: refallbacks) ∧
      fallbacks.flatten = trio.filter (·.replicaId ≠ preferred.replicaId) ∧
      fallbacks.flatten.Perm refallbacks.flatten := by
  intro router restarted pending
  have sameThreshold : restarted.imbalanceThreshold = router.imbalanceThreshold := rfl
  have keyed : pending.bind PendingRequest.userId? = some (.ofString "g") := rfl
  have reversed (replicas : List (RunningReplica String)) :
      (id replicas).Perm (id replicas.reverse) := (List.reverse_perm _).symm
  have hot : SameDecision 10 (.ofString "g") hotTrio hotTrio.reverse _ _ :=
    sameDecision_of_perm sameThreshold (by decide) (reversed hotTrio) keyed
  have idle : SameDecision 10 (.ofString "g") trio trio.reverse _ _ :=
    sameDecision_of_perm sameThreshold (by decide) (reversed trio) keyed
  have drops : DropsAffinity 10 (.ofString "g") hotTrio := by decide +kernel
  have keeps : ¬ DropsAffinity 10 (.ofString "g") trio := by decide +kernel
  exact ⟨hot.dropped drops,
    idle.kept (by decide) (by rw [PyString.encode_ofString]; rfl) keeps⟩

end DistributedInference.CustomRouting
