import DistributedInference.Balancing.Spread
import DistributedInference.CustomRouting.Affinity

/-!
# How far the replicas drift apart

Requests that carry a user id are routed one after another and stay where they
land.  Every replica is available and reports the requests it holds, and each
request lands on rank zero.  Then the router is a balancer: whether it keeps or
drops affinity, the replica it sends a request to is less than the threshold above
every other.
-/

namespace DistributedInference.CustomRouting

open Balancing Python Transition

/-- The router, and the number of requests on each replica. -/
structure Filling (ReplicaID : Type) where
  router : UserAffinityRouter
  loads : ReplicaID → Nat := fun _ => 0

/-- A request as the router sees it, and where it lands. -/
structure Arrival (ReplicaID : Type) where
  pending : PendingRequest
  candidates : List (RunningReplica ReplicaID)
  landed : ReplicaID

variable {ReplicaID : Type} [DecidableEq ReplicaID] [ToString ReplicaID]

/-- A request lands on rank zero, with every candidate available. -/
def Filling.step (filling : Filling ReplicaID) (arrival : Arrival ReplicaID) :
    Option (Filling ReplicaID) :=
  match filling.router.chooseReplicas id arrival.candidates (some arrival.pending) with
  | .ok (rankZero :: _) =>
      if arrival.landed ∈ rankZero.map RunningReplica.replicaId then
        some {
          router := filling.router.onRequestRouted arrival.pending arrival.landed
          loads := increment filling.loads arrival.landed }
      else none
  | _ => none

/-- The request carries a user id, the candidates are the replicas of the fleet, in
some order, and each of them reports the requests it holds. -/
def ExactReports (ids : List ReplicaID) (filling : Filling ReplicaID)
    (arrival : Arrival ReplicaID) : Prop :=
  arrival.pending.userId?.isSome = true ∧
  (arrival.candidates.map RunningReplica.replicaId).Perm ids ∧
  ∀ candidate ∈ arrival.candidates,
    candidate.load = filling.loads candidate.replicaId

instance (ids : List ReplicaID) (filling : Filling ReplicaID)
    (arrival : Arrival ReplicaID) : Decidable (ExactReports ids filling arrival) :=
  inferInstanceAs (Decidable (_ ∧ _ ∧ _))

/-- Routing from an idle fleet on. -/
def fillingFleet (ids : List ReplicaID) (imbalanceThreshold : ℤ) :
    System (Filling ReplicaID) (Arrival ReplicaID) :=
  (System.ofFunction { router := .initializeState imbalanceThreshold }
    Filling.step).restrict (ExactReports ids)

variable {ids : List ReplicaID} {imbalanceThreshold : ℤ}
variable {filling next : Filling ReplicaID} {arrival : Arrival ReplicaID}

/-- Where a request lands: on the affine replica, or on the least loaded one where
the affine replica carries too much. -/
theorem Filling.step_eq_some (exact : ExactReports ids filling arrival)
    (taken : filling.step arrival = some next) :
    ∃ userId affine, arrival.pending.userId? = some userId ∧
      affineReplica userId arrival.candidates = .ok affine ∧
      (if Balanced filling.router.imbalanceThreshold arrival.candidates affine then
          arrival.landed = affine.replicaId
        else ∃ least ∈ arrival.candidates.argmin RunningReplica.load,
          arrival.landed = least.replicaId) ∧
      next.router =
        filling.router.onRequestRouted arrival.pending arrival.landed ∧
      next.loads = increment filling.loads arrival.landed := by
  rcases Option.isSome_iff_exists.mp exact.1 with ⟨userId, keyed⟩
  have carried : (some arrival.pending).bind PendingRequest.userId? = some userId :=
    keyed
  simp only [step] at taken
  split at taken
  next rankZero lower computed =>
    split at taken
    next member =>
      cases taken
      rcases rankZero_of_chooseReplicas carried computed with ⟨affine, chosen, first⟩
      refine ⟨userId, affine, keyed, chosen, ?_, rfl, rfl⟩
      simp only [id_eq] at first
      split at first
      next balanced =>
        rw [if_pos balanced]
        simpa [first] using member
      next unbalanced =>
        rcases first with ⟨least, minimal, same⟩
        rw [if_neg unbalanced]
        exact ⟨least, minimal, by simpa [same] using member⟩
    next => contradiction
  next => contradiction

omit [DecidableEq ReplicaID] in
theorem onRequestRouted_imbalanceThreshold (router : UserAffinityRouter)
    (pending : PendingRequest) (landed : ReplicaID) :
    (router.onRequestRouted pending landed).imbalanceThreshold =
      router.imbalanceThreshold := by
  simp only [UserAffinityRouter.onRequestRouted]
  split <;> rfl

theorem imbalanceThreshold_of_reachable
    (reachable : (fillingFleet ids imbalanceThreshold).Reachable filling) :
    filling.router.imbalanceThreshold = imbalanceThreshold := by
  apply reachable.invariant (·.router.imbalanceThreshold = imbalanceThreshold)
  · intro filling initial
    cases initial
    rfl
  · intro filling arrival next _ same taken
    rcases Filling.step_eq_some taken.1 taken.2 with ⟨_, _, _, _, _, router, _⟩
    rw [router, onRequestRouted_imbalanceThreshold, same]

omit [DecidableEq ReplicaID] [ToString ReplicaID] in
/-- The reports compare as the loads do. -/
theorem ExactReports.sub_lt_iff (exact : ExactReports ids filling arrival)
    {one other : RunningReplica ReplicaID} (oneMember : one ∈ arrival.candidates)
    (otherMember : other ∈ arrival.candidates) (bound : ℤ) :
    one.load - other.load < bound ↔
      (filling.loads one.replicaId : ℤ) - filling.loads other.replicaId < bound := by
  rw [exact.2.2 one oneMember, exact.2.2 other otherMember]
  norm_cast

omit [DecidableEq ReplicaID] [ToString ReplicaID] in
theorem ExactReports.exists_candidate (exact : ExactReports ids filling arrival)
    {id : ReplicaID} (member : id ∈ ids) :
    ∃ candidate ∈ arrival.candidates, candidate.replicaId = id :=
  List.mem_map.mp (exact.2.1.mem_iff.mpr member)

/-- The replica that a request lands on is less than the threshold above the
others. -/
theorem hasRoom_landed (positive : 1 ≤ imbalanceThreshold)
    (threshold : filling.router.imbalanceThreshold = imbalanceThreshold)
    (exact : ExactReports ids filling arrival)
    (taken : filling.step arrival = some next) :
    HasRoom ids imbalanceThreshold filling.loads arrival.landed := by
  rcases Filling.step_eq_some exact taken with
    ⟨userId, affine, _, chosen, landed, _, _⟩
  rw [threshold] at landed
  intro id member
  rcases exact.exists_candidate member with ⟨candidate, listed, rfl⟩
  split at landed
  next balanced =>
    rw [landed, ← exact.sub_lt_iff (mem_of_affineReplica chosen) listed]
    exact balanced candidate listed
  next unbalanced =>
    rcases landed with ⟨least, minimal, landed⟩
    have least_le : least.load ≤ candidate.load :=
      List.le_of_mem_argmin listed minimal
    rw [landed, ← exact.sub_lt_iff (List.argmin_mem minimal) listed]
    have room : (0 : ℚ) < imbalanceThreshold := by exact_mod_cast positive
    exact (sub_nonpos.mpr least_le).trans_lt room

/-- The router is a balancer. -/
def balancesLoads (positive : 1 ≤ imbalanceThreshold) :
    System.Simulation (fillingFleet ids imbalanceThreshold)
      (Balancing.system ids imbalanceThreshold) where
  view filling := filling.loads
  initial := by
    intro filling initial
    cases initial
    rfl
  step := by
    intro filling arrival next reachable taken
    have room := hasRoom_landed positive (imbalanceThreshold_of_reachable reachable)
      taken.1 taken.2
    rcases Filling.step_eq_some taken.1 taken.2 with ⟨_, _, _, _, _, _, loads⟩
    exact ⟨[arrival.landed], .single ⟨room, loads⟩⟩

/-- The escape hatch bounds the skew: no two replicas are ever more than the
threshold apart, and a request leaves its affine replica only if that one is at
least the threshold above the least loaded. -/
theorem boundedSkew (positive : 1 ≤ imbalanceThreshold)
    (reachable : (fillingFleet ids imbalanceThreshold).Reachable filling) :
    (∀ one ∈ ids, ∀ other ∈ ids,
      (filling.loads one : ℤ) - filling.loads other ≤ imbalanceThreshold) ∧
    ∀ arrival next,
      (fillingFleet ids imbalanceThreshold).Step filling arrival next →
      ∃ userId affine, arrival.pending.userId? = some userId ∧
        affineReplica userId arrival.candidates = .ok affine ∧
        (arrival.landed ≠ affine.replicaId →
          ∃ least ∈ ids, (∀ other ∈ ids, filling.loads least ≤ filling.loads other) ∧
            imbalanceThreshold ≤
              (filling.loads affine.replicaId : ℤ) - filling.loads least) := by
  have threshold := imbalanceThreshold_of_reachable reachable
  constructor
  · exact spread_of_reachable (by omega) ((balancesLoads positive).reachable reachable)
  · intro arrival next taken
    have exact := taken.1
    rcases Filling.step_eq_some exact taken.2 with
      ⟨userId, affine, keyed, chosen, landed, _, _⟩
    refine ⟨userId, affine, keyed, chosen, ?_⟩
    intro elsewhere
    rw [threshold] at landed
    have unbalanced :
        ¬ Balanced imbalanceThreshold arrival.candidates affine := by
      intro balanced
      exact elsewhere ((if_pos balanced).mp landed)
    rcases (if_neg unbalanced).mp landed with ⟨least, minimal, _⟩
    have listed := List.argmin_mem minimal
    refine ⟨least.replicaId, exact.2.1.mem_iff.mp (List.mem_map_of_mem listed),
      ?_, ?_⟩
    · intro other member
      rcases exact.exists_candidate member with ⟨candidate, candidateListed, rfl⟩
      have least_le : least.load ≤ candidate.load :=
        List.le_of_mem_argmin candidateListed minimal
      rw [exact.2.2 least listed, exact.2.2 candidate candidateListed] at least_le
      exact_mod_cast least_le
    · have above := (not_balanced_iff minimal).mp unbalanced
      apply le_of_not_gt
      intro below
      have room := (exact.sub_lt_iff (mem_of_affineReplica chosen) listed _).mpr below
      exact absurd above (not_le.mpr room)

/-- Every request whose user id encodes lands somewhere. -/
theorem Filling.exists_step (filling : Filling ReplicaID) {pending : PendingRequest}
    {candidates : List (RunningReplica ReplicaID)} {userId : PyString}
    {bytes : List UInt8} (nonempty : candidates ≠ [])
    (keyed : pending.userId? = some userId) (encoded : userId.encode = some bytes) :
    ∃ landed next, filling.step ⟨pending, candidates, landed⟩ = some next := by
  have available : id candidates ≠ [] := nonempty
  have carried : (some pending).bind PendingRequest.userId? = some userId := keyed
  have ranked : ∃ first fallbacks, filling.router.chooseReplicas id candidates
      (some pending) = .ok ([first] :: fallbacks) :=
    exists_ranks_of_encode available carried encoded
  rcases ranked with ⟨first, fallbacks, computed⟩
  refine ⟨first.replicaId, Option.isSome_iff_exists.mp ?_⟩
  simp [step, computed]

/-- The reports of two replicas. -/
def reports (first second : ℚ) : List (RunningReplica String) :=
  [reporting "r0" first, reporting "r1" second]

/-- Four requests of one user, whose affine replica is `r1`: the third is the first
to leave it. -/
theorem boundedSkew_hotUser :
    ∃ filling, (fillingFleet ["r0", "r1"] 2).Reachable filling ∧
      filling.loads "r0" = 1 ∧ filling.loads "r1" = 3 ∧
      ∀ one ∈ ["r0", "r1"], ∀ other ∈ ["r0", "r1"],
        (filling.loads one : ℤ) - filling.loads other ≤ 2 := by
  have executed : (System.execute
      (System.guarded (ExactReports ["r0", "r1"]) Filling.step)
      { router := .initializeState 2 }
      [⟨.ofUser "c", reports 0 0, "r1"⟩, ⟨.ofUser "c", (reports 0 1).reverse, "r1"⟩,
        ⟨.ofUser "c", reports 0 2, "r0"⟩, ⟨.ofUser "c", reports 1 2, "r1"⟩]).map
          (fun filling => (filling.loads "r0", filling.loads "r1")) =
      some (1, 3) := by
    decide +kernel
  rcases Option.map_eq_some_iff.mp executed with ⟨filling, run, loads⟩
  have reachable := System.reachable_of_guarded _ run
  rcases Prod.mk.inj loads with ⟨first, second⟩
  exact ⟨filling, reachable, first, second, (boundedSkew (by decide) reachable).1⟩

end DistributedInference.CustomRouting
