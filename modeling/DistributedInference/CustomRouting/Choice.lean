import DistributedInference.Control.Traverse
import DistributedInference.CustomRouting.Router

/-!
# What the router chooses

One inversion of `choose_replicas`, which the correctness statements use instead
of its definition, and the position of the affine replica among the id strings.
-/

namespace DistributedInference.CustomRouting

open Sorting Python

/-! ## The user id of a request -/

/-- The lookups of one iteration of `_user_id` return: that of the attribute, and
that of the entry where the attribute is no string. -/
def Value.LookupsReturn (value : Value) : Prop :=
  ∃ carried, value.attribute? "user_id" = .ok carried ∧
    (carried.bind Value.text? = none → ∃ entry, value.entry? "user_id" = .ok entry)

theorem Value.exists_userId_iff {value : Value} :
    (∃ found, value.userId = .ok found) ↔ value.LookupsReturn := by
  simp only [Value.userId, Value.LookupsReturn]
  cases value.attribute? "user_id" with
  | error failure => simp [bind, Except.bind]
  | ok carried =>
      simp only [bind, Except.bind, pure, Except.pure, Except.ok.injEq, exists_eq_left']
      cases carried.bind Value.text? with
      | some userId => simp
      | none => cases value.entry? "user_id" <;> simp

namespace PendingRequest

/-- The lookups of the arguments return, up to the first argument that has a string
for its `user_id`. -/
def LookupsReturn (pendingRequest : PendingRequest) : Prop :=
  ∀ earlier value later, pendingRequest.values = earlier ++ value :: later →
    (∀ other ∈ earlier, other.userId = .ok none) → value.LookupsReturn

variable {request : PendingRequest}

theorem exists_userId_iff :
    (∃ found, request.userId = .ok found) ↔ request.LookupsReturn := by
  simp only [userId, LookupsReturn, ← Value.exists_userId_iff]
  exact Control.exists_findSomeM?_eq_ok_iff

theorem userId?_eq_some_iff {userId : PyString} :
    request.userId? = some userId ↔ request.userId = .ok (some userId) := by
  unfold userId?
  cases request.userId <;> simp

end PendingRequest

variable {pending : Option PendingRequest}

theorem userIdOf_of_keyed {userId : PyString}
    (keyed : pending.bind PendingRequest.userId? = some userId) :
    userIdOf pending = .ok (some userId) := by
  cases pending with
  | none => cases keyed
  | some request => exact PendingRequest.userId?_eq_some_iff.mp keyed

theorem keyed_of_userIdOf {userId : PyString}
    (read : userIdOf pending = .ok (some userId)) :
    pending.bind PendingRequest.userId? = some userId := by
  cases pending with
  | none => cases read
  | some request => exact PendingRequest.userId?_eq_some_iff.mpr read

/-- The user id of a call is read exactly if the lookups in its payload return. -/
theorem exists_userIdOf_iff :
    (∃ found, userIdOf pending = .ok found) ↔
      ∀ request ∈ pending, request.LookupsReturn := by
  cases pending with
  | none => exact iff_of_true ⟨none, rfl⟩ (by simp)
  | some request => simpa [userIdOf] using PendingRequest.exists_userId_iff

/-! ## The least loaded replica -/

variable {ReplicaID : Type}
variable {replicas other available : List (RunningReplica ReplicaID)}
variable {preferred replica : RunningReplica ReplicaID}

theorem leastLoaded_eq_ok_iff :
    leastLoaded available = .ok replica ↔
      replica ∈ available.argmin RunningReplica.load := by
  cases chosen : available.argmin RunningReplica.load with
  | none => simp [leastLoaded, chosen]
  | some least => simp [leastLoaded, chosen]

theorem exists_leastLoaded (nonempty : available ≠ []) :
    ∃ least, least ∈ available.argmin RunningReplica.load := by
  cases chosen : available.argmin RunningReplica.load with
  | none => exact absurd (List.argmin_eq_none.mp chosen) nonempty
  | some least => exact ⟨least, rfl⟩

/-- The preferred replica is less than `threshold` above every available one. -/
def Balanced (threshold : ℤ) (available : List (RunningReplica ReplicaID))
    (preferred : RunningReplica ReplicaID) : Prop :=
  ∀ replica ∈ available, preferred.load - replica.load < threshold

instance (threshold : ℤ) (available : List (RunningReplica ReplicaID))
    (preferred : RunningReplica ReplicaID) :
    Decidable (Balanced threshold available preferred) :=
  inferInstanceAs (Decidable (∀ replica ∈ available, _))

/-- Comparing with the least loaded replica compares with all of them. -/
theorem not_balanced_iff {threshold : ℤ} {least : RunningReplica ReplicaID}
    (minimal : least ∈ available.argmin RunningReplica.load) :
    ¬ Balanced threshold available preferred ↔
      threshold ≤ preferred.load - least.load := by
  constructor
  · intro unbalanced
    apply le_of_not_gt
    intro below
    apply unbalanced
    intro replica member
    have lower := List.le_of_mem_argmin member minimal
    exact (sub_le_sub_left lower preferred.load).trans_lt below
  · intro above balanced
    exact absurd (balanced least (List.argmin_mem minimal)) (not_lt.mpr above)

variable [ToString ReplicaID] {userId : PyString} {bytes : List UInt8}

/-! ## The affine replica -/

/-- The replica at the position that the checksum of the user id selects in the
order of the id strings. -/
def affinePosition (bytes : List UInt8)
    (replicas : List (RunningReplica ReplicaID)) :
    Option (RunningReplica ReplicaID) :=
  (sortedBy RunningReplica.idString replicas)[crc32 bytes % replicas.length]?

theorem affineReplica_eq_ok_iff :
    affineReplica userId replicas = .ok preferred ↔
      ∃ bytes, userId.encode = some bytes ∧
        affinePosition bytes replicas = some preferred := by
  cases encoded : userId.encode with
  | none => simp [affineReplica, encoded]
  | some bytes =>
      cases replicas with
      | nil => simp [affineReplica, affinePosition, encoded, sortedBy]
      | cons head rest =>
          simp only [affineReplica, affinePosition, encoded, length_sortedBy,
            List.length_cons, Nat.succ_ne_zero, if_false, Option.some.injEq,
            exists_eq_left']
          split <;> simp_all

theorem affineReplica_iff_of_encode (encoded : userId.encode = some bytes) :
    affineReplica userId replicas = .ok preferred ↔
      affinePosition bytes replicas = some preferred := by
  rw [affineReplica_eq_ok_iff, encoded]
  simp

theorem affinePosition_eq_some_iff
    (distinct : (replicas.map RunningReplica.idString).Nodup) :
    affinePosition bytes replicas = some preferred ↔
      preferred ∈ replicas ∧ rankOf RunningReplica.idString replicas preferred =
        crc32 bytes % replicas.length :=
  getElem?_sortedBy_iff distinct _ _

theorem mem_of_affinePosition
    (chosen : affinePosition bytes replicas = some preferred) :
    preferred ∈ replicas :=
  mem_sortedBy.mp (List.mem_of_getElem? chosen)

theorem mem_of_affineReplica
    (affine : affineReplica userId replicas = .ok preferred) :
    preferred ∈ replicas := by
  rcases affineReplica_eq_ok_iff.mp affine with ⟨bytes, _, chosen⟩
  exact mem_of_affinePosition chosen

/-- A non-empty list has an affine replica for every checksum. -/
theorem exists_affinePosition (bytes : List UInt8) (nonempty : replicas ≠ []) :
    ∃ preferred, affinePosition bytes replicas = some preferred := by
  have bound : crc32 bytes % replicas.length <
      (sortedBy RunningReplica.idString replicas).length := by
    rw [length_sortedBy]
    exact Nat.mod_lt _ (List.length_pos_iff.mpr nonempty)
  exact ⟨_, List.getElem?_eq_getElem bound⟩

/-- Sorting makes the choice independent of the order of the list. -/
theorem affineReplica_perm (userId : PyString)
    (distinct : (replicas.map RunningReplica.idString).Nodup)
    (perm : replicas.Perm other) :
    affineReplica userId replicas = affineReplica userId other := by
  simp only [affineReplica, sortedBy_eq_of_perm distinct perm]

/-- The id at a user's position among the ids of a fleet. -/
def homeOf (ids : List ReplicaID) (userId : String) : Option ReplicaID :=
  (sortedBy toString ids)[crc32 (utf8 userId) % ids.length]?

theorem homeOf_perm {ids otherIds : List ReplicaID} (userId : String)
    (distinct : (ids.map toString).Nodup) (perm : ids.Perm otherIds) :
    homeOf ids userId = homeOf otherIds userId := by
  simp only [homeOf, sortedBy_eq_of_perm distinct perm, perm.length_eq]

/-- The affine replica depends on the ids of the replicas only. -/
theorem homeOf_of_affineReplica {user : String}
    (affine : affineReplica (.ofString user) replicas = .ok preferred) :
    homeOf (replicas.map RunningReplica.replicaId) user =
      some preferred.replicaId := by
  have chosen :=
    (affineReplica_iff_of_encode (PyString.encode_ofString user)).mp affine
  have sorted := map_sortedBy (toString : ReplicaID → String)
    RunningReplica.replicaId replicas
  rw [homeOf, ← sorted, List.length_map, List.getElem?_map]
  exact congrArg (Option.map RunningReplica.replicaId) chosen

theorem nodup_idString
    (injective : Function.Injective (toString : ReplicaID → String))
    (distinct : (replicas.map RunningReplica.replicaId).Nodup) :
    (replicas.map RunningReplica.idString).Nodup := by
  have strings := distinct.map injective
  rwa [List.map_map] at strings

/-! ## The four outcomes -/

variable [DecidableEq ReplicaID]

/-- The outcomes of `choose_replicas`, one for each of its `return` statements, by
what reading the user id does. -/
inductive Choice (threshold : ℤ) (available : List (RunningReplica ReplicaID))
    (userId : Except RoutingError (Option PyString)) :
    List (List (RunningReplica ReplicaID)) → Prop
  | noneAvailable :
      available = [] → Choice threshold available userId []
  | unkeyed :
      available ≠ [] → userId = .ok none →
      Choice threshold available userId [available]
  | dropped {user : PyString} {preferred least : RunningReplica ReplicaID} :
      userId = .ok (some user) → affineReplica user available = .ok preferred →
      least ∈ available.argmin RunningReplica.load →
      ¬ Balanced threshold available preferred →
      Choice threshold available userId [[least]]
  | kept {user : PyString} {preferred : RunningReplica ReplicaID} :
      userId = .ok (some user) → affineReplica user available = .ok preferred →
      Balanced threshold available preferred →
      Choice threshold available userId (affineRanks preferred available)

variable {router : UserAffinityRouter}
variable {select : List (RunningReplica ReplicaID) → List (RunningReplica ReplicaID)}
variable {candidates : List (RunningReplica ReplicaID)}
variable {ranks : List (List (RunningReplica ReplicaID))}

/-- What `choose_replicas` computes for a request that carries a user id. -/
theorem chooseReplicas_keyed (available : select candidates ≠ [])
    (keyed : pending.bind PendingRequest.userId? = some userId) :
    router.chooseReplicas select candidates pending = do
      let preferred ← affineReplica userId (select candidates)
      let least ← leastLoaded (select candidates)
      if router.imbalanceThreshold ≤ preferred.load - least.load then
        return [[least]]
      else return affineRanks preferred (select candidates) := by
  simp only [UserAffinityRouter.chooseReplicas, List.isEmpty_iff, available, if_false,
    userIdOf_of_keyed keyed]
  rfl

/-- A request whose user id cannot be read is not ranked, unless there is nothing to
rank. -/
theorem chooseReplicas_of_lookup_error {failure : RoutingError}
    (available : select candidates ≠ []) (fails : userIdOf pending = .error failure) :
    router.chooseReplicas select candidates pending = .error failure := by
  simp only [UserAffinityRouter.chooseReplicas, List.isEmpty_iff, available, if_false,
    fails]
  rfl

/-- A call with something to rank that returns has read the user id. -/
theorem lookupsReturn_of_chooseReplicas (available : select candidates ≠ [])
    (computed : router.chooseReplicas select candidates pending = .ok ranks) :
    ∀ request ∈ pending, request.LookupsReturn := by
  apply exists_userIdOf_iff.mp
  cases read : userIdOf pending with
  | error failure =>
      rw [chooseReplicas_of_lookup_error available read] at computed
      cases computed
  | ok found => exact ⟨found, rfl⟩

/-- Every outcome is computed. -/
theorem Choice.chooseReplicas_eq
    (choice : Choice router.imbalanceThreshold (select candidates)
      (userIdOf pending) ranks) :
    router.chooseReplicas select candidates pending = .ok ranks := by
  cases choice with
  | noneAvailable empty => simp [UserAffinityRouter.chooseReplicas, empty]
  | unkeyed nonempty keyless =>
      simp only [UserAffinityRouter.chooseReplicas, List.isEmpty_iff, nonempty,
        if_false, keyless]
      rfl
  | dropped keyed affine minimal unbalanced =>
      have nonempty := List.ne_nil_of_mem (List.argmin_mem minimal)
      rw [chooseReplicas_keyed nonempty (keyed_of_userIdOf keyed), affine,
        leastLoaded_eq_ok_iff.mpr minimal]
      exact if_pos ((not_balanced_iff minimal).mp unbalanced)
  | kept keyed affine balanced =>
      have nonempty := List.ne_nil_of_mem (mem_of_affineReplica affine)
      rcases exists_leastLoaded nonempty with ⟨least, minimal⟩
      rw [chooseReplicas_keyed nonempty (keyed_of_userIdOf keyed), affine,
        leastLoaded_eq_ok_iff.mpr minimal]
      exact if_neg fun above => (not_balanced_iff minimal).mpr above balanced

/-- What `choose_replicas` returns is one of its four outcomes. -/
theorem choice_of_chooseReplicas
    (computed : router.chooseReplicas select candidates pending = .ok ranks) :
    Choice router.imbalanceThreshold (select candidates) (userIdOf pending) ranks := by
  by_cases empty : select candidates = []
  · have returned : ranks = [] := by
      simpa [UserAffinityRouter.chooseReplicas, empty] using computed.symm
    exact returned ▸ .noneAvailable empty
  · rcases read : userIdOf pending with failure | (_ | userId)
    · rw [chooseReplicas_of_lookup_error empty read] at computed
      cases computed
    · simp only [UserAffinityRouter.chooseReplicas, List.isEmpty_iff, empty, if_false,
        read] at computed
      cases computed
      exact .unkeyed empty rfl
    · rcases exists_leastLoaded empty with ⟨least, minimal⟩
      rw [chooseReplicas_keyed empty (keyed_of_userIdOf read),
        leastLoaded_eq_ok_iff.mpr minimal] at computed
      cases affine : affineReplica userId (select candidates) with
      | error failure =>
          rw [affine] at computed
          cases computed
      | ok preferred =>
          rw [affine] at computed
          by_cases balanced :
              Balanced router.imbalanceThreshold (select candidates) preferred
          · have below := mt (not_balanced_iff minimal).mpr (not_not.mpr balanced)
            have returned : .ok (affineRanks preferred (select candidates)) =
                Except.ok ranks := (if_neg below).symm.trans computed
            cases returned
            exact .kept rfl affine balanced
          · have above := (not_balanced_iff minimal).mp balanced
            have returned : .ok [[least]] = Except.ok ranks :=
              (if_pos above).symm.trans computed
            cases returned
            exact .dropped rfl affine minimal balanced

/-- A request that carries a user id is ranked by the affine replica of that user,
provided the id encodes. -/
theorem chooseReplicas_keyed_iff (nonempty : select candidates ≠ [])
    (keyed : pending.bind PendingRequest.userId? = some userId) :
    router.chooseReplicas select candidates pending = .ok ranks ↔
      ∃ bytes affine, userId.encode = some bytes ∧
        affinePosition bytes (select candidates) = some affine ∧
        if Balanced router.imbalanceThreshold (select candidates) affine then
          ranks = affineRanks affine (select candidates)
        else ∃ least ∈ (select candidates).argmin RunningReplica.load,
          ranks = [[least]] := by
  constructor
  · intro computed
    have choice := choice_of_chooseReplicas computed
    rw [userIdOf_of_keyed keyed] at choice
    cases choice with
    | noneAvailable empty => exact absurd empty nonempty
    | unkeyed _ keyless => cases keyless
    | @dropped _ affine least same affineReplica minimal unbalanced =>
        cases same
        rcases affineReplica_eq_ok_iff.mp affineReplica with ⟨bytes, encoded, chosen⟩
        exact ⟨bytes, affine, encoded, chosen,
          (if_neg unbalanced).mpr ⟨least, minimal, rfl⟩⟩
    | @kept _ affine same affineReplica balanced =>
        cases same
        rcases affineReplica_eq_ok_iff.mp affineReplica with ⟨bytes, encoded, chosen⟩
        exact ⟨bytes, affine, encoded, chosen, (if_pos balanced).mpr rfl⟩
  · intro ranked
    rcases ranked with ⟨bytes, affine, encoded, chosen, ranked⟩
    have affineReplica := affineReplica_eq_ok_iff.mpr ⟨bytes, encoded, chosen⟩
    by_cases balanced : Balanced router.imbalanceThreshold (select candidates) affine
    · rw [(if_pos balanced).mp ranked]
      exact (Choice.kept (userIdOf_of_keyed keyed) affineReplica
        balanced).chooseReplicas_eq
    · rcases (if_neg balanced).mp ranked with ⟨least, minimal, same⟩
      rw [same]
      exact (Choice.dropped (userIdOf_of_keyed keyed) affineReplica minimal
        balanced).chooseReplicas_eq

end DistributedInference.CustomRouting
