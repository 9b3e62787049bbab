import DistributedInference.Balancing.Rescale
import DistributedInference.CustomRouting.Choice

/-!
# A replica more

The affine replica of a user is at the position that a checksum modulo the number of
replicas selects among the sorted ids.  A replica that joins changes the modulus, and the
positions of the replicas behind it.  Who keeps their replica is decided by the checksum
modulo the product of the two numbers, and of its residues only as many as there were
replicas do.  Read from right to left, the same holds for a replica that leaves.
-/

namespace DistributedInference.CustomRouting

open Balancing Python Sorting

variable {ReplicaID : Type} [ToString ReplicaID]
variable {ids : List ReplicaID} {newcomer home : ReplicaID} {userId : String}

/-- The ids in front of a newcomer in the order of the id strings. -/
def positionOf (ids : List ReplicaID) (newcomer : ReplicaID) : Nat :=
  rankOf toString ids newcomer

theorem positionOf_le (ids : List ReplicaID) (newcomer : ReplicaID) :
    positionOf ids newcomer ≤ ids.length :=
  List.countP_le_length

theorem homeOf_eq_some_iff (distinct : (ids.map toString).Nodup) :
    homeOf ids userId = some home ↔
      home ∈ ids ∧ rankOf toString ids home = crc32 (utf8 userId) % ids.length :=
  getElem?_sortedBy_iff distinct _ _

/-- A newcomer is in front of the ids whose rank is at least its position. -/
theorem toString_lt_iff (distinct : ((newcomer :: ids).map toString).Nodup)
    (member : home ∈ ids) :
    toString newcomer < toString home ↔
      positionOf ids newcomer ≤ rankOf toString ids home := by
  have differ : toString home ≠ toString newcomer := by
    intro same
    rw [List.map_cons] at distinct
    exact (List.nodup_cons.mp distinct).1 (same ▸ List.mem_map_of_mem member)
  constructor
  · exact fun before => rankOf_le_rankOf before.le
  · intro behind
    apply lt_of_not_ge
    intro notBefore
    have after := lt_of_le_of_ne notBefore differ
    exact absurd (rankOf_lt_rankOf member after) (not_lt.mpr behind)

/-- The rank of an id after a newcomer joined. -/
theorem rankOf_newcomer (distinct : ((newcomer :: ids).map toString).Nodup)
    (member : home ∈ ids) :
    rankOf toString (newcomer :: ids) home =
      shifted (positionOf ids newcomer) (rankOf toString ids home) := by
  rw [shifted, ← if_congr (toString_lt_iff distinct member) rfl rfl]
  simp only [rankOf, List.countP_cons, decide_eq_true_eq]
  split
  · rfl
  · rfl

/-- Whose home stays the same when a replica joins. -/
theorem homeOf_newcomer_iff (distinct : ((newcomer :: ids).map toString).Nodup)
    (atHome : homeOf ids userId = some home) :
    homeOf (newcomer :: ids) userId = some home ↔
      Keeps ids.length (positionOf ids newcomer)
        (crc32 (utf8 userId) % (ids.length * (ids.length + 1))) := by
  have rest : (ids.map toString).Nodup := by
    rw [List.map_cons] at distinct
    exact (List.nodup_cons.mp distinct).2
  rcases (homeOf_eq_some_iff rest).mp atHome with ⟨member, rank⟩
  have positive : 0 < ids.length := List.length_pos_of_mem member
  rw [homeOf_eq_some_iff distinct, rankOf_newcomer distinct member, rank,
    ← mod_eq_shifted_iff positive (positionOf_le ids newcomer), List.length_cons]
  constructor
  · exact fun both => both.2.symm
  · exact fun same => ⟨List.mem_cons_of_mem _ member, same.symm⟩

/-- The home of a user among replicas that are listed in some order. -/
theorem homeOf_of_listed {listed : List (RunningReplica ReplicaID)}
    {affine : RunningReplica ReplicaID} (distinct : (ids.map toString).Nodup)
    (perm : (listed.map RunningReplica.replicaId).Perm ids)
    (chosen : affineReplica (.ofString userId) listed = .ok affine) :
    homeOf ids userId = some affine.replicaId := by
  have strings := (perm.map toString).nodup_iff.mpr distinct
  rw [← homeOf_perm userId strings perm]
  exact homeOf_of_affineReplica chosen

/-- A user keeps the affine replica when another one joins exactly if the checksum of the
user id has one of the residues that keep their position, and these are as many as there
were replicas.  The order of the lists and the reports of the replicas do not matter. -/
theorem keepsReplica_iff (injective : Function.Injective (toString : ReplicaID → String))
    (distinct : (newcomer :: ids).Nodup)
    {listed grown : List (RunningReplica ReplicaID)} {before after : RunningReplica ReplicaID}
    (listedIds : (listed.map RunningReplica.replicaId).Perm ids)
    (grownIds : (grown.map RunningReplica.replicaId).Perm (newcomer :: ids))
    (chosenBefore : affineReplica (.ofString userId) listed = .ok before)
    (chosenAfter : affineReplica (.ofString userId) grown = .ok after) :
    (after.replicaId = before.replicaId ↔
      Keeps ids.length (positionOf ids newcomer)
        (crc32 (utf8 userId) % (ids.length * (ids.length + 1)))) ∧
    ((Finset.range (ids.length * (ids.length + 1))).filter
      (Keeps ids.length (positionOf ids newcomer))).card = ids.length := by
  have strings : ((newcomer :: ids).map toString).Nodup := distinct.map injective
  have idStrings : (ids.map toString).Nodup := (List.nodup_cons.mp distinct).2.map injective
  have homeBefore := homeOf_of_listed idStrings listedIds chosenBefore
  have homeAfter := homeOf_of_listed strings grownIds chosenAfter
  refine ⟨?_, card_keeps (positionOf_le ids newcomer)⟩
  rw [← homeOf_newcomer_iff strings homeBefore, homeAfter, Option.some.injEq]

/-- A replica joins in front of three others.  User `alice` keeps `r2`, and so do two
other residues of twelve. -/
theorem keepsReplica_iff_alice :
    Keeps 3 0 (crc32 (utf8 "alice") % (3 * (3 + 1))) ∧
      ((Finset.range (3 * (3 + 1))).filter (Keeps 3 0)).card = 3 := by
  have before : affineReplica (.ofString "alice") [⟨"r2", []⟩, ⟨"r1", []⟩, ⟨"r0", []⟩] =
      .ok (⟨"r2", []⟩ : RunningReplica String) := by decide +kernel
  have after : affineReplica (.ofString "alice")
      [⟨"a0", []⟩, ⟨"r0", []⟩, ⟨"r1", []⟩, ⟨"r2", []⟩] =
        .ok (⟨"r2", []⟩ : RunningReplica String) := by decide +kernel
  have distinct : ["a0", "r0", "r1", "r2"].Nodup := by decide
  have first : positionOf ["r0", "r1", "r2"] "a0" = 0 := by decide +kernel
  have decided := keepsReplica_iff (fun _ _ => id) distinct (by decide) (.refl _) before
    after
  have three : ["r0", "r1", "r2"].length = 3 := rfl
  rw [first, three] at decided
  exact ⟨decided.1.mp rfl, decided.2⟩

end DistributedInference.CustomRouting
