import Mathlib.Data.List.Sort

/-!
# Stable sorting by a key

The stable sorts of Python: `sorted(values, key=key)` and its descending form.
The position of an element in a list sorted by distinct keys is the number of
elements with a smaller key, which does not depend on the order of the list that
was sorted.
-/

namespace DistributedInference.Sorting

universe u v w

variable {α : Type u} {β : Type v} [LinearOrder β] {key : α → β}
variable {values other : List α}

/-- Stable ascending sort by a key. -/
def sortedBy (key : α → β) (values : List α) : List α :=
  values.insertionSort (Order.Preimage key (· ≤ ·))

/-- Stable descending sort by a key: equal keys keep their order. -/
def sortedByDescending (key : α → β) (values : List α) : List α :=
  values.insertionSort (Order.Preimage key (· ≥ ·))

/-- The number of elements with a smaller key. -/
def rankOf (key : α → β) (values : List α) (value : α) : Nat :=
  values.countP fun other => key other < key value

theorem perm_sortedBy (key : α → β) (values : List α) :
    (sortedBy key values).Perm values :=
  List.perm_insertionSort _ values

@[simp] theorem length_sortedBy (key : α → β) (values : List α) :
    (sortedBy key values).length = values.length :=
  List.length_insertionSort _ values

@[simp] theorem mem_sortedBy {value : α} :
    value ∈ sortedBy key values ↔ value ∈ values :=
  List.mem_insertionSort _

/-- Sorting by the key of an image sorts the images. -/
theorem map_sortedBy {γ : Type w} (key : γ → β) (image : α → γ) (values : List α) :
    (sortedBy (key ∘ image) values).map image = sortedBy key (values.map image) :=
  List.map_insertionSort _ _ image values fun _ _ _ _ => Iff.rfl

theorem perm_sortedByDescending (key : α → β) (values : List α) :
    (sortedByDescending key values).Perm values :=
  List.perm_insertionSort _ values

theorem map_sortedByDescending {γ : Type w} (key : γ → β) (image : α → γ)
    (values : List α) :
    (sortedByDescending (key ∘ image) values).map image =
      sortedByDescending key (values.map image) :=
  List.map_insertionSort _ _ image values fun _ _ _ _ => Iff.rfl

/-! ## Stability -/

/-- Larger keys first; equal keys in the order `before`. -/
def DescendingThen (key : α → β) (before : α → α → Prop) (left right : α) : Prop :=
  key right < key left ∨ key left = key right ∧ before left right

/-- Inserting in front of the first key that is not larger. -/
theorem pairwise_orderedInsert_descending {before : α → α → Prop} {value : α}
    (sorted : values.Pairwise (DescendingThen key before))
    (first : ∀ other ∈ values, before value other) :
    (values.orderedInsert (Order.Preimage key (· ≥ ·)) value).Pairwise
      (DescendingThen key before) := by
  induction values with
  | nil => exact List.pairwise_singleton _ _
  | cons head rest ih =>
      have headFirst := (List.pairwise_cons.mp sorted).1
      have restSorted := (List.pairwise_cons.mp sorted).2
      by_cases notLarger : key head ≤ key value
      · rw [List.orderedInsert_cons_of_le _ rest notLarger]
        refine List.pairwise_cons.mpr ⟨?_, sorted⟩
        intro other member
        have bound : key other ≤ key head := by
          rcases List.mem_cons.mp member with same | later
          · rw [same]
          · rcases headFirst other later with smaller | equal
            · exact smaller.le
            · exact equal.1.ge
        rcases lt_or_eq_of_le (bound.trans notLarger) with smaller | equal
        · exact .inl smaller
        · exact .inr ⟨equal.symm, first other member⟩
      · rw [List.orderedInsert_of_not_le _ rest notLarger]
        refine List.pairwise_cons.mpr ⟨?_, ih restSorted ?_⟩
        · intro other member
          rcases (List.mem_orderedInsert _).mp member with same | later
          · exact .inl (same ▸ lt_of_not_ge notLarger)
          · exact headFirst other later
        · intro other member
          exact first other (List.mem_cons_of_mem _ member)

/-- The descending sort is stable: what comes first among equal keys is what came
first in the list. -/
theorem pairwise_sortedByDescending {before : α → α → Prop}
    (ordered : values.Pairwise before) :
    (sortedByDescending key values).Pairwise (DescendingThen key before) := by
  induction values with
  | nil => exact .nil
  | cons head rest ih =>
      have first := (List.pairwise_cons.mp ordered).1
      apply pairwise_orderedInsert_descending
        (ih (List.pairwise_cons.mp ordered).2)
      intro other member
      exact first other ((List.mem_insertionSort _).mp member)

theorem rankOf_perm (perm : values.Perm other) (value : α) :
    rankOf key values value = rankOf key other value :=
  perm.countP_eq _

theorem rankOf_le_rankOf {value larger : α} (le : key value ≤ key larger) :
    rankOf key values value ≤ rankOf key values larger := by
  apply List.countP_mono_left
  intro other _ smaller
  rw [decide_eq_true_eq] at smaller ⊢
  exact smaller.trans_le le

/-- An element counts for the ranks above it. -/
theorem rankOf_lt_rankOf {value larger : α} (member : value ∈ values)
    (lt : key value < key larger) :
    rankOf key values value < rankOf key values larger := by
  rcases List.append_of_mem member with ⟨before, after, rfl⟩
  have front : rankOf key before value ≤ rankOf key before larger := rankOf_le_rankOf lt.le
  have back : rankOf key after value ≤ rankOf key after larger := rankOf_le_rankOf lt.le
  simp only [rankOf, List.countP_append, List.countP_cons, lt_self_iff_false, lt,
    decide_false, decide_true, Bool.false_eq_true, if_false, if_true] at front back ⊢
  omega

/-- The rank depends on the keys only. -/
theorem rankOf_eq_countP_map (key : α → β) (values : List α) (value : α) :
    rankOf key values value = (values.map key).countP (· < key value) := by
  rw [List.countP_map]
  rfl

/-- The elements that a sublist leaves out account for the change of a rank. -/
theorem rankOf_sublist [DecidableEq α] {kept : List α} (distinct : values.Nodup)
    (sublist : kept.Sublist values) (value : α) :
    rankOf key values value =
      rankOf key kept value + rankOf key (values.filter (· ∉ kept)) value := by
  have keptPart : (values.filter (· ∈ kept)).Perm kept := by
    apply (List.perm_ext_iff_of_nodup (distinct.filter _)
      (sublist.nodup distinct)).mpr
    intro other
    simpa using fun member => sublist.mem member
  have split := List.countP_eq_countP_filter_add values
    (fun other => key other < key value) (· ∈ kept)
  rw [keptPart.countP_eq] at split
  simpa only [rankOf, decide_not] using split

/-- Distinct keys are sorted strictly. -/
theorem pairwise_lt_sortedBy (distinct : (values.map key).Nodup) :
    (sortedBy key values).Pairwise fun left right => key left < key right := by
  have sorted : (sortedBy key values).Pairwise fun left right =>
      key left ≤ key right :=
    List.pairwise_insertionSort (Order.Preimage key (· ≤ ·)) values
  have different : (sortedBy key values).Pairwise fun left right =>
      key left ≠ key right := by
    have nodup := ((perm_sortedBy key values).map key).nodup_iff.mpr distinct
    exact List.pairwise_map.mp nodup
  exact (sorted.and different).imp fun both => lt_of_le_of_ne both.1 both.2

/-- In a strictly sorted list the element at a position is the one with that many
smaller elements. -/
theorem getElem?_eq_some_iff_rankOf
    (sorted : values.Pairwise fun left right => key left < key right)
    (index : Nat) (value : α) :
    values[index]? = some value ↔
      value ∈ values ∧ rankOf key values value = index := by
  induction values generalizing index with
  | nil => simp
  | cons head rest ih =>
      have smaller := (List.pairwise_cons.mp sorted).1
      have restSorted := (List.pairwise_cons.mp sorted).2
      have rankHead : rankOf key (head :: rest) head = 0 := by
        simp only [rankOf, List.countP_cons, lt_self_iff_false, decide_false,
          Bool.false_eq_true, if_false, Nat.add_zero, List.countP_eq_zero,
          decide_eq_true_eq]
        exact fun later member => (smaller later member).asymm
      have rankRest : ∀ later ∈ rest,
          rankOf key (head :: rest) later = rankOf key rest later + 1 := by
        intro later member
        simp [rankOf, smaller later member]
      cases index with
      | zero =>
          simp only [List.getElem?_cons_zero, Option.some.injEq, List.mem_cons]
          constructor
          · intro same
            exact ⟨Or.inl same.symm, same ▸ rankHead⟩
          · intro placed
            rcases placed.1 with same | member
            · exact same.symm
            · have positive := rankRest value member
              omega
      | succ index =>
          rw [List.getElem?_cons_succ, ih restSorted, List.mem_cons]
          constructor
          · intro placed
            have next := rankRest value placed.1
            exact ⟨Or.inr placed.1, by omega⟩
          · intro placed
            rcases placed.1 with same | member
            · rw [same, rankHead] at placed
              omega
            · have next := rankRest value member
              exact ⟨member, by omega⟩

/-- The position of an element in the sorted list of distinct keys. -/
theorem getElem?_sortedBy_iff (distinct : (values.map key).Nodup) (index : Nat)
    (value : α) :
    (sortedBy key values)[index]? = some value ↔
      value ∈ values ∧ rankOf key values value = index := by
  rw [getElem?_eq_some_iff_rankOf (pairwise_lt_sortedBy distinct), mem_sortedBy,
    rankOf_perm (perm_sortedBy key values)]

/-- Sorting distinct keys forgets the order of the list. -/
theorem sortedBy_eq_of_perm (distinct : (values.map key).Nodup)
    (perm : values.Perm other) : sortedBy key values = sortedBy key other := by
  have otherDistinct := (perm.map key).nodup_iff.mp distinct
  apply List.ext_getElem?
  intro index
  apply Option.ext
  intro value
  rw [getElem?_sortedBy_iff distinct, getElem?_sortedBy_iff otherDistinct,
    perm.mem_iff, rankOf_perm perm]

end DistributedInference.Sorting
