import Mathlib.Data.Matrix.Mul

/-!
# Tensors

Tensors of a fixed shape, and tensors whose first dimension is only known at run
time, as lists of rows.  The row operations are those of batched inference over
groups of uneven size: every group's row is repeated for the members of the group,
combined with the flat list of the members, and the flat results are read back
group by group.
-/

namespace DistributedInference.Tensor

universe u v w

/-- A tensor of a fixed shape. -/
def Shaped (K : Type u) : List Nat → Type u
  | [] => K
  | size :: shape => Fin size → Shaped K shape

/-- A function at every element of a tensor. -/
def Shaped.map {K : Type u} {L : Type v} (element : K → L) :
    {shape : List Nat} → Shaped K shape → Shaped L shape
  | [], value => element value
  | _ :: _, values => fun index => Shaped.map element (values index)

section Layers

variable {K : Type u} {input output width : Nat}

/-- An affine layer. -/
structure Linear (K : Type u) (input output : Nat) where
  weight : Fin output → Fin input → K
  bias : Fin output → K

/-- The layer at one vector. -/
def Linear.apply [NonUnitalNonAssocSemiring K] (layer : Linear K input output)
    (vector : Fin input → K) : Fin output → K :=
  fun index => layer.weight index ⬝ᵥ vector + layer.bias index

def relu [Zero K] [Max K] (vector : Fin width → K) : Fin width → K :=
  fun index => max (vector index) 0

end Layers

/-! ## Rows -/

section Rows

variable {Row : Type u}

/-- `rows.repeat_interleave(torch.tensor(counts), dim=0)`.  A tensor made of an empty
list has a floating point type and is rejected, one count applies to all rows, and
otherwise there is one count for each row. -/
def repeatInterleave (rows : List Row) (counts : List Nat) : Option (List Row) :=
  match counts with
  | [] => none
  | [count] => some (rows.flatMap (List.replicate count))
  | counts =>
      if counts.length = rows.length then
        some ((List.zipWith List.replicate counts rows).flatten)
      else none

/-- The elementwise product, where a single row is combined with every row. -/
def broadcastMul [Mul Row] (left right : List Row) : Option (List Row) :=
  if left.length = right.length then some (List.zipWith (· * ·) left right)
  else
    match left, right with
    | [row], right => some (right.map (row * ·))
    | left, [row] => some (left.map (· * row))
    | _, _ => none

/-- `rows.sum(dim=1)`. -/
def sumRows {K : Type u} [AddCommMonoid K] {width : Nat}
    (rows : List (Fin width → K)) : List K :=
  rows.map fun row => ∑ index, row index

end Rows

/-! ## Groups of uneven size -/

section Groups

variable {Group : Type u} {Row : Type v} {α β : Type v} {γ : Type w}

/-- Repeating the row of each group lists it once for every member. -/
theorem repeatInterleave_map {groups : List Group} (nonempty : groups ≠ [])
    (row : Group → Row) (count : Group → Nat) :
    repeatInterleave (groups.map row) (groups.map count) =
      some (groups.flatMap fun group =>
        List.replicate (count group) (row group)) := by
  match groups with
  | [] => exact absurd rfl nonempty
  | [group] => simp [repeatInterleave]
  | first :: second :: rest =>
      simp [repeatInterleave, List.zipWith_map, List.flatMap_def]

theorem zipWith_replicate (combine : α → β → γ) (value : α) (values : List β) :
    List.zipWith combine (List.replicate values.length value) values =
      values.map (combine value) := by
  induction values with
  | nil => rfl
  | cons head rest ih => simp [List.replicate_succ, ih]

/-- Combining flat lists of equal groups combines the groups. -/
theorem zipWith_flatMap (combine : α → β → γ) (left : Group → List α)
    (right : Group → List β)
    (same : ∀ group, (left group).length = (right group).length)
    (groups : List Group) :
    List.zipWith combine (groups.flatMap left) (groups.flatMap right) =
      groups.flatMap fun group =>
        List.zipWith combine (left group) (right group) := by
  induction groups with
  | nil => rfl
  | cons group rest ih =>
      simp only [List.flatMap_cons]
      rw [List.zipWith_append (same group), ih]

theorem broadcastMul_of_length_eq [Mul Row] {left right : List Row}
    (same : left.length = right.length) :
    broadcastMul left right = some (List.zipWith (· * ·) left right) := by
  unfold broadcastMul
  exact if_pos same

/-- Multiplying each group's repeated row with the flat list of the members
multiplies every member with the row of its group. -/
theorem broadcastMul_groups [Mul Row] (row : Group → Row)
    (members : Group → List Row) (groups : List Group) :
    broadcastMul
        (groups.flatMap fun group =>
          List.replicate (members group).length (row group))
        (groups.flatMap members) =
      some (groups.flatMap fun group => (members group).map (row group * ·)) := by
  have same : (groups.flatMap fun group =>
      List.replicate (members group).length (row group)).length =
        (groups.flatMap members).length := by
    simp [List.length_flatMap]
  rw [broadcastMul_of_length_eq same, zipWith_flatMap]
  · simp only [zipWith_replicate]
  · simp

/-- Reading the values behind `before`, one for each element, reads the segment that
stands there. -/
theorem mapM_zipIdx_segment (combine : α → β → γ) {elements : List α}
    {segment : List β} (same : elements.length = segment.length)
    (before after : List β) {offset start : Nat}
    (position : before.length = offset + start) :
    ((elements.zipIdx start).mapM fun pair =>
        ((before ++ (segment ++ after))[offset + pair.2]?).map (combine pair.1)) =
      some (List.zipWith combine elements segment) := by
  induction elements generalizing segment before start with
  | nil => simp
  | cons element rest ih =>
      cases segment with
      | nil => cases same
      | cons value segment =>
          have here : (before ++ value :: (segment ++ after))[offset + start]? =
              some value := by
            rw [← position]
            simp
          have nextPosition : (before ++ [value]).length = offset + (start + 1) := by
            rw [List.length_append, position]
            rfl
          have later := ih (Nat.succ.inj same) (before ++ [value]) nextPosition
          simp only [List.append_assoc, List.singleton_append] at later
          simp only [List.zipIdx_cons, List.mapM_cons, List.cons_append, here,
            List.zipWith_cons_cons, later]
          rfl

end Groups

end DistributedInference.Tensor
