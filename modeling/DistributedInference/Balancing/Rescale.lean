import Mathlib.Algebra.Order.Ring.Nat
import Mathlib.Data.Finset.Card
import Mathlib.Order.Interval.Finset.Nat

/-!
# One bucket more

Values are placed in buckets by their remainder.  When a bucket is inserted at some
position, the modulus grows by one and the buckets from that position on move up by one.
A value keeps its bucket only if both changes agree, which depends on its residue modulo
the product of the two moduli: as many residues as there were buckets keep theirs.
-/

namespace DistributedInference.Balancing

/-- The position of a bucket after another one was inserted at `position`. -/
def shifted (position bucket : Nat) : Nat :=
  if position ≤ bucket then bucket + 1 else bucket

/-- The residues modulo `count * (count + 1)` that keep their bucket. -/
def Keeps (count position residue : Nat) : Prop :=
  residue < position ∨ count * count + position ≤ residue

instance (count position residue : Nat) : Decidable (Keeps count position residue) :=
  inferInstanceAs (Decidable (_ ∨ _))

/-- A residue is a multiple of the old modulus and a remainder, and the new remainder
falls behind by the multiple. -/
theorem mod_succ_of_lt {count quotient remainder : Nat} (small : quotient ≤ count)
    (inside : remainder < count) :
    (count * quotient + remainder) % (count + 1) =
      if quotient ≤ remainder then remainder - quotient
      else remainder + count + 1 - quotient := by
  have expand : (count + 1) * quotient = count * quotient + quotient :=
    Nat.succ_mul count quotient
  split
  next behind =>
    have split : count * quotient + remainder =
        remainder - quotient + (count + 1) * quotient := by omega
    rw [split, Nat.add_mul_mod_self_left, Nat.mod_eq_of_lt (by omega)]
  next ahead =>
    have shrink : (count + 1) * (quotient - 1) + (count + 1) = (count + 1) * quotient := by
      rw [← Nat.mul_succ, Nat.succ_eq_add_one, Nat.sub_add_cancel (by omega)]
    have split : count * quotient + remainder =
        remainder + count + 1 - quotient + (count + 1) * (quotient - 1) := by omega
    rw [split, Nat.add_mul_mod_self_left, Nat.mod_eq_of_lt (by omega)]

/-- The residues that keep their bucket. -/
theorem mod_succ_eq_shifted_iff {count position residue : Nat} (positive : 0 < count)
    (within : position ≤ count) (bounded : residue < count * (count + 1)) :
    residue % (count + 1) = shifted position (residue % count) ↔
      Keeps count position residue := by
  have inside := Nat.mod_lt residue positive
  have small : residue / count ≤ count := by
    have quotient := (Nat.div_lt_iff_lt_mul positive).mpr
      (Nat.mul_comm count (count + 1) ▸ bounded)
    omega
  have split := Nat.div_add_mod residue count
  have moved := mod_succ_of_lt small inside
  rw [split] at moved
  rw [moved, shifted, Keeps]
  rcases Nat.eq_zero_or_pos (residue / count) with zero | later
  · -- The first multiple: the remainder does not change.
    rw [zero, Nat.mul_zero, Nat.zero_add] at split
    have square : count ≤ count * count := Nat.le_mul_self count
    simp only [zero, Nat.zero_le, if_true, Nat.sub_zero]
    split <;> omega
  · rcases Nat.lt_or_eq_of_le small with middle | last
    · -- In between, the remainder falls behind by less than a whole round.
      have above : count ≤ count * (residue / count) := Nat.le_mul_of_pos_right _ later
      have below : count * (residue / count) + count ≤ count * count := by
        have factor := Nat.mul_le_mul_left count (Nat.succ_le_of_lt middle)
        rwa [Nat.mul_succ] at factor
      split <;> split <;> omega
    · -- The last multiple: it falls behind by a round less one.
      rw [last] at split
      have square : count ≤ count * count := Nat.le_mul_self count
      rw [last, if_neg (by omega)]
      split <;> omega

/-- Every value, by its residue. -/
theorem mod_eq_shifted_iff {count position : Nat} (positive : 0 < count)
    (within : position ≤ count) (value : Nat) :
    value % (count + 1) = shifted position (value % count) ↔
      Keeps count position (value % (count * (count + 1))) := by
  have bounded : value % (count * (count + 1)) < count * (count + 1) :=
    Nat.mod_lt _ (Nat.mul_pos positive (Nat.succ_pos count))
  rw [← mod_succ_eq_shifted_iff positive within bounded, Nat.mod_mul_left_mod,
    Nat.mod_mul_right_mod]

/-- Wherever the bucket is inserted, as many residues keep their bucket as there were
buckets. -/
theorem card_keeps {count position : Nat} (within : position ≤ count) :
    ((Finset.range (count * (count + 1))).filter (Keeps count position)).card = count := by
  have parts : (Finset.range (count * (count + 1))).filter (Keeps count position) =
      Finset.range position ∪
        Finset.Ico (count * count + position) (count * (count + 1)) := by
    have square : count ≤ count * count ∨ count = 0 := by
      rcases Nat.eq_zero_or_pos count with zero | positive
      · exact Or.inr zero
      · exact Or.inl (Nat.le_mul_self count)
    have expand : count * (count + 1) = count * count + count := Nat.mul_succ count count
    ext residue
    simp only [Finset.mem_filter, Finset.mem_range, Finset.mem_union, Finset.mem_Ico, Keeps]
    omega
  have apart : Disjoint (Finset.range position)
      (Finset.Ico (count * count + position) (count * (count + 1))) := by
    rw [Finset.disjoint_left]
    intro residue
    simp only [Finset.mem_range, Finset.mem_Ico]
    omega
  have expand : count * (count + 1) = count * count + count := Nat.mul_succ count count
  rw [parts, Finset.card_union_of_disjoint apart, Finset.card_range, Nat.card_Ico]
  omega

end DistributedInference.Balancing
