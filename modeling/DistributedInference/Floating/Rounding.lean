import DistributedInference.Python.Numbers
import Mathlib.Algebra.BigOperators.Group.List.Basic
import Mathlib.Algebra.Order.BigOperators.Group.List
import Mathlib.Data.Int.Log
import Mathlib.Tactic.Linarith

/-!
# Binary floating point numbers

A float is a rational number with a bounded significand; every operation rounds its
exact result to the nearest float, ties to the even significand.  The exponent is
not bounded, so there are neither infinities nor subnormal numbers here.

`fraction` is the number of digits behind the leading one: 23 in single precision, 52
in double precision.
-/

namespace DistributedInference.Floating

open Python

/-- The distance of the floats around a value. -/
def ulp (fraction : ℕ) (value : ℚ) : ℚ :=
  2 ^ (Int.log 2 |value| - fraction)

/-- The nearest float, ties to the even significand. -/
def roundFloat (fraction : ℕ) (value : ℚ) : ℚ :=
  roundHalfEven (value / ulp fraction value) * ulp fraction value

variable {fraction : ℕ} {value : ℚ}

theorem ulp_pos : 0 < ulp fraction value :=
  zpow_pos (by norm_num) _

/-- Multiples of the distance between the floats are kept. -/
theorem roundFloat_of_multiple {significand : ℤ}
    (multiple : value = significand * ulp fraction value) :
    roundFloat fraction value = value := by
  have whole : value / ulp fraction value = significand := by
    rw [div_eq_iff ulp_pos.ne', ← multiple]
  rw [roundFloat, whole, roundHalfEven_intCast, ← multiple]

/-- A value is less than `2 ^ (fraction + 1)` distances from zero. -/
theorem abs_lt_ulp (value : ℚ) :
    |value| < 2 ^ (fraction + 1) * ulp fraction value := by
  have below := Int.lt_zpow_succ_log_self Nat.one_lt_two |value|
  have scale : (2 : ℚ) ^ (fraction + 1) * ulp fraction value =
      ((2 : ℕ) : ℚ) ^ (Int.log 2 |value| + 1) := by
    rw [ulp, ← zpow_natCast, ← zpow_add₀ (by norm_num)]
    push_cast
    congr 1
    ring
  rwa [scale]

/-! ## Floats are kept -/

theorem multiple_of_le (significand exponent : ℤ)
    (coarse : Int.log 2 |value| - fraction ≤ exponent)
    (same : value = significand * 2 ^ exponent) :
    ∃ multiplier : ℤ, value = multiplier * ulp fraction value := by
  rcases Int.le.dest coarse with ⟨shift, shifted⟩
  refine ⟨significand * 2 ^ shift, ?_⟩
  calc
    value = significand * 2 ^ exponent := same
    _ = significand * (2 ^ (shift : ℤ) * ulp fraction value) := by
      rw [ulp, ← zpow_add₀ (by norm_num), ← shifted]
      ring_nf
    _ = (significand * 2 ^ shift : ℤ) * ulp fraction value := by
      push_cast
      rw [zpow_natCast]
      ring

theorem abs_mul_zpow (significand exponent : ℤ) :
    |(significand : ℚ) * 2 ^ exponent| = (|significand| : ℤ) * 2 ^ exponent := by
  have positive : (0 : ℚ) < 2 ^ exponent := zpow_pos two_pos exponent
  rw [abs_mul, abs_of_pos positive, Int.cast_abs]

/-- A value with a significand of at most `fraction + 1` digits is a float. -/
theorem roundFloat_of_significand {significand exponent : ℤ}
    (fits : |significand| ≤ 2 ^ (fraction + 1)) :
    roundFloat fraction (significand * 2 ^ exponent) = significand * 2 ^ exponent := by
  suffices multiple : ∃ multiplier : ℤ, (significand : ℚ) * 2 ^ exponent =
      multiplier * ulp fraction (significand * 2 ^ exponent) by
    rcases multiple with ⟨multiplier, multiple⟩
    exact roundFloat_of_multiple multiple
  rcases eq_or_ne significand 0 with rfl | nonzero
  · exact ⟨0, by simp⟩
  have scale : (2 : ℚ) ^ (fraction + 1 + exponent) =
      2 ^ (fraction + 1) * 2 ^ exponent := by
    rw [zpow_add₀ two_ne_zero]
    exact_mod_cast rfl
  rcases fits.lt_or_eq with below | reached
  · have positive : 0 < |(significand : ℚ) * 2 ^ exponent| :=
      abs_pos.mpr (mul_ne_zero (Int.cast_ne_zero.mpr nonzero)
        (zpow_ne_zero _ two_ne_zero))
    have logarithm : Int.log 2 |(significand : ℚ) * 2 ^ exponent| <
        fraction + 1 + exponent := by
      apply (Int.lt_zpow_iff_log_lt Nat.one_lt_two positive).mp
      rw [abs_mul_zpow, Nat.cast_two, scale]
      apply mul_lt_mul_of_pos_right _ (zpow_pos two_pos exponent)
      exact_mod_cast below
    exact multiple_of_le significand exponent (by omega) rfl
  · -- The significand is even, so the next exponent is coarse enough.
    have even : (2 : ℤ) ∣ significand := by
      rw [← dvd_abs, reached, pow_succ]
      exact dvd_mul_left _ _
    rcases even with ⟨half, rfl⟩
    have logarithm : Int.log 2 |((2 * half : ℤ) : ℚ) * 2 ^ exponent| =
        fraction + 1 + exponent := by
      have same : |((2 * half : ℤ) : ℚ) * 2 ^ exponent| =
          ((2 : ℕ) : ℚ) ^ (fraction + 1 + exponent : ℤ) := by
        rw [abs_mul_zpow, reached, Nat.cast_two, scale]
        norm_cast
      rw [same, Int.log_zpow Nat.one_lt_two]
    apply multiple_of_le half (exponent + 1) (by omega)
    push_cast
    rw [zpow_add₀ two_ne_zero]
    ring

/-- The result of rounding is a float. -/
theorem roundFloat_roundFloat (fraction : ℕ) (value : ℚ) :
    roundFloat fraction (roundFloat fraction value) = roundFloat fraction value := by
  have bound : |value / ulp fraction value| ≤ 2 ^ (fraction + 1) := by
    rw [abs_div, abs_of_pos ulp_pos, div_le_iff₀ ulp_pos]
    exact (abs_lt_ulp value).le
  have fits : |roundHalfEven (value / ulp fraction value)| ≤ 2 ^ (fraction + 1) := by
    rcases abs_le.mp bound with ⟨lower, upper⟩
    apply abs_le.mpr
    constructor
    · apply le_roundHalfEven
      exact_mod_cast lower
    · apply roundHalfEven_le
      exact_mod_cast upper
  exact roundFloat_of_significand fits

/-! ## Arithmetic -/

/-- A float with `fraction` digits behind the leading one; there are 52 in double
precision. -/
@[ext] structure Binary (fraction : ℕ) where
  value : ℚ
  isFloat : roundFloat fraction value = value
  deriving DecidableEq

namespace Binary

/-- The float nearest to a value. -/
def round (fraction : ℕ) (value : ℚ) : Binary fraction where
  value := roundFloat fraction value
  isFloat := roundFloat_roundFloat fraction value

instance : Zero (Binary fraction) where
  zero := round fraction 0

/-- Addition rounds the exact sum. -/
instance : Add (Binary fraction) where
  add left right := round fraction (left.value + right.value)

@[simp] theorem value_zero : (0 : Binary fraction).value = 0 := by
  change roundFloat fraction 0 = 0
  have kept := @roundFloat_of_significand fraction 0 0 (by simp)
  simpa using kept

theorem value_add (left right : Binary fraction) :
    (left + right).value = roundFloat fraction (left.value + right.value) := rfl

end Binary

/-! ## Sums -/

/-- Numbers added one after another. -/
def addUp {K : Type*} [Add K] [Zero K] (values : List K) : K :=
  values.foldl (· + ·) 0

theorem addUp_eq_sum {K : Type*} [AddMonoid K] (values : List K) :
    addUp values = values.sum :=
  List.sum_eq_foldl.symm

namespace Binary

/-- A whole number with at most `fraction + 1` digits. -/
def Whole (value : Binary fraction) : Prop :=
  ∃ count : ℕ, value.value = count

theorem Whole.nonneg {value : Binary fraction} (whole : value.Whole) : 0 ≤ value.value := by
  rcases whole with ⟨count, isCount⟩
  rw [isCount]
  exact Nat.cast_nonneg count

/-- Whole numbers are added exactly as long as the sum has no more digits than a float. -/
theorem value_add_of_whole {left right : Binary fraction} (leftWhole : left.Whole)
    (rightWhole : right.Whole) (fits : left.value + right.value ≤ 2 ^ (fraction + 1)) :
    (left + right).value = left.value + right.value ∧ (left + right).Whole := by
  rcases leftWhole with ⟨count, isCount⟩
  rcases rightWhole with ⟨other, isOther⟩
  have sum : left.value + right.value = ((count + other : ℕ) : ℤ) * 2 ^ (0 : ℤ) := by
    rw [isCount, isOther]
    push_cast
    ring
  have exact : (left + right).value = left.value + right.value := by
    rw [value_add, sum]
    apply roundFloat_of_significand
    rw [isCount, isOther] at fits
    rw [Nat.abs_cast]
    exact_mod_cast fits
  refine ⟨exact, count + other, ?_⟩
  rw [exact, isCount, isOther]
  exact (Nat.cast_add count other).symm

theorem sum_nonneg_of_whole {values : List (Binary fraction)}
    (whole : ∀ value ∈ values, value.Whole) : 0 ≤ (values.map Binary.value).sum := by
  apply List.sum_nonneg
  intro number member
  rcases List.mem_map.mp member with ⟨value, listed, rfl⟩
  exact (whole value listed).nonneg

theorem foldl_of_whole {start : Binary fraction} {values : List (Binary fraction)}
    (startWhole : start.Whole) (whole : ∀ value ∈ values, value.Whole)
    (fits : start.value + (values.map Binary.value).sum ≤ 2 ^ (fraction + 1)) :
    (values.foldl (· + ·) start).value = start.value + (values.map Binary.value).sum ∧
      (values.foldl (· + ·) start).Whole := by
  induction values generalizing start with
  | nil => exact ⟨by simp, startWhole⟩
  | cons first values ih =>
      rcases List.forall_mem_cons.mp whole with ⟨firstWhole, laterWhole⟩
      rw [List.map_cons, List.sum_cons, ← add_assoc] at fits
      have later := sum_nonneg_of_whole laterWhole
      rcases value_add_of_whole startWhole firstWhole (by linarith) with ⟨exact, sumWhole⟩
      rw [List.foldl_cons, List.map_cons, List.sum_cons, ← add_assoc, ← exact]
      exact ih sumWhole laterWhole (by rwa [exact])

/-- Whole numbers whose sum has no more digits than a float are added up exactly. -/
theorem addUp_of_whole {values : List (Binary fraction)}
    (whole : ∀ value ∈ values, value.Whole)
    (fits : (values.map Binary.value).sum ≤ 2 ^ (fraction + 1)) :
    (addUp values).value = (values.map Binary.value).sum ∧ (addUp values).Whole := by
  have zeroWhole : (0 : Binary fraction).Whole := ⟨0, by simp⟩
  have folded := foldl_of_whole zeroWhole whole (by simpa using fits)
  simpa [addUp] using folded

/-- Whole numbers may be added up list by list. -/
theorem addUp_flatten {lists : List (List (Binary fraction))}
    (whole : ∀ value ∈ lists.flatten, value.Whole)
    (fits : (lists.flatten.map Binary.value).sum ≤ 2 ^ (fraction + 1)) :
    addUp lists.flatten = addUp (lists.map addUp) := by
  have total : (lists.flatten.map Binary.value).sum =
      (lists.map fun values => (values.map Binary.value).sum).sum := by
    rw [List.map_flatten, List.sum_flatten, List.map_map]
    rfl
  have part : ∀ values ∈ lists,
      (addUp values).value = (values.map Binary.value).sum ∧ (addUp values).Whole := by
    intro values member
    have sublist := List.sublist_flatten_of_mem member
    have bounded : (values.map Binary.value).sum ≤ (lists.flatten.map Binary.value).sum := by
      apply (sublist.map Binary.value).sum_le_sum
      intro number inFlatten
      rcases List.mem_map.mp inFlatten with ⟨value, listed, rfl⟩
      exact (whole value listed).nonneg
    exact addUp_of_whole (fun value listed => whole value (sublist.mem listed))
      (bounded.trans fits)
  have parts : ((lists.map addUp).map Binary.value).sum =
      (lists.map fun values => (values.map Binary.value).sum).sum := by
    rw [List.map_map]
    exact congrArg List.sum
      (List.map_congr_left fun values member => (part values member).1)
  have partsWhole : ∀ value ∈ lists.map addUp, value.Whole := by
    intro value member
    rcases List.mem_map.mp member with ⟨values, listed, rfl⟩
    exact (part values listed).2
  apply Binary.ext
  rw [(addUp_of_whole whole fits).1, total, ← parts]
  exact (addUp_of_whole partsWhole (by rw [parts, ← total]; exact fits)).1.symm

end Binary

end DistributedInference.Floating
