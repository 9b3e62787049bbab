import Mathlib.Algebra.Order.Floor.Ring
import Mathlib.Data.Rat.Floor

/-!
# Python numbers

`round` on exact numbers.  A float is a rational number here; what the last bit
of a float operation does is not modelled.
-/

namespace DistributedInference.Python

/-- `round(value)`: to the nearest integer, ties to the even one. -/
def roundHalfEven (value : ℚ) : ℤ :=
  let below := value.floor
  let fraction := value - below
  if fraction < 1 / 2 then below
  else if 1 / 2 < fraction then below + 1
  else if below % 2 = 0 then below
  else below + 1

/-- `round(value, digits)`. -/
def roundTo (digits : Nat) (value : ℚ) : ℚ :=
  roundHalfEven (value * 10 ^ digits) / 10 ^ digits

/-! ## Rounding stays within integer bounds -/

theorem le_roundHalfEven {low : ℤ} {value : ℚ} (above : (low : ℚ) ≤ value) :
    low ≤ roundHalfEven value := by
  have belowFloor : low ≤ value.floor := Rat.le_floor_iff.mpr above
  simp only [roundHalfEven]
  split_ifs <;> omega

theorem roundHalfEven_le {high : ℤ} {value : ℚ} (below : value ≤ high) :
    roundHalfEven value ≤ high := by
  have floorBelow : value.floor ≤ high := by
    exact_mod_cast (Rat.floor_le value).trans below
  rcases lt_or_eq_of_le floorBelow with strict | reached
  · simp only [roundHalfEven]
    split_ifs <;> omega
  · -- At the bound there is no fraction left to round up.
    have noFraction : value - value.floor < 1 / 2 := by
      rw [reached]
      linarith
    simp only [roundHalfEven, if_pos noFraction, floorBelow]

@[simp] theorem roundHalfEven_intCast (value : ℤ) : roundHalfEven value = value :=
  le_antisymm (roundHalfEven_le le_rfl) (le_roundHalfEven le_rfl)

/-- Rounding to any number of digits keeps a value between two integers. -/
theorem roundTo_mem_Icc {low high : ℤ} {value : ℚ} (digits : Nat)
    (above : (low : ℚ) ≤ value) (below : value ≤ high) :
    (low : ℚ) ≤ roundTo digits value ∧ roundTo digits value ≤ high := by
  have scale : (0 : ℚ) < 10 ^ digits := by positivity
  have lower : low * 10 ^ digits ≤ roundHalfEven (value * 10 ^ digits) :=
    le_roundHalfEven (by push_cast; gcongr)
  have upper : roundHalfEven (value * 10 ^ digits) ≤ high * 10 ^ digits :=
    roundHalfEven_le (by push_cast; gcongr)
  constructor
  · rw [roundTo, le_div_iff₀ scale]
    exact_mod_cast lower
  · rw [roundTo, div_le_iff₀ scale]
    exact_mod_cast upper

/-! ## Rounding keeps the order -/

theorem roundHalfEven_mono {first second : ℚ} (le : first ≤ second) :
    roundHalfEven first ≤ roundHalfEven second := by
  have floors : first.floor ≤ second.floor := Rat.floor_monotone le
  rcases lt_or_eq_of_le floors with apart | same
  · have above : first ≤ (first.floor + 1 : ℤ) := by
      exact_mod_cast (Rat.lt_floor_add_one first).le
    have next : first.floor + 1 ≤ second.floor := apart
    exact (roundHalfEven_le above).trans (next.trans (le_roundHalfEven (Rat.floor_le second)))
  · -- Between the same two integers the fraction decides.
    have fractions : first - first.floor ≤ second - second.floor := by
      rw [same]
      linarith
    simp only [roundHalfEven, same] at fractions ⊢
    split_ifs <;> first | omega | linarith

theorem roundTo_mono (digits : Nat) {first second : ℚ} (le : first ≤ second) :
    roundTo digits first ≤ roundTo digits second := by
  rw [roundTo, roundTo]
  have scaled : roundHalfEven (first * 10 ^ digits) ≤ roundHalfEven (second * 10 ^ digits) :=
    roundHalfEven_mono (by gcongr)
  gcongr

-- `round(2.5) == 2`, `round(3.5) == 4` and `round(0.66666, 3) == 0.667`.
example : roundHalfEven (5 / 2) = 2 ∧ roundHalfEven (7 / 2) = 4 ∧
    roundTo 3 (66666 / 100000) = 667 / 1000 := by decide +kernel

end DistributedInference.Python
