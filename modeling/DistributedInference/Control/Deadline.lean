import Mathlib.Order.Lattice
import Mathlib.Order.Monotone.Basic

/-!
# Attempts before a deadline

A loop makes one attempt after another.  It stops at the first attempt that
succeeds, or when the next one would not start before the deadline.  Whether it
succeeds depends on the attempts that start before the deadline and on nothing that
happens after the last of them.
-/

namespace DistributedInference.Control

universe u v

variable {Time : Type u} [LinearOrder Time] {Result : Type v}
variable {deadline : Time} {startAt : Nat → Time} {attempt : Nat → Option Result}
variable {fuel count : Nat}

/-- The attempts from `count` on, at most `fuel` rounds of the loop.  The outer
option is empty if the rounds did not suffice, the inner one if the deadline came
first. -/
def attempts (deadline : Time) (startAt : Nat → Time) (attempt : Nat → Option Result) :
    (fuel count : Nat) → Option (Option Result)
  | 0, _ => none
  | fuel + 1, count =>
      if startAt count < deadline then
        match attempt count with
        | some result => some (some result)
        | none => attempts deadline startAt attempt fuel (count + 1)
      else some none

/-- A result is that of an attempt which started before the deadline. -/
theorem exists_of_attempts {result : Result}
    (found : attempts deadline startAt attempt fuel count = some (some result)) :
    ∃ index, startAt index < deadline ∧ attempt index = some result := by
  induction fuel generalizing count with
  | zero => cases found
  | succ fuel ih =>
      rw [attempts] at found
      split at found
      next before =>
        cases tried : attempt count with
        | some first =>
            rw [tried] at found
            cases found
            exact ⟨count, before, tried⟩
        | none =>
            rw [tried] at found
            exact ih found
      next => cases found

/-- If the deadline comes first, every attempt that starts before it fails. -/
theorem failed_of_attempts (monotone : Monotone startAt)
    (gaveUp : attempts deadline startAt attempt fuel count = some none)
    {index : Nat} (later : count ≤ index) (before : startAt index < deadline) :
    attempt index = none := by
  induction fuel generalizing count with
  | zero => cases gaveUp
  | succ fuel ih =>
      rw [attempts] at gaveUp
      split at gaveUp
      next =>
        cases tried : attempt count with
        | some first =>
            rw [tried] at gaveUp
            cases gaveUp
        | none =>
            rw [tried] at gaveUp
            rcases Nat.eq_or_lt_of_le later with same | beyond
            · exact same ▸ tried
            · exact ih gaveUp beyond
      next passed => exact absurd ((monotone later).trans_lt before) passed

/-- A deadline that is reached ends the loop. -/
theorem exists_attempts {last : Nat} (reached : deadline ≤ startAt last)
    (ahead : count ≤ last) :
    ∃ fuel outcome, attempts deadline startAt attempt fuel count = some outcome := by
  induction ahead using Nat.decreasingInduction with
  | self => exact ⟨1, none, if_neg reached.not_gt⟩
  | of_succ count _ ih =>
      by_cases before : startAt count < deadline
      · cases tried : attempt count with
        | some result => exact ⟨1, some result, by rw [attempts, if_pos before, tried]⟩
        | none =>
            rcases ih with ⟨fuel, outcome, ended⟩
            exact ⟨fuel + 1, outcome, by rw [attempts, if_pos before, tried, ← ended]⟩
      · exact ⟨1, none, if_neg before⟩

end DistributedInference.Control
