import DistributedInference.Transition.System
import Mathlib.Algebra.Order.Ring.Int
import Mathlib.Logic.Function.Basic

/-!
# Loads that stay close

A balancer adds one unit of load at a time, to a key that is less than `bound`
above every key.  Then no two keys are ever more than `bound` apart.
-/

namespace DistributedInference.Balancing

open Transition

universe u

variable {Key : Type u} {keys : List Key} {bound : ℤ} {loads : Key → Nat}

/-- No two keys are more than `bound` apart. -/
def Spread (keys : List Key) (bound : ℤ) (loads : Key → Nat) : Prop :=
  ∀ one ∈ keys, ∀ other ∈ keys, (loads one : ℤ) - loads other ≤ bound

/-- The key is less than `bound` above every key. -/
def HasRoom (keys : List Key) (bound : ℤ) (loads : Key → Nat) (key : Key) : Prop :=
  ∀ other ∈ keys, (loads key : ℤ) - loads other < bound

variable [DecidableEq Key]

/-- One more unit of load on a key. -/
def increment (loads : Key → Nat) (key : Key) : Key → Nat :=
  Function.update loads key (loads key + 1)

theorem increment_self (loads : Key → Nat) (key : Key) :
    increment loads key key = loads key + 1 :=
  Function.update_self _ _ _

theorem increment_of_ne {key other : Key} (differs : other ≠ key) :
    increment loads key other = loads other :=
  Function.update_of_ne differs _ _

theorem le_increment (loads : Key → Nat) (key other : Key) :
    loads other ≤ increment loads key other := by
  by_cases same : other = key
  · rw [same, increment_self]
    exact Nat.le_succ _
  · exact (increment_of_ne same).ge

theorem Spread.increment (spread : Spread keys bound loads) {key : Key}
    (room : HasRoom keys bound loads key) :
    Spread keys bound (increment loads key) := by
  intro one oneMember other otherMember
  have grown := le_increment loads key other
  by_cases same : one = key
  · subst same
    have below := room other otherMember
    rw [increment_self]
    omega
  · have before := spread one oneMember other otherMember
    rw [increment_of_ne same]
    omega

/-- The balancer, from no load on. -/
def system (keys : List Key) (bound : ℤ) : System (Key → Nat) Key where
  Initial loads := loads = fun _ => 0
  Step loads key next := HasRoom keys bound loads key ∧ next = increment loads key

theorem spread_of_reachable (bound_nonneg : 0 ≤ bound)
    (reachable : (system keys bound).Reachable loads) :
    Spread keys bound loads := by
  apply reachable.invariant (Spread keys bound)
  · intro loads initial one _ other _
    rw [initial]
    simpa using bound_nonneg
  · intro loads key next _ spread taken
    rw [taken.2]
    exact spread.increment taken.1

end DistributedInference.Balancing
