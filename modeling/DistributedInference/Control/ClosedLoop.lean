import DistributedInference.Transition.System
import Mathlib.Algebra.BigOperators.Group.List.Basic
import Mathlib.Algebra.Order.Ring.Nat
import Mathlib.Order.Interval.Set.OrdConnected
import Mathlib.Order.Lattice.Nat

/-!
# Closed loops

A controller sees a reading, the present count and the memory that its last decision
left behind, and names a target.  The plant clamps the target to its bounds and moves
the count toward it, at a pace of its own: it may hold the count, go part of the way, or
arrive at once.  What the count does over a run then follows from what the clamped target
is in one tick.
-/

namespace DistributedInference.Control

open Transition

universe u v w

variable {Reading : Type u} {Memory : Type v}

/-- A plant between two ticks. -/
structure Plant (Memory : Type v) where
  count : Nat
  memory : Option Memory

/-- What the environment decides in a tick: the reading, and where the count goes. -/
structure Tick (Reading : Type u) where
  reading : Reading
  count : Nat

/-- A controller in a loop. -/
abbrev LoopController (Reading : Type u) (Memory : Type v) :=
  Reading → Nat → Option Memory → ℤ × Memory

/-- The bounds applied around a target. -/
def clamp (lo hi : Nat) (target : ℤ) : Nat := max lo (min hi target.toNat)

section Clamp

variable {lo hi count : Nat} {target : ℤ}

theorem lo_le_clamp : lo ≤ clamp lo hi target := le_max_left _ _

theorem clamp_le_hi (ordered : lo ≤ hi) : clamp lo hi target ≤ hi :=
  max_le ordered (min_le_left _ _)

theorem clamp_mono {larger : ℤ} (le : target ≤ larger) :
    clamp lo hi target ≤ clamp lo hi larger :=
  max_le_max le_rfl (min_le_min le_rfl (Int.toNat_le_toNat le))

theorem clamp_le (above : lo ≤ count) (le : target ≤ count) : clamp lo hi target ≤ count :=
  max_le above ((min_le_right _ _).trans (Int.toNat_le.mpr le))

theorem le_clamp (below : count ≤ hi) (le : count ≤ target) : count ≤ clamp lo hi target :=
  le_max_of_le_right (le_min below (by omega))

end Clamp

section Loop

variable (controller : LoopController Reading Memory) (lo hi : Nat)

/-- Where the plant is asked to go. -/
def aim (plant : Plant Memory) (reading : Reading) : Nat :=
  clamp lo hi (controller reading plant.count plant.memory).1

/-- The loop, at any pace. -/
def closedLoop (start : Plant Memory) : System (Plant Memory) (Tick Reading) where
  Initial plant := plant = start
  Step before tick after :=
    tick.count ∈ Set.uIcc before.count (aim controller lo hi before tick.reading) ∧
    after.count = tick.count ∧
    after.memory = some (controller tick.reading before.count before.memory).2

/-- The tick of a plant that arrives at once. -/
def prompt (plant : Plant Memory) (reading : Reading) : Plant Memory where
  count := aim controller lo hi plant reading
  memory := some (controller reading plant.count plant.memory).2

end Loop

variable {controller : LoopController Reading Memory} {lo hi : Nat}
variable {start before after : Plant Memory} {ticks : List (Tick Reading)}

/-- A convex set that contains the count and every clamped target is not left. -/
theorem count_mem_of_run (allowed : Set Nat) (convex : allowed.OrdConnected)
    (aims : ∀ plant : Plant Memory, ∀ tick ∈ ticks, plant.count ∈ allowed →
      aim controller lo hi plant tick.reading ∈ allowed)
    (run : (closedLoop controller lo hi start).Run before ticks after)
    (inside : before.count ∈ allowed) : after.count ∈ allowed := by
  induction run with
  | nil => exact inside
  | cons taken _ ih =>
      rcases taken with ⟨between, arrived, _⟩
      have target := aims _ _ List.mem_cons_self inside
      apply ih
      · exact fun plant tick member => aims plant tick (List.mem_cons_of_mem _ member)
      · exact arrived ▸ convex.uIcc_subset inside target between

/-- While what holds of the plant fixes the aim, the count goes toward it and not past
it. -/
theorem count_mem_uIcc_of_run (goal : Nat) (steady : Plant Memory → Prop)
    (aims : ∀ plant : Plant Memory, ∀ tick ∈ ticks, steady plant →
      aim controller lo hi plant tick.reading = goal)
    (keeps : ∀ plant : Plant Memory, ∀ tick ∈ ticks, steady plant → ∀ count,
      steady ⟨count, some (controller tick.reading plant.count plant.memory).2⟩)
    (run : (closedLoop controller lo hi start).Run before ticks after)
    (holds : steady before) :
    after.count ∈ Set.uIcc before.count goal ∧ steady after := by
  induction run with
  | nil => exact ⟨Set.left_mem_uIcc, holds⟩
  | @cons before middle after tick ticks taken _ ih =>
      rcases taken with ⟨between, arrived, remembered⟩
      have steadyMiddle : steady middle := by
        have kept := keeps before tick List.mem_cons_self holds middle.count
        rwa [← remembered] at kept
      have toward : middle.count ∈ Set.uIcc before.count goal := by
        rw [← aims before tick List.mem_cons_self holds, arrived]
        exact between
      have later := ih
        (fun plant tick member => aims plant tick (List.mem_cons_of_mem _ member))
        (fun plant tick member => keeps plant tick (List.mem_cons_of_mem _ member))
        steadyMiddle
      exact ⟨Set.uIcc_subset_uIcc toward Set.right_mem_uIcc later.1, later.2⟩

/-- The bounds are kept, whatever the controller asks for. -/
theorem count_bounds_of_run (run : (closedLoop controller lo hi start).Run before ticks after)
    (ordered : lo ≤ hi) (inside : lo ≤ before.count ∧ before.count ≤ hi) :
    lo ≤ after.count ∧ after.count ≤ hi :=
  count_mem_of_run (Set.Icc lo hi) Set.ordConnected_Icc
    (fun _ _ _ _ => ⟨lo_le_clamp, clamp_le_hi ordered⟩) run inside

/-- The count gains no more than the ticks allow together. -/
theorem count_le_add_of_run (gain : Reading → Nat) (ordered : lo ≤ hi)
    (bounded : ∀ plant : Plant Memory, ∀ reading, lo ≤ plant.count → plant.count ≤ hi →
      aim controller lo hi plant reading ≤ plant.count + gain reading)
    (run : (closedLoop controller lo hi start).Run before ticks after)
    (inside : lo ≤ before.count ∧ before.count ≤ hi) :
    after.count ≤ before.count + (ticks.map fun tick => gain tick.reading).sum := by
  induction run with
  | nil => simp
  | @cons before middle after tick ticks taken rest ih =>
      rcases taken with ⟨between, arrived, memory⟩
      have here := bounded before tick.reading inside.1 inside.2
      have upper := between.2
      have first : (closedLoop controller lo hi start).Run before [tick] middle :=
        .single ⟨between, arrived, memory⟩
      have later := ih (count_bounds_of_run first ordered inside)
      rw [List.map_cons, List.sum_cons]
      simp only [le_sup_iff] at upper
      omega

/-- And loses no more. -/
theorem count_le_of_run_add (loss : Reading → Nat) (ordered : lo ≤ hi)
    (bounded : ∀ plant : Plant Memory, ∀ reading, lo ≤ plant.count → plant.count ≤ hi →
      plant.count ≤ aim controller lo hi plant reading + loss reading)
    (run : (closedLoop controller lo hi start).Run before ticks after)
    (inside : lo ≤ before.count ∧ before.count ≤ hi) :
    before.count ≤ after.count + (ticks.map fun tick => loss tick.reading).sum := by
  induction run with
  | nil => simp
  | @cons before middle after tick ticks taken rest ih =>
      rcases taken with ⟨between, arrived, memory⟩
      have here := bounded before tick.reading inside.1 inside.2
      have lower := between.1
      have first : (closedLoop controller lo hi start).Run before [tick] middle :=
        .single ⟨between, arrived, memory⟩
      have later := ih (count_bounds_of_run first ordered inside)
      rw [List.map_cons, List.sum_cons]
      simp only [inf_le_iff] at lower
      omega

/-- The prompt pace is one of the paces. -/
theorem run_prompt (readings : List Reading) (plant : Plant Memory) :
    ∃ ticks, ticks.map Tick.reading = readings ∧
      (closedLoop controller lo hi start).Run plant ticks
        (readings.foldl (prompt controller lo hi) plant) := by
  induction readings generalizing plant with
  | nil => exact ⟨[], rfl, .nil plant⟩
  | cons reading rest ih =>
      rcases ih (prompt controller lo hi plant reading) with ⟨ticks, same, run⟩
      refine ⟨⟨reading, aim controller lo hi plant reading⟩ :: ticks, ?_, ?_⟩
      · rw [List.map_cons, same]
      · exact .cons ⟨Set.right_mem_uIcc, rfl, rfl⟩ run

/-- Two prompt loops stay in order when every pair of readings keeps their aims in
order. -/
theorem prompt_le_prompt {Other : Type w} {otherController : LoopController Reading Other}
    (related : Reading → Reading → Prop) (ordered : lo ≤ hi)
    (aims : ∀ (plant : Plant Memory) (other : Plant Other) (reading later : Reading),
      related reading later → lo ≤ plant.count → other.count ≤ hi →
      plant.count ≤ other.count →
      aim controller lo hi plant reading ≤ aim otherController lo hi other later)
    {readings others : List Reading} (pairwise : List.Forall₂ related readings others)
    {plant : Plant Memory} {other : Plant Other} (aboveLo : lo ≤ plant.count)
    (belowHi : other.count ≤ hi) (le : plant.count ≤ other.count) :
    (readings.foldl (prompt controller lo hi) plant).count ≤
      (others.foldl (prompt otherController lo hi) other).count := by
  induction pairwise generalizing plant other with
  | nil => exact le
  | cons pair _ ih =>
      apply ih
      · exact lo_le_clamp
      · exact clamp_le_hi ordered
      · exact aims _ _ _ _ pair aboveLo belowHi le

end DistributedInference.Control
