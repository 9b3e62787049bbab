import Mathlib.Tactic.TypeStar

/-!
# Controllers with a memory

A controller is asked once per tick.  It decides on a reading and on the memory
that its last decision left behind, if there was one.
-/

namespace DistributedInference.Control

variable {Reading Memory Decision : Type*}
variable {controller : Reading → Option Memory → Decision × Memory}
variable {reading : Reading} {memory : Option Memory}

/-- The tick that follows `count` others while the reading stands still. -/
def held (controller : Reading → Option Memory → Decision × Memory)
    (reading : Reading) (memory : Option Memory) : Nat → Decision × Memory
  | 0 => controller reading memory
  | count + 1 => controller reading (some (held controller reading memory count).2)

/-- As long as the reading stands still, so does the decision. -/
def Stable (controller : Reading → Option Memory → Decision × Memory)
    (reading : Reading) (memory : Option Memory) : Prop :=
  ∀ count, (held controller reading memory count).1 = (controller reading memory).1

/-- The memory of a held tick is one that the controller leaves on this reading. -/
theorem exists_held_memory (count : Nat) :
    ∃ earlier, (held controller reading memory count).2 =
      (controller reading earlier).2 := by
  cases count with
  | zero => exact ⟨memory, rfl⟩
  | succ count => exact ⟨_, rfl⟩

/-- If seeing a reading again always leads to one decision, the first decision is
stable exactly if it is that one. -/
theorem stable_iff_of_settles (settled : Decision)
    (settles : ∀ earlier,
      (controller reading (some (controller reading earlier).2)).1 = settled) :
    Stable controller reading memory ↔ (controller reading memory).1 = settled := by
  constructor
  · intro stable
    rw [← stable 1]
    exact settles memory
  · intro first count
    cases count with
    | zero => rfl
    | succ count =>
        rcases @exists_held_memory _ _ _ controller reading memory count with
          ⟨earlier, same⟩
        rw [held, same, settles earlier, first]

end DistributedInference.Control
