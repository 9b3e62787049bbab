import Mathlib.Data.List.AList

/-!
# Memo tables

A table from keys to values that is only ever filled with the values of one
function can be read instead of the function.
-/

namespace DistributedInference.Caching

universe u v

variable {Key : Type u} {Value : Type v} [DecidableEq Key]
variable {table : AList fun _ : Key => Value} {function : Key → Value}

/-- Every entry of the table is the value of the function at its key. -/
def Memoizes (table : AList fun _ : Key => Value) (function : Key → Value) : Prop :=
  ∀ key value, table.lookup key = some value → value = function key

theorem memoizes_empty :
    Memoizes (∅ : AList fun _ : Key => Value) function := by
  intro key value found
  rw [AList.lookup_empty] at found
  contradiction

/-- Filling in a value of the function, whether or not its key is there already. -/
theorem Memoizes.insert (memoizes : Memoizes table function) (key : Key) :
    Memoizes (table.insert key (function key)) function := by
  intro query value found
  by_cases same : query = key
  · subst same
    rw [AList.lookup_insert] at found
    exact (Option.some.inj found).symm
  · rw [AList.lookup_insert_ne same] at found
    exact memoizes query value found

theorem length_keys_insert_le (key : Key) (value : Value) :
    (table.insert key value).keys.length ≤ table.keys.length + 1 := by
  rw [AList.keys_insert, List.length_cons]
  exact Nat.succ_le_succ List.length_erase_le

end DistributedInference.Caching
