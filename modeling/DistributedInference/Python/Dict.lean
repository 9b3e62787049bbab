import Mathlib.Data.List.Basic
import Mathlib.Data.List.Induction

/-!
# The keys of a Python dict

A dict keeps its keys in the order in which they were first set.
-/

namespace DistributedInference.Python

universe u

variable {Key : Type u} [DecidableEq Key] {keys : List Key}

/-- Setting a key: at the end, unless it is there already. -/
def setKey (keys : List Key) (key : Key) : List Key :=
  if key ∈ keys then keys else keys ++ [key]

/-- `list(dict.fromkeys(keys))`. -/
def fromKeys (keys : List Key) : List Key :=
  keys.foldl setKey []

end DistributedInference.Python
