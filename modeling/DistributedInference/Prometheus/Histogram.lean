import Mathlib.Algebra.BigOperators.Group.List.Basic
import Mathlib.Algebra.Order.Group.Nat
import Mathlib.Order.Defs.LinearOrder

/-!
# Histograms

A histogram counts, for each of its boundaries, the observations up to it, and keeps the
number of all observations and their sum.  It is updated one observation at a time.
What it holds is a function of the multiset of observations, so concurrent observers
need not agree on an order.
-/

namespace DistributedInference.Prometheus

universe u

variable {Value : Type u}

/-- The counts of a histogram, one for each boundary. -/
structure Histogram (Value : Type u) where
  boundaries : List Value
  buckets : List Nat
  count : Nat
  sum : Value

namespace Histogram

variable [LinearOrder Value] [AddCommMonoid Value]

/-- The histogram before its first observation. -/
def empty (boundaries : List Value) : Histogram Value where
  boundaries := boundaries
  buckets := boundaries.map fun _ => 0
  count := 0
  sum := 0

/-- One observation. -/
def observe (histogram : Histogram Value) (value : Value) : Histogram Value where
  boundaries := histogram.boundaries
  buckets := List.zipWith
    (fun boundary bucket => if value ≤ boundary then bucket + 1 else bucket)
    histogram.boundaries histogram.buckets
  count := histogram.count + 1
  sum := histogram.sum + value

/-- The histogram holds these observations. -/
structure Records (histogram : Histogram Value) (boundaries values : List Value) :
    Prop where
  bounds : histogram.boundaries = boundaries
  upTo : histogram.buckets = boundaries.map fun boundary => values.countP (· ≤ boundary)
  all : histogram.count = values.length
  total : histogram.sum = values.sum

variable {histogram : Histogram Value} {boundaries values later : List Value}

theorem records_empty (boundaries : List Value) :
    (empty boundaries).Records boundaries [] where
  bounds := rfl
  upTo := by simp [empty]
  all := rfl
  total := rfl

theorem Records.observe (records : histogram.Records boundaries values) (value : Value) :
    (histogram.observe value).Records boundaries (values ++ [value]) where
  bounds := records.bounds
  upTo := by
    simp only [Histogram.observe, records.bounds, records.upTo,
      List.zipWith_map_right, List.zipWith_self, List.countP_append,
      List.countP_singleton, decide_eq_true_eq]
    apply List.map_congr_left
    intro boundary _
    split
    · rfl
    · rfl
  all := by simp [Histogram.observe, records.all]
  total := by simp [Histogram.observe, records.total]

/-- A loop of observations. -/
theorem Records.foldl (records : histogram.Records boundaries values) :
    (later.foldl Histogram.observe histogram).Records boundaries (values ++ later) := by
  induction later generalizing histogram values with
  | nil => simpa using records
  | cons value rest ih =>
      have whole := ih (records.observe value)
      rwa [List.append_assoc, List.singleton_append] at whole

/-- The order of the observations is not recorded. -/
theorem Records.perm (records : histogram.Records boundaries values)
    (permuted : values.Perm later) : histogram.Records boundaries later where
  bounds := records.bounds
  upTo := by
    rw [records.upTo]
    apply List.map_congr_left
    intro boundary _
    exact permuted.countP_eq _
  all := records.all.trans permuted.length_eq
  total := records.total.trans permuted.sum_eq

end Histogram

end DistributedInference.Prometheus
