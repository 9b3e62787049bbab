import DistributedInference.Control.Traverse
import DistributedInference.LlmEngine.Clients
import DistributedInference.LlmRouting.Verify
import Mathlib.Algebra.BigOperators.Ring.List
import Mathlib.Algebra.Order.Field.Rat
import Mathlib.Tactic.Linarith

/-!
# The routing experiment

`verify.py` deploys a model twice, with the default router and with the affinity router.
In each arm two requests with one prefix are sent together, and the prefix cache counters
are scraped before and behind them.  The exit code says whether the affinity arm reuses
more of its prompt tokens than the default arm by a margin of a quarter.

A fraction that cannot be computed is `float("nan")`, for which there is no number here;
no comparison with it holds.  Other numbers are exact: a gap within a rounding error of the
margin, such as that of 0.55 over 0.3, can fall on the other side of it in floats.
-/

namespace DistributedInference.LlmRouting

open Control Floating LlmEngine Prometheus Python

variable {float : List Char → Option ℚ}

/-! ## The script -/

/-- What ends an arm before its measurement. -/
inductive ArmError where
  /-- A request raised. -/
  | request (raised : Raised)
  /-- `float` raised. -/
  | valueError
  deriving DecidableEq

/-- What `measure_arm` meets between `serve.run` and `serve.shutdown`: its requests, and
the nodes at the two scrapes. -/
structure Arm where
  warmUps : Fin 4 → Request
  before : List Node
  first : Request
  second : Request
  after : List Node

/-- `time_to_first_token`, among the exceptions of an arm. -/
def measureRequest (request : Request) : Except ArmError (Option ℚ) :=
  (timeToFirstToken request).mapError .request

/-- `prefix_cache_counters`, among the exceptions of an arm. -/
def scrape (float : List Char → Option ℚ) (nodes : List Node) : Except ArmError (ℚ × ℚ) :=
  match prefixCacheCounters float nodes with
  | some counters => .ok counters
  | none => .error .valueError

/-- The fraction of the prompt tokens that were found in the cache. -/
def reuseFraction (before after : ℚ × ℚ) : Option ℚ :=
  let queried := after.2 - before.2
  if queried ≠ 0 then some ((after.1 - before.1) / queried) else none

/-- `max(latencies)`: the second of two only if it compares greater. -/
def slower : Option ℚ → Option ℚ → Option ℚ
  | some first, some second => if first < second then some second else some first
  | first, _ => first

/-- `measure_arm`. -/
def measureArm (float : List Char → Option ℚ) (arm : Arm) :
    Except ArmError (Option ℚ × Option ℚ) := do
  let _ ← (List.ofFn arm.warmUps).mapM measureRequest
  let before ← scrape float arm.before
  let first ← measureRequest arm.first
  let second ← measureRequest arm.second
  let after ← scrape float arm.after
  return (reuseFraction before after, slower first second)

/-- `left - right`. -/
def nanSub (left right : Option ℚ) : Option ℚ :=
  match left, right with
  | some left, some right => some (left - right)
  | _, _ => none

/-- `value > bound`. -/
def nanGt (value : Option ℚ) (bound : ℚ) : Bool :=
  value.any (bound < ·)

/-- `main`, by its exit code. -/
def exitCode (float : List Char → Option ℚ) (gpus : ℤ) (defaultArm routerArm : Arm) :
    Except ArmError Nat :=
  if gpus < 2 then .ok 0
  else do
    let (defaultReuse, _) ← measureArm float defaultArm
    let (routerReuse, _) ← measureArm float routerArm
    let gap := nanSub routerReuse defaultReuse
    if nanGt gap (1 / 4) && nanGt routerReuse (1 / 4) then .ok 0 else .ok 1

/-! ## An arm over documents -/

/-- A node, with the documents that its agent serves at the two scrapes. -/
structure Exporter (float : List Char → Option ℚ) where
  alive : Bool
  before : Document float
  after : Document float

namespace Exporter

/-- How much a counter has grown in between. -/
def growth (node : Exporter float) (name : Name) : ℚ :=
  node.after.total name - node.before.total name

/-- Both scrapes of a living node can be read. -/
def Readable (node : Exporter float) : Prop :=
  node.alive = true →
    (Legible HITS_METRIC node.before ∧ Legible QUERIES_METRIC node.before) ∧
      Legible HITS_METRIC node.after ∧ Legible QUERIES_METRIC node.after

/-- A prompt token is counted once, and it is counted as found or not. -/
def Coherent (node : Exporter float) : Prop :=
  0 ≤ node.growth HITS_METRIC ∧ node.growth HITS_METRIC ≤ node.growth QUERIES_METRIC

instance (node : Exporter float) : Decidable node.Coherent :=
  inferInstanceAs (Decidable (_ ∧ _))

end Exporter

/-- An arm whose requests return and whose nodes serve documents that can be read. -/
structure Trial (float : List Char → Option ℚ) where
  arm : Arm
  nodes : List (Exporter float)
  warms : ∀ index, ∃ ttft, timeToFirstToken (arm.warmUps index) = .ok ttft
  first : ∃ ttft, timeToFirstToken arm.first = .ok ttft
  second : ∃ ttft, timeToFirstToken arm.second = .ok ttft
  before : arm.before = (nodes.map fun node => (node.alive, node.before)).map serving
  after : arm.after = (nodes.map fun node => (node.alive, node.after)).map serving
  readable : ∀ node ∈ nodes, node.Readable

namespace Trial

def living (trial : Trial float) : List (Exporter float) :=
  trial.nodes.filter (·.alive)

/-- How much a counter has grown on all living nodes together. -/
def growth (trial : Trial float) (name : Name) : ℚ :=
  (trial.living.map (·.growth name)).sum

/-- The fraction of the prompt tokens that were reused, if there were any. -/
def reuse (trial : Trial float) : Option ℚ :=
  if trial.growth QUERIES_METRIC ≠ 0 then
    some (trial.growth HITS_METRIC / trial.growth QUERIES_METRIC)
  else none

/-- Both scrapes, one document of each node at a time. -/
theorem scrape_eq (trial : Trial float) (document : Exporter float → Document float)
    (readable : ∀ node ∈ trial.living,
      Legible HITS_METRIC (document node) ∧ Legible QUERIES_METRIC (document node)) :
    scrape float ((trial.nodes.map fun node => (node.alive, document node)).map serving) =
      .ok ((trial.living.map fun node => (document node).total HITS_METRIC).sum,
        (trial.living.map fun node => (document node).total QUERIES_METRIC).sum) := by
  have documents : aliveDocuments
      (trial.nodes.map fun node => (node.alive, document node)) =
        trial.living.map document := by
    rw [aliveDocuments, List.filter_map, List.map_map]
    rfl
  have counts : Counts (trial.nodes.map fun node => (node.alive, document node)) := by
    apply counts_iff_legible.mpr
    rw [documents]
    intro name counter
    refine ⟨?_, regroups_of_addMonoid name _⟩
    intro served member
    rcases List.mem_map.mp member with ⟨node, living, rfl⟩
    rcases List.mem_pair.mp counter with rfl | rfl
    · exact (readable node living).1
    · exact (readable node living).2
  rw [scrape, counts.counters, documents]
  simp only [sumOfSums, addUp_eq_sum, List.map_map]
  rfl

theorem growth_eq (trial : Trial float) (name : Name) :
    (trial.living.map fun node => node.after.total name).sum -
      (trial.living.map fun node => node.before.total name).sum = trial.growth name := by
  rw [growth]
  induction trial.living with
  | nil => simp
  | cons node nodes ih =>
      simp only [List.map_cons, List.sum_cons, Exporter.growth] at ih ⊢
      linarith

theorem measureRequest_ok {request : Request} {ttft : Option ℚ}
    (returned : timeToFirstToken request = .ok ttft) :
    measureRequest request = .ok ttft := by
  rw [measureRequest, returned]
  rfl

/-- An arm measures what its nodes have counted. -/
theorem measureArm_eq (trial : Trial float) :
    ∃ latency, measureArm float trial.arm = .ok (trial.reuse, latency) := by
  have readable (node : Exporter float) (living : node ∈ trial.living) :=
    trial.readable node (List.mem_filter.mp living).1 (List.mem_filter.mp living).2
  have before := trial.scrape_eq (·.before) fun node living => (readable node living).1
  have after := trial.scrape_eq (·.after) fun node living => (readable node living).2
  have warmed : ∃ ttfts, (List.ofFn trial.arm.warmUps).mapM measureRequest = .ok ttfts := by
    apply exists_mapM_eq_ok_iff.mpr
    intro request member
    rcases List.mem_ofFn.mp member with ⟨index, rfl⟩
    rcases trial.warms index with ⟨ttft, returned⟩
    exact ⟨ttft, measureRequest_ok returned⟩
  rcases warmed with ⟨ttfts, warmed⟩
  rcases trial.first with ⟨first, firstReturns⟩
  rcases trial.second with ⟨second, secondReturns⟩
  refine ⟨slower first second, ?_⟩
  rw [measureArm, warmed, trial.before, trial.after, before, after,
    measureRequest_ok firstReturns, measureRequest_ok secondReturns]
  simp only [bind, Except.bind, pure, Except.pure, reuseFraction, growth_eq]
  rfl

end Trial

/-! ## The verdict -/

/-- The two arms differ by the margin, and the affinity arm reuses more than it. -/
def Passes (defaultTrial routerTrial : Trial float) : Prop :=
  ∃ defaultReuse routerReuse, defaultTrial.reuse = some defaultReuse ∧
    routerTrial.reuse = some routerReuse ∧
    1 / 4 < routerReuse - defaultReuse ∧ 1 / 4 < routerReuse

theorem passes_iff {defaultReuse routerReuse : Option ℚ} :
    (nanGt (nanSub routerReuse defaultReuse) (1 / 4) && nanGt routerReuse (1 / 4)) = true ↔
      ∃ default router, defaultReuse = some default ∧ routerReuse = some router ∧
        1 / 4 < router - default ∧ 1 / 4 < router := by
  cases defaultReuse with
  | none => cases routerReuse <;> simp [nanSub, nanGt]
  | some default =>
      cases routerReuse with
      | none => simp [nanSub, nanGt]
      | some router => simp [nanSub, nanGt]

/-- With two GPUs the script comes to a verdict. -/
theorem exitCode_cases {gpus : ℤ} (twoReplicas : 2 ≤ gpus)
    (defaultTrial routerTrial : Trial float) :
    Passes defaultTrial routerTrial ∧
        exitCode float gpus defaultTrial.arm routerTrial.arm = .ok 0 ∨
      ¬ Passes defaultTrial routerTrial ∧
        exitCode float gpus defaultTrial.arm routerTrial.arm = .ok 1 := by
  rcases defaultTrial.measureArm_eq with ⟨defaultLatency, defaultMeasured⟩
  rcases routerTrial.measureArm_eq with ⟨routerLatency, routerMeasured⟩
  rw [Passes, ← passes_iff, exitCode, if_neg (not_lt.mpr twoReplicas), defaultMeasured,
    routerMeasured]
  simp only [bind, Except.bind]
  generalize (nanGt (nanSub routerTrial.reuse defaultTrial.reuse) (1 / 4) &&
    nanGt routerTrial.reuse (1 / 4)) = passes
  cases passes with
  | true => exact .inl ⟨rfl, rfl⟩
  | false => exact .inr ⟨Bool.false_ne_true, rfl⟩

/-- On a cluster whose counters can be read the script comes to an end, and over exact
arithmetic it succeeds exactly if there was nothing to compare or the affinity arm has
passed. -/
theorem exitCode_eq_zero_iff (gpus : ℤ) (defaultTrial routerTrial : Trial float) :
    (exitCode float gpus defaultTrial.arm routerTrial.arm = .ok 0 ↔
      gpus < 2 ∨ Passes defaultTrial routerTrial) ∧
    (exitCode float gpus defaultTrial.arm routerTrial.arm = .ok 1 ↔
      2 ≤ gpus ∧ ¬ Passes defaultTrial routerTrial) := by
  by_cases few : gpus < 2
  · have skipped : exitCode float gpus defaultTrial.arm routerTrial.arm = .ok 0 :=
      if_pos few
    simp [skipped, few]
  · have enough : 2 ≤ gpus := not_lt.mp few
    rcases exitCode_cases enough defaultTrial routerTrial with
      ⟨passes, succeeded⟩ | ⟨fails, failed⟩
    · simp [succeeded, passes]
    · simp [failed, few, fails, enough]

namespace Trial

theorem reuse_eq_some_iff {trial : Trial float} {fraction : ℚ} :
    trial.reuse = some fraction ↔ trial.growth QUERIES_METRIC ≠ 0 ∧
      fraction = trial.growth HITS_METRIC / trial.growth QUERIES_METRIC := by
  rw [reuse]
  split
  next queried => simp [queried, eq_comm]
  next nothing => simp [nothing]

/-- Coherent counters are coherent in sum. -/
theorem coherent {trial : Trial float}
    (coherent : ∀ node ∈ trial.living, node.Coherent) :
    0 ≤ trial.growth HITS_METRIC ∧
      trial.growth HITS_METRIC ≤ trial.growth QUERIES_METRIC := by
  constructor
  · apply List.sum_nonneg
    intro grown member
    rcases List.mem_map.mp member with ⟨node, living, rfl⟩
    exact (coherent node living).1
  · apply List.sum_le_sum
    intro node living
    exact (coherent node living).2

/-- A fraction of coherent counters, and what it is a fraction of. -/
theorem fraction_bounds {trial : Trial float} {fraction : ℚ}
    (coherent : ∀ node ∈ trial.living, node.Coherent)
    (reuse : trial.reuse = some fraction) :
    0 < trial.growth QUERIES_METRIC ∧ 0 ≤ fraction ∧ fraction ≤ 1 ∧
      fraction * trial.growth QUERIES_METRIC = trial.growth HITS_METRIC := by
  rcases reuse_eq_some_iff.mp reuse with ⟨queried, rfl⟩
  rcases Trial.coherent coherent with ⟨nonneg, bounded⟩
  have positive : 0 < trial.growth QUERIES_METRIC :=
    lt_of_le_of_ne (nonneg.trans bounded) (Ne.symm queried)
  exact ⟨positive, div_nonneg nonneg positive.le, (div_le_one positive).mpr bounded,
    div_mul_cancel₀ _ queried⟩

end Trial

/-- A pass that is not a skip is not an artefact: with coherent counters, one node of the
affinity arm has found more than a quarter of its own prompt tokens in its cache, and one
of the default arm has computed more than a quarter of its own. -/
theorem exists_node_of_exitCode_eq_zero {gpus : ℤ} {defaultTrial routerTrial : Trial float}
    (twoReplicas : 2 ≤ gpus)
    (defaultCoherent : ∀ node ∈ defaultTrial.living, node.Coherent)
    (routerCoherent : ∀ node ∈ routerTrial.living, node.Coherent)
    (passed : exitCode float gpus defaultTrial.arm routerTrial.arm = .ok 0) :
    (∃ node ∈ routerTrial.living,
      1 / 4 * node.growth QUERIES_METRIC < node.growth HITS_METRIC) ∧
    ∃ node ∈ defaultTrial.living,
      node.growth HITS_METRIC < 3 / 4 * node.growth QUERIES_METRIC := by
  rcases exitCode_cases twoReplicas defaultTrial routerTrial with
    ⟨passes, _⟩ | ⟨_, failed⟩
  · rcases passes with ⟨default, router, defaultReuse, routerReuse, gap, enough⟩
    rcases Trial.fraction_bounds defaultCoherent defaultReuse with
      ⟨defaultQueried, _, _, defaultHits⟩
    rcases Trial.fraction_bounds routerCoherent routerReuse with
      ⟨routerQueried, _, atMostOne, routerHits⟩
    constructor
    · apply List.exists_lt_of_sum_lt
      rw [List.sum_map_mul_left]
      change 1 / 4 * routerTrial.growth QUERIES_METRIC < routerTrial.growth HITS_METRIC
      rw [← routerHits]
      exact mul_lt_mul_of_pos_right enough routerQueried
    · apply List.exists_lt_of_sum_lt
      rw [List.sum_map_mul_left]
      change defaultTrial.growth HITS_METRIC < 3 / 4 * defaultTrial.growth QUERIES_METRIC
      rw [← defaultHits]
      exact mul_lt_mul_of_pos_right (by linarith) defaultQueried
  · cases passed.symm.trans failed

/-- A sample `queries 5`. -/
def queriesSample : Sample readDigits where
  name := QUERIES_METRIC
  labels := none
  value := ⟨['5'], 5, by simp, by decide +kernel⟩
  timestamp := none

/-- A request whose first text comes after a second. -/
def quickRequest : Request where
  start := 0
  stream := some (.chunk 1 ⟨[some "ok"]⟩ (.ended 2))

theorem timeToFirstToken_quickRequest :
    timeToFirstToken quickRequest = .ok (some 1) := by decide +kernel

/-- An arm on one node that exports nothing before its requests. -/
def oneNode (after : Document readDigits)
    (unbroken : ∀ line ∈ after, Unbroken line.body)
    (plain : ∀ name ∈ [HITS_METRIC, QUERIES_METRIC],
      ∀ entry ∈ after.samples name, entry.Plain) : Trial readDigits where
  arm := {
    warmUps := fun _ => quickRequest
    before := [serving (true, ([] : Document readDigits))]
    first := quickRequest
    second := quickRequest
    after := [serving (true, after)] }
  nodes := [⟨true, [], after⟩]
  warms _ := ⟨some 1, timeToFirstToken_quickRequest⟩
  first := ⟨some 1, timeToFirstToken_quickRequest⟩
  second := ⟨some 1, timeToFirstToken_quickRequest⟩
  before := rfl
  after := rfl
  readable := by
    intro node member _
    cases List.mem_singleton.mp member
    exact ⟨⟨List.forall_mem_nil _, List.forall_mem_nil _⟩,
      legible_of_unbroken unbroken (plain _ List.mem_cons_self),
      legible_of_unbroken unbroken (plain _ (List.mem_cons_of_mem _ List.mem_cons_self))⟩

/-- Nothing of five prompt tokens is reused. -/
def coldTrial : Trial readDigits :=
  oneNode [.sample queriesSample] (by decide +kernel) (by decide +kernel)

/-- Three of five prompt tokens are reused. -/
def warmTrial : Trial readDigits :=
  oneNode [.sample (hitsSample ['a'] none), .sample queriesSample] (by decide +kernel)
    (by decide +kernel)

theorem exitCode_warmTrial :
    exitCode readDigits 2 coldTrial.arm warmTrial.arm = .ok 0 := by decide +kernel

theorem exitCode_coldTrial :
    exitCode readDigits 2 warmTrial.arm coldTrial.arm = .ok 1 := by decide +kernel

/-- The affinity arm passes over the default arm, and not the other way around. -/
theorem exitCode_eq_zero_iff_warmTrial :
    Passes coldTrial warmTrial ∧ ¬ Passes warmTrial coldTrial := by
  have passes := (exitCode_eq_zero_iff 2 coldTrial warmTrial).1.mp exitCode_warmTrial
  have fails := (exitCode_eq_zero_iff 2 warmTrial coldTrial).2.mp exitCode_coldTrial
  exact ⟨passes.resolve_left (lt_irrefl 2), fails.2⟩

theorem exists_node_warmTrial :
    (∃ node ∈ warmTrial.living,
      1 / 4 * node.growth QUERIES_METRIC < node.growth HITS_METRIC) ∧
    ∃ node ∈ coldTrial.living,
      node.growth HITS_METRIC < 3 / 4 * node.growth QUERIES_METRIC := by
  have defaultCoherent : ∀ node ∈ coldTrial.living, node.Coherent := by decide +kernel
  have routerCoherent : ∀ node ∈ warmTrial.living, node.Coherent := by decide +kernel
  exact exists_node_of_exitCode_eq_zero le_rfl defaultCoherent routerCoherent
    exitCode_warmTrial

end DistributedInference.LlmRouting
