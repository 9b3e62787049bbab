import DistributedInference.Python.Checksum
import DistributedInference.Python.Numbers
import Mathlib.Algebra.Order.Field.Rat
import Mathlib.Tactic.Positivity

/-!
# The traced graph

A request goes from `Ingress` through `Enricher` to `Scorer`, and its answer comes back
the same way.  The scorer computes a running checksum, as long as its knob has it: that
of the text so many times over.  Numbers are exact.
-/

namespace DistributedInference.Tracing

open Python

/-- `TracingArgs`, with the bounds that it is validated against. -/
structure TracingArgs where
  workIterations : Nat
  lookupLatencyS : ℚ
  workIterations_ge : 1 ≤ workIterations
  lookupLatencyS_ge : 0 ≤ lookupLatencyS

/-- The leaf of the graph. -/
structure Scorer where
  workIterations : Nat

/-- `Scorer.score`. -/
def Scorer.score (scorer : Scorer) (text : String) : ℚ :=
  let checksum := (crc32From (utf8 text))^[scorer.workIterations] 0
  ((checksum % 1000 : Nat) : ℚ) / 1000

/-- The middle hop. -/
structure Enricher where
  scorer : Scorer
  lookupLatencyS : ℚ

/-- What `enrich` returns. -/
structure Enrichment where
  text : String
  score : ℚ
  enriched : Bool
  deriving DecidableEq

/-- `Enricher.enrich`, behind its sleep. -/
def Enricher.enrich (enricher : Enricher) (text : String) : Enrichment where
  text := text
  score := enricher.scorer.score text
  enriched := true

/-- The boundary of the graph. -/
structure Ingress where
  enricher : Enricher

/-- `Ingress.score`, of the text of a request. -/
def Ingress.score (ingress : Ingress) (text : String) : Enrichment :=
  ingress.enricher.enrich text

/-- `build_app`. -/
def buildApp (args : TracingArgs) : Ingress where
  enricher :=
    { scorer := { workIterations := args.workIterations }
      lookupLatencyS := args.lookupLatencyS }

/-- The checksum behind a score is that of the text repeated. -/
theorem Scorer.score_eq (scorer : Scorer) (text : String) :
    scorer.score text =
      ((crc32 (repeated (utf8 text) scorer.workIterations) % 1000 : Nat) : ℚ) / 1000 := by
  rw [Scorer.score, iterate_crc32From]

theorem Scorer.score_mem (scorer : Scorer) (text : String) :
    0 ≤ scorer.score text ∧ scorer.score text < 1 := by
  rw [Scorer.score]
  constructor
  · positivity
  · rw [div_lt_one (by norm_num)]
    exact_mod_cast Nat.mod_lt _ (by decide)

/-- The answer of the graph is the text with the checksum of its repetitions. -/
theorem score_buildApp_eq (args : TracingArgs) (text : String) :
    (buildApp args).score text =
      { text := text
        score := ((crc32 (repeated (utf8 text) args.workIterations) % 1000 : Nat) : ℚ) / 1000
        enriched := true } := by
  simp only [Ingress.score, Enricher.enrich, buildApp, Scorer.score_eq]

end DistributedInference.Tracing
