import DistributedInference.Prometheus.Exposition
import DistributedInference.Python.Lines
import Mathlib.Algebra.Order.BigOperators.Group.List
import Mathlib.Algebra.Order.Group.Nat
import Mathlib.Algebra.Order.Ring.Rat

/-!
# Scraping the prefix cache counters

`verify.py` reads two counters from the metrics agents of the nodes.  `_sum_metric`
cuts the text into lines with `splitlines`, keeps those that start with the name and a
brace or a blank, and takes what is behind the last blank for the value.

`float` is a parameter, as are its numbers.  Nothing is assumed of their addition, which
rounds: a sum is added up in the order of its values, and sums of sums need not agree.
-/

namespace DistributedInference.LlmRouting

open Floating Prometheus Python

universe u

variable {K : Type u} [Add K] [Zero K] {float : List Char → Option K}

/-! ## The script -/

/-- The body of the loop of `_sum_metric`. -/
def addLine (float : List Char → Option K) (name : List Char) (total : K)
    (line : List Char) : Option K :=
  if ¬name <+: line then some total
  -- The companions of a counter, such as `*_created`, go on after its name.
  else if (line.drop name.length).take 1 ∉ [['\x7b'], [' ']] then some total
  else do
    let value ← float (lastField ' ' line)
    return total + value

/-- `_sum_metric`; there is no sum if `float` raises a `ValueError`. -/
def sumMetric (float : List Char → Option K) (text name : List Char) : Option K :=
  (splitlines text).foldlM (addLine float name) 0

def HITS_METRIC : Name where
  first := 'r'
  rest := "ay_vllm_prefix_cache_hits_total".toList
  startsName := rfl
  valid := by decide

def QUERIES_METRIC : Name where
  first := 'r'
  rest := "ay_vllm_prefix_cache_queries_total".toList
  startsName := rfl
  valid := by decide

/-- A node of `ray.nodes()`, with what its metrics agent serves. -/
structure Node where
  alive : Bool
  metrics : List Char

/-- `prefix_cache_counters`. -/
def prefixCacheCounters (float : List Char → Option K) (nodes : List Node) :
    Option (K × K) := do
  let text := (nodes.filter (·.alive)).flatMap (·.metrics)
  let hits ← sumMetric float text HITS_METRIC.characters
  let queries ← sumMetric float text QUERIES_METRIC.characters
  return (hits, queries)

/-! ## The pieces that are read -/

/-- A piece of the text that `_sum_metric` does not skip. -/
def StartsSample (name piece : List Char) : Prop :=
  name <+: piece ∧ (piece.drop name.length).take 1 ∈ [['\x7b'], [' ']]

instance (name piece : List Char) : Decidable (StartsSample name piece) :=
  inferInstanceAs (Decidable (_ ∧ _))

/-- The literals that `_sum_metric` passes to `float`. -/
def readings (name : List Char) (pieces : List (List Char)) : List (List Char) :=
  (pieces.filter fun piece => StartsSample name piece).map (lastField ' ')

omit [Add K] [Zero K] in
theorem startsSample_iff {name piece : List Char} :
    StartsSample name piece ↔
      ∃ next rest, piece = name ++ next :: rest ∧ next ∈ ['\x7b', ' '] := by
  constructor
  · intro starts
    rcases starts with ⟨⟨later, rfl⟩, follows⟩
    rw [List.drop_left] at follows
    cases later with
    | nil => simp at follows
    | cons next rest => exact ⟨next, rest, rfl, by simpa using follows⟩
  · intro starts
    rcases starts with ⟨next, rest, rfl, follows⟩
    refine ⟨List.prefix_append _ _, ?_⟩
    rw [List.drop_left]
    simpa using follows

omit [Zero K] in
/-- If the literals that are read stand for numbers, these are added up. -/
theorem foldlM_addLine {name : List Char} {pieces : List (List Char)} {values : List K}
    (read : (readings name pieces).map float = values.map some) (total : K) :
    pieces.foldlM (addLine float name) total = some (values.foldl (· + ·) total) := by
  induction pieces generalizing total values with
  | nil =>
      cases List.map_eq_nil_iff.mp read.symm
      rfl
  | cons piece pieces ih =>
      rw [List.foldlM_cons]
      by_cases starts : StartsSample name piece
      · rw [readings, List.filter_cons_of_pos (by simpa using starts), List.map_cons,
          List.map_cons] at read
        rcases List.map_eq_cons_iff.mp read.symm with ⟨value, values, rfl, first, later⟩
        have added : addLine float name total piece = some (total + value) := by
          rw [addLine, if_neg (not_not.mpr starts.1), if_neg (not_not.mpr starts.2),
            ← first]
          rfl
        rw [added]
        exact ih later.symm _
      · rw [readings, List.filter_cons_of_neg (by simpa using starts)] at read
        have skipped : addLine float name total piece = some total := by
          rw [addLine]
          split
          next => rfl
          next isPrefix =>
            apply if_pos
            intro follows
            exact starts ⟨not_not.mp isPrefix, follows⟩
        rw [skipped]
        exact ih read _

/-! ## The lines of a document -/

/-- The pieces that `splitlines` makes of a line. -/
def pieces (line : Line float) : List (List Char) :=
  splitlines (line.body ++ ['\n'])

/-- A line from which `_sum_metric` reads what the line says.  A sample of the metric has
no blanks in front of its name and a brace or a blank behind it, and behind the last blank
of its first piece `float` reads its value; nothing that is cut off the end of the line
starts like a sample of the metric. -/
structure LegibleLine (name : Name) (line : Line float) : Prop where
  starts : ∀ entry, line.sampleOf name = some entry →
    StartsSample name.characters line.body
  value : ∀ entry, line.sampleOf name = some entry →
    ∀ first ∈ (pieces line).head?, float (lastField ' ' first) = some entry.value.number
  tail : ∀ piece ∈ (pieces line).tail, ¬StartsSample name.characters piece

def Legible (name : Name) (document : Document float) : Prop :=
  ∀ line ∈ document, LegibleLine name line

/-- From the start of a line the value of its sample is read, if it is one of the metric,
and nothing from what is cut off its end. -/
structure ReadsLine (name : Name) (line : Line float) : Prop where
  start : (readings name.characters ((pieces line).take 1)).map float =
    ((line.sampleOf name).map fun entry => some entry.value.number).toList
  rest : readings name.characters (pieces line).tail = []

section

variable {name : Name} {line : Line float} {document : Document float}

omit [Add K] [Zero K]

/-- Only a sample of the metric starts like one. -/
theorem exists_sampleOf (starts : StartsSample name.characters line.body) :
    ∃ entry, line.sampleOf name = some entry := by
  rcases startsSample_iff.mp starts with ⟨next, rest, same, follows⟩
  have noName : isNameCharacter next = false := by
    rcases List.mem_pair.mp follows with rfl | rfl <;> rfl
  exact Line.exists_sample_of_body same noName

theorem isLineBoundary_of_isNameCharacter {character : Char}
    (named : isNameCharacter character = true) : isLineBoundary character = false := by
  cases boundary : isLineBoundary character with
  | false => rfl
  | true =>
      have noName : ['\n', '\r', '\x0b', '\x0c', '\x1c', '\x1d', '\x1e', '\u0085',
          '\u2028', '\u2029'].all (fun other => !isNameCharacter other) = true := by
        decide
      have unnamed := List.all_eq_true.mp noName character (of_decide_eq_true boundary)
      rw [named] at unnamed
      cases unnamed

/-- The first piece starts like a sample if the line does. -/
theorem startsSample_first_iff {first : List Char} {later : List (List Char)}
    (split : pieces line = first :: later) :
    StartsSample name.characters first ↔ StartsSample name.characters line.body := by
  constructor
  · intro starts
    rcases exists_splitlines_eq_cons line.body with ⟨piece, others, cut, more, whole⟩
    cases split.symm.trans cut
    rcases startsSample_iff.mp starts with ⟨next, rest, same, follows⟩
    refine startsSample_iff.mpr ⟨next, rest ++ more, ?_, follows⟩
    rw [← whole, same, List.append_assoc, List.cons_append]
  · intro starts
    rcases startsSample_iff.mp starts with ⟨next, rest, same, follows⟩
    have plain : isLineBoundary next = false := by
      rcases List.mem_pair.mp follows with rfl | rfl <;> rfl
    have unbroken : Unbroken (name.characters ++ [next]) := by
      intro character member
      rcases List.mem_append.mp member with inName | isNext
      · exact isLineBoundary_of_isNameCharacter (Name.isNameCharacter_of_mem inName)
      · exact List.mem_singleton.mp isNext ▸ plain
    rcases exists_splitlines_append unbroken rest with ⟨piece, others, cut⟩
    have whole : line.body ++ ['\n'] =
        (name.characters ++ [next]) ++ (rest ++ ['\n']) := by
      rw [same]
      simp
    rw [pieces, whole, cut] at split
    cases split
    exact startsSample_iff.mpr ⟨next, piece, by simp, follows⟩

theorem readings_eq_nil_iff {pieces : List (List Char)} {name : List Char} :
    readings name pieces = [] ↔ ∀ piece ∈ pieces, ¬StartsSample name piece := by
  rw [readings, List.map_eq_nil_iff, List.filter_eq_nil_iff]
  simp

theorem readings_append (name : List Char) (left right : List (List Char)) :
    readings name (left ++ right) = readings name left ++ readings name right := by
  simp only [readings, List.filter_append, List.map_append]

/-- The legible lines are those from which what they say is read. -/
theorem readsLine_iff : ReadsLine name line ↔ LegibleLine name line := by
  rcases exists_splitlines_eq_cons line.body with ⟨first, later, split, _⟩
  have cut : pieces line = first :: later := split
  have starts := @startsSample_first_iff _ _ name line _ _ cut
  have start : (readings name.characters ((pieces line).take 1)).map float =
      if StartsSample name.characters line.body then [float (lastField ' ' first)]
      else [] := by
    rw [cut, readings]
    by_cases inFirst : StartsSample name.characters line.body
    · simp [starts, inFirst]
    · simp [starts, inFirst]
  constructor
  · intro reads
    have same := start.symm.trans reads.start
    constructor
    · intro entry sampled
      apply Classical.by_contradiction
      intro skipped
      rw [if_neg skipped, sampled] at same
      cases same
    · intro entry sampled piece isFirst
      rw [cut] at isFirst
      cases isFirst
      rw [sampled] at same
      split at same
      next => exact (List.cons.inj same).1
      next => cases same
    · exact readings_eq_nil_iff.mp reads.rest
  · intro legible
    refine ⟨?_, readings_eq_nil_iff.mpr legible.tail⟩
    rw [start]
    cases sampled : line.sampleOf name with
    | some entry =>
        rw [if_pos (legible.starts entry sampled)]
        exact congrArg ([·]) (legible.value entry sampled first (by rw [cut]; rfl))
    | none =>
        apply if_neg
        intro lineStarts
        rcases exists_sampleOf lineStarts with ⟨entry, found⟩
        cases sampled.symm.trans found

/-- All that is read from a legible line. -/
theorem readings_pieces (legible : LegibleLine name line) :
    (readings name.characters (pieces line)).map float =
      ((line.sampleOf name).map fun entry => some entry.value.number).toList := by
  have reads := readsLine_iff.mpr legible
  rw [← List.take_append_drop 1 (pieces line), readings_append, List.drop_one, reads.rest,
    List.append_nil, reads.start]

theorem readings_document (name : Name) (document : Document float) :
    readings name.characters (splitlines document.text) =
      document.flatMap fun line => readings name.characters (pieces line) := by
  rw [Document.text, splitlines_flatMap]
  induction document with
  | nil => rfl
  | cons line document ih =>
      rw [List.map_cons, List.flatMap_cons, readings_append, ih, List.flatMap_cons]
      rfl

/-- From a legible document the values of the metric are read. -/
theorem readings_legible (legible : Legible name document) :
    (readings name.characters (splitlines document.text)).map float =
      (document.values name).map some := by
  rw [readings_document, Document.values, Document.samples]
  induction document with
  | nil => rfl
  | cons line document ih =>
      rcases List.forall_mem_cons.mp legible with ⟨first, later⟩
      rw [List.flatMap_cons, List.map_append, ih later, readings_pieces first,
        List.filterMap_cons]
      cases line.sampleOf name with
      | none => rfl
      | some entry => rfl

end

/-! ## The sums -/

/-- A legible document is summed up. -/
theorem sumMetric_text {name : Name} {document : Document float}
    (legible : Legible name document) :
    sumMetric float document.text name.characters = some (document.total name) :=
  foldlM_addLine (readings_legible legible) 0

omit [Add K] [Zero K] in
theorem text_flatten (documents : List (Document float)) :
    documents.flatMap Document.text = Document.text documents.flatten := by
  induction documents with
  | nil => rfl
  | cons document documents ih =>
      rw [List.flatMap_cons, ih, List.flatten_cons]
      simp only [Document.text, List.map_append, List.flatMap_append]

omit [Add K] [Zero K] in
theorem values_flatten (name : Name) (documents : List (Document float)) :
    Document.values documents.flatten name =
      (documents.map (Document.values · name)).flatten := by
  induction documents with
  | nil => rfl
  | cons document documents ih =>
      rw [List.flatten_cons, List.map_cons, List.flatten_cons, ← ih]
      simp only [Document.values, Document.samples, List.filterMap_append,
        List.map_append]

/-- The sums of the documents, added up. -/
def sumOfSums (documents : List (Document float)) (name : Name) : K :=
  addUp (documents.map (Document.total · name))

/-- The values of all documents, added up one after another, give the sum of the sums of
the documents. -/
def Regroups (name : Name) (documents : List (Document float)) : Prop :=
  Document.total documents.flatten name = sumOfSums documents name

/-- A node that serves a document. -/
def serving (node : Bool × Document float) : Node where
  alive := node.1
  metrics := node.2.text

/-- The documents of the nodes that are alive. -/
def aliveDocuments (nodes : List (Bool × Document float)) : List (Document float) :=
  (nodes.filter (·.1)).map Prod.snd

omit [Add K] [Zero K] in
theorem metrics_serving (nodes : List (Bool × Document float)) :
    ((nodes.map serving).filter (·.alive)).flatMap (·.metrics) =
      Document.text (aliveDocuments nodes).flatten := by
  rw [← text_flatten, aliveDocuments, List.filter_map, List.flatMap_map,
    List.flatMap_map]
  rfl

/-- `prefix_cache_counters` reads exactly the samples of the two counters and returns
the sums of the sums of the nodes. -/
structure Counts (nodes : List (Bool × Document float)) : Prop where
  reads : ∀ name ∈ [HITS_METRIC, QUERIES_METRIC], ∀ document ∈ aliveDocuments nodes,
    ∀ line ∈ document, ReadsLine name line
  counters : prefixCacheCounters float (nodes.map serving) = some
    (sumOfSums (aliveDocuments nodes) HITS_METRIC,
      sumOfSums (aliveDocuments nodes) QUERIES_METRIC)

omit [Add K] [Zero K] in
theorem legible_flatten {name : Name} {documents : List (Document float)}
    (legible : ∀ document ∈ documents, Legible name document) :
    Legible name documents.flatten := by
  intro line member
  rcases List.mem_flatten.mp member with ⟨document, listed, member⟩
  exact legible document listed line member

/-- What the counters are where all documents are legible. -/
theorem prefixCacheCounters_of_legible {nodes : List (Bool × Document float)}
    (legible : ∀ name ∈ [HITS_METRIC, QUERIES_METRIC],
      ∀ document ∈ aliveDocuments nodes, Legible name document) :
    prefixCacheCounters float (nodes.map serving) = some
      (Document.total (aliveDocuments nodes).flatten HITS_METRIC,
        Document.total (aliveDocuments nodes).flatten QUERIES_METRIC) := by
  have hits := legible_flatten (legible HITS_METRIC List.mem_cons_self)
  have queries := legible_flatten
    (legible QUERIES_METRIC (List.mem_cons_of_mem _ List.mem_cons_self))
  rw [prefixCacheCounters, metrics_serving, sumMetric_text hits, sumMetric_text queries]
  rfl

/-- The counters are exact if and only if all documents of living nodes are legible for
both of them and their values may be added up node by node. -/
theorem counts_iff_legible {nodes : List (Bool × Document float)} :
    Counts nodes ↔ ∀ name ∈ [HITS_METRIC, QUERIES_METRIC],
      (∀ document ∈ aliveDocuments nodes, Legible name document) ∧
        Regroups name (aliveDocuments nodes) := by
  constructor
  · intro counts
    have legible : ∀ name ∈ [HITS_METRIC, QUERIES_METRIC],
        ∀ document ∈ aliveDocuments nodes, Legible name document :=
      fun name counter document listed line member =>
        readsLine_iff.mp (counts.reads name counter document listed line member)
    have same := (prefixCacheCounters_of_legible legible).symm.trans counts.counters
    rcases Prod.mk.inj (Option.some.inj same) with ⟨hits, queries⟩
    intro name counter
    refine ⟨legible name counter, ?_⟩
    rcases List.mem_pair.mp counter with rfl | rfl
    · exact hits
    · exact queries
  · intro condition
    have hits : Regroups HITS_METRIC _ := (condition _ List.mem_cons_self).2
    have queries : Regroups QUERIES_METRIC _ :=
      (condition _ (List.mem_cons_of_mem _ List.mem_cons_self)).2
    constructor
    · intro name counter document listed line member
      exact readsLine_iff.mpr ((condition name counter).1 document listed line member)
    · rw [prefixCacheCounters_of_legible fun name counter => (condition name counter).1,
        hits, queries]

omit [Add K] [Zero K] in
/-- The usual documents are legible: no line has a boundary inside, and the samples of the
metric are plain. -/
theorem legible_of_unbroken {name : Name} {document : Document float}
    (unbroken : ∀ line ∈ document, Unbroken line.body)
    (plain : ∀ entry ∈ document.samples name, entry.Plain) :
    Legible name document := by
  intro line member
  have whole : pieces line = [line.body] := splitlines_unbroken (unbroken line member)
  constructor
  · intro entry sampled
    have listed := List.mem_filterMap.mpr ⟨line, member, sampled⟩
    rcases Line.sampleOf_eq_some_iff.mp sampled with ⟨rfl, rfl⟩
    exact startsSample_iff.mpr (Sample.exists_text_eq_of_plain (plain entry listed))
  · intro entry sampled first isFirst
    have listed := List.mem_filterMap.mpr ⟨line, member, sampled⟩
    rcases Line.sampleOf_eq_some_iff.mp sampled with ⟨rfl, rfl⟩
    have noBlank : ' ' ∉ entry.value.characters :=
      fun inValue => entry.value.oneToken ' ' inValue List.mem_cons_self
    rw [whole] at isFirst
    cases isFirst
    rw [Line.body, Sample.text_of_plain (plain entry listed), lastField_append noBlank]
    exact entry.value.reads
  · simp [whole]

/-- Exact additions may be grouped. -/
theorem regroups_of_addMonoid {K : Type u} [AddMonoid K] {float : List Char → Option K}
    (name : Name) (documents : List (Document float)) : Regroups name documents := by
  simp only [Regroups, sumOfSums, Document.total, values_flatten, addUp_eq_sum,
    List.sum_flatten, List.map_map]
  rfl

/-- And so may floats, while they are whole numbers whose sum has no more digits than a
float. -/
theorem regroups_of_whole {fraction : ℕ} {float : List Char → Option (Binary fraction)}
    {name : Name} {documents : List (Document float)}
    (whole : ∀ value ∈ Document.values documents.flatten name, value.Whole)
    (fits : ((Document.values documents.flatten name).map Binary.value).sum ≤
      2 ^ (fraction + 1)) :
    Regroups name documents := by
  rw [values_flatten] at whole fits
  simp only [Regroups, sumOfSums, Document.total, values_flatten]
  rw [Binary.addUp_flatten whole fits, List.map_map]
  rfl

/-! ## Documents that are not legible -/

/-- The number of a literal of digits. -/
def readDigits (literal : List Char) : Option ℚ :=
  if literal ≠ [] ∧ literal.all Char.isDigit then
    some (literal.foldl (fun number digit => 10 * number + (digit.toNat - 48)) 0)
  else none

/-- A sample `hits{model="…"} 3`. -/
def hitsSample (model : List Char) (timestamp : Option (Gap × ℤ)) :
    Sample readDigits where
  name := HITS_METRIC
  labels := some { entries := [{ name := ⟨'m', ['o', 'd', 'e', 'l'], rfl, rfl⟩
                                 value := model }] }
  value := ⟨['3'], 3, by simp, by decide +kernel⟩
  timestamp := timestamp

-- A line separator in a label value cuts the sample in two, and `float` raises on what
-- is behind the last blank of the first piece.
example : sumMetric readDigits
    (Document.text [.sample (hitsSample ['a', '\u2028', 'b'] none)])
      HITS_METRIC.characters = none := by decide +kernel

-- A sample with a blank in front of its name is skipped, and on one with a blank at its
-- end `float` gets nothing.
example : sumMetric readDigits (Document.text
      [.sample { hitsSample ['a'] none with indent := ⟨[' '], rfl⟩ }])
        HITS_METRIC.characters = some 0 ∧
    sumMetric readDigits (Document.text
      [.sample { hitsSample ['a'] none with trailing := ⟨[' '], rfl⟩ }])
        HITS_METRIC.characters = none := by decide +kernel

-- The doubles `0.1` and then `0.2` and `0.3`: added one after another they are more than
-- the first and the sum of the other two.
example :
    let values := [1 / 10, 2 / 10, 3 / 10].map (Binary.round 52)
    addUp values ≠ addUp [addUp (values.take 1), addUp (values.drop 1)] := by
  decide +kernel

end DistributedInference.LlmRouting
