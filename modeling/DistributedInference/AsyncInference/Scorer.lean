import DistributedInference.Control.Traverse
import DistributedInference.Python.Numbers
import DistributedInference.Python.Text
import DistributedInference.Sorting.SortedBy
import Mathlib.Data.Matrix.Mul

/-!
# The queue worker

`ScorerLogic` builds a table of item vectors in its constructor and scores random
rows of it against a random user vector.  The constructor takes the sizes of the
table; `score` draws by the module constants `EMBED_DIM` and `NUM_ITEMS`.

The random generators of `torch` and its choice among equal scores in `topk` are
parameters.  Scores are exact.
-/

namespace DistributedInference.AsyncInference

open Control Python Sorting

def EMBED_DIM : Nat := 64

def NUM_ITEMS : Nat := 10000

/-- The exceptions that can leave `score`. -/
inductive ScoreError where
  /-- An embedding was asked for a row that it does not have. -/
  | indexError
  /-- The sizes of two tensors do not match, or `k` is out of range. -/
  | runtimeError
  deriving DecidableEq, Repr

/-- The parts of `torch` that are not computed here. -/
structure Torch where
  /-- The initial weights of `torch.nn.Embedding` after `torch.manual_seed(0)`. -/
  embedding : (rows width : Nat) → Fin rows → Fin width → ℚ
  /-- `torch.randn(EMBED_DIM, generator=…)`, by the seed of the generator. -/
  randn : Nat → Fin EMBED_DIM → ℚ
  /-- `torch.randint(0, NUM_ITEMS, (count,), generator=…)`, by the seed of the
  generator.  It is taken to have the memory for any `count`. -/
  randint : Nat → (count : Nat) → Fin count → Fin NUM_ITEMS
  /-- `torch.topk(scores, k)`: the entries with their indices. -/
  topk : List ℚ → Nat → Except ScoreError (List (Nat × ℚ))
  topk_eq_ok : ∀ scores k, k ≤ scores.length → ∃ top, topk scores k = .ok top
  length_topk : ∀ scores k top, topk scores k = .ok top → top.length = k
  getElem?_topk : ∀ scores k top, topk scores k = .ok top →
    ∀ entry ∈ top, scores[entry.1]? = some entry.2

/-- The state of a `ScorerLogic`: its table of item vectors. -/
structure ScorerLogic where
  numItems : Nat
  embedDim : Nat
  itemEmb : Fin numItems → Fin embedDim → ℚ

/-- What `score` returns. -/
structure Summary where
  userId : String
  scored : Nat
  topIndices : List Nat
  topScores : List ℚ
  deriving DecidableEq, Repr

/-- `rows @ vector`. -/
def matmul {width size : Nat} (rows : List (Fin width → ℚ)) (vector : Fin size → ℚ) :
    Except ScoreError (List ℚ) :=
  if same : width = size then
    .ok (rows.map fun row => row ⬝ᵥ fun index => vector (index.cast same))
  else .error .runtimeError

/-- `values[index]`. -/
def take (values : List Nat) (index : Nat) : Except ScoreError Nat :=
  match values[index]? with
  | none => .error .indexError
  | some value => .ok value

namespace Torch

/-- The item ids that `score` draws for a job. -/
def itemIds (torch : Torch) (userId : String) (numCandidates : Nat) : List Nat :=
  (List.ofFn (torch.randint (crc32 (utf8 userId)) numCandidates)).map Fin.val

@[simp] theorem length_itemIds (torch : Torch) (userId : String)
    (numCandidates : Nat) :
    (torch.itemIds userId numCandidates).length = numCandidates := by
  rw [itemIds, List.length_map, List.length_ofFn]

theorem lt_of_mem_itemIds {torch : Torch} {userId : String} {numCandidates itemId : Nat}
    (drawn : itemId ∈ torch.itemIds userId numCandidates) : itemId < NUM_ITEMS := by
  rcases List.mem_map.mp drawn with ⟨index, _, rfl⟩
  exact index.isLt

end Torch

namespace ScorerLogic

/-- `__init__`. -/
def init (torch : Torch) (embedDim : Nat := EMBED_DIM) (numItems : Nat := NUM_ITEMS) :
    ScorerLogic where
  numItems := numItems
  embedDim := embedDim
  itemEmb := torch.embedding numItems embedDim

/-- One row of `self.item_emb`. -/
def itemRow (logic : ScorerLogic) (itemId : Nat) :
    Except ScoreError (Fin logic.embedDim → ℚ) :=
  if inTable : itemId < logic.numItems then .ok (logic.itemEmb ⟨itemId, inTable⟩)
  else .error .indexError

/-- `score`. -/
def score (torch : Torch) (logic : ScorerLogic) (userId : String)
    (numCandidates : Nat) : Except ScoreError Summary := do
  let userVec := torch.randn (crc32 (utf8 userId))
  let itemIds := torch.itemIds userId numCandidates
  let rows ← itemIds.mapM logic.itemRow
  let scores ← matmul rows userVec
  let top ← torch.topk scores (min 5 numCandidates)
  let topIndices ← (top.map Prod.fst).mapM (take itemIds)
  return {
    userId := userId
    scored := numCandidates
    topIndices := topIndices
    topScores := (top.map Prod.snd).map (roundTo 4) }

end ScorerLogic

/-- `score` returned a summary of all candidates with the top five of them, or all
where there are fewer. -/
def Summarizes (numCandidates : Nat) (outcome : Except ScoreError Summary) : Prop :=
  ∃ summary, outcome = .ok summary ∧ summary.scored = numCandidates ∧
    summary.topIndices.length = min 5 numCandidates ∧
    summary.topScores.length = min 5 numCandidates

/-! ## The operations one by one -/

section Operations

variable {torch : Torch} {logic : ScorerLogic} {userId : String}
variable {numCandidates : Nat}

theorem exists_itemRow_iff {itemId : Nat} :
    (∃ row, logic.itemRow itemId = .ok row) ↔ itemId < logic.numItems := by
  rw [ScorerLogic.itemRow]
  split
  next inTable => simp [inTable]
  next outside => simp [outside]

theorem exists_matmul_iff {width size : Nat} {rows : List (Fin width → ℚ)}
    {vector : Fin size → ℚ} :
    (∃ scores, matmul rows vector = .ok scores) ↔ width = size := by
  rw [matmul]
  split
  next same => simp [same]
  next differ => simp [differ]

theorem length_matmul {width size : Nat} {rows : List (Fin width → ℚ)}
    {vector : Fin size → ℚ} {scores : List ℚ}
    (computed : matmul rows vector = .ok scores) : scores.length = rows.length := by
  rw [matmul] at computed
  split at computed
  next =>
    cases computed
    exact List.length_map _
  next => cases computed

theorem exists_take {values : List Nat} {index : Nat} (inside : index < values.length) :
    ∃ value, take values index = .ok value := by
  rw [take, List.getElem?_eq_getElem inside]
  exact ⟨_, rfl⟩

/-- The part of `score` behind the product: the candidates are enough for `topk`,
and its indices are positions among them. -/
theorem exists_topIndices {scores : List ℚ} (sized : scores.length = numCandidates) :
    ∃ top topIndices, torch.topk scores (min 5 numCandidates) = .ok top ∧
      (top.map Prod.fst).mapM (take (torch.itemIds userId numCandidates)) =
        .ok topIndices ∧
      top.length = min 5 numCandidates ∧ topIndices.length = top.length := by
  have enough : min 5 numCandidates ≤ scores.length :=
    sized ▸ min_le_right 5 numCandidates
  rcases torch.topk_eq_ok scores _ enough with ⟨top, selected⟩
  have taken : ∃ topIndices,
      (top.map Prod.fst).mapM (take (torch.itemIds userId numCandidates)) =
        .ok topIndices := by
    apply exists_mapM_eq_ok_iff.mpr
    intro index member
    rcases List.mem_map.mp member with ⟨entry, listed, rfl⟩
    apply exists_take
    rw [Torch.length_itemIds, ← sized]
    exact (List.getElem?_eq_some_iff.mp
      (torch.getElem?_topk scores _ top selected entry listed)).1
  rcases taken with ⟨topIndices, taken⟩
  refine ⟨top, topIndices, selected, taken, torch.length_topk _ _ _ selected, ?_⟩
  rw [length_of_mapM taken, List.length_map]

/-- `score` summarizes exactly if every row is in the table and has the width of the
user vector. -/
theorem summarizes_score_iff :
    Summarizes numCandidates (logic.score torch userId numCandidates) ↔
      logic.embedDim = EMBED_DIM ∧
        ∀ itemId ∈ torch.itemIds userId numCandidates, itemId < logic.numItems := by
  simp only [← exists_itemRow_iff, ← exists_mapM_eq_ok_iff]
  constructor
  · intro summarizes
    rcases summarizes with ⟨summary, returned, _⟩
    simp only [ScorerLogic.score] at returned
    cases looked : (torch.itemIds userId numCandidates).mapM logic.itemRow with
    | error failure =>
        rw [looked] at returned
        cases returned
    | ok rows =>
        rw [looked] at returned
        cases multiplied : matmul rows (torch.randn (crc32 (utf8 userId))) with
        | error failure =>
            simp only [bind, Except.bind, multiplied] at returned
            cases returned
        | ok scores => exact ⟨exists_matmul_iff.mp ⟨scores, multiplied⟩, rows, rfl⟩
  · intro sized
    rcases sized with ⟨sameWidth, rows, looked⟩
    have multiplies : ∃ scores,
        matmul rows (torch.randn (crc32 (utf8 userId))) = .ok scores :=
      exists_matmul_iff.mpr sameWidth
    rcases multiplies with ⟨scores, multiplied⟩
    have counted : scores.length = numCandidates := by
      rw [length_matmul multiplied, length_of_mapM looked, Torch.length_itemIds]
    rcases @exists_topIndices torch userId _ _ counted with
      ⟨top, topIndices, selected, taken, topSize, indexSize⟩
    refine ⟨⟨userId, numCandidates, topIndices,
      (top.map Prod.snd).map (roundTo 4)⟩, ?_, rfl, indexSize.trans topSize, ?_⟩
    · simp only [ScorerLogic.score, looked, bind, Except.bind, multiplied, selected,
        taken]
      rfl
    · rw [List.length_map, List.length_map, topSize]

end Operations

/-! ## The sizes of the constructor -/

section Sizes

variable {torch : Torch} {embedDim numItems numCandidates : Nat} {userId : String}

/-- A worker of any sizes summarizes a job exactly if its rows are as wide as
`EMBED_DIM` says and every id drawn for the job is in its table. -/
theorem score_summarizes_iff :
    Summarizes numCandidates
        ((ScorerLogic.init torch embedDim numItems).score torch userId numCandidates) ↔
      embedDim = EMBED_DIM ∧
        ∀ itemId ∈ torch.itemIds userId numCandidates, itemId < numItems :=
  summarizes_score_iff

/-- The `k` largest scores, equal ones in the order of their indices. -/
def largest (scores : List ℚ) (k : Nat) : Except ScoreError (List (Nat × ℚ)) :=
  if k ≤ scores.length then
    .ok (((sortedByDescending Prod.fst scores.zipIdx).take k).map Prod.swap)
  else .error .runtimeError

theorem largest_eq_ok {scores : List ℚ} {k : Nat} {top : List (Nat × ℚ)}
    (selected : largest scores k = .ok top) :
    k ≤ scores.length ∧
      top = ((sortedByDescending Prod.fst scores.zipIdx).take k).map Prod.swap := by
  rw [largest] at selected
  split at selected
  next enough =>
    cases selected
    exact ⟨enough, rfl⟩
  next => cases selected

/-- A `torch` that draws one item for every candidate. -/
def constantTorch (itemId : Fin NUM_ITEMS) : Torch where
  embedding _ _ _ _ := 1
  randn _ _ := 1
  randint _ _ _ := itemId
  topk := largest
  topk_eq_ok scores k enough := ⟨_, if_pos enough⟩
  length_topk scores k top selected := by
    rcases largest_eq_ok selected with ⟨enough, rfl⟩
    rw [List.length_map, List.length_take, (perm_sortedByDescending _ _).length_eq,
      List.length_zipIdx, min_eq_left enough]
  getElem?_topk scores k top selected := by
    rcases largest_eq_ok selected with ⟨enough, rfl⟩
    intro entry member
    rcases List.mem_map.mp member with ⟨pair, listed, rfl⟩
    have indexed := (perm_sortedByDescending _ _).mem_iff.mp (List.mem_of_mem_take listed)
    exact List.mem_zipIdx_iff_getElem?.mp indexed

theorem itemIds_constantTorch (itemId : Fin NUM_ITEMS) (userId : String)
    (numCandidates : Nat) :
    (constantTorch itemId).itemIds userId numCandidates =
      List.replicate numCandidates itemId.val := by
  rw [Torch.itemIds, constantTorch, List.ofFn_const, List.map_replicate]

/-- A `torch` that always draws the greatest id. -/
def greatestTorch : Torch := constantTorch ⟨NUM_ITEMS - 1, by decide⟩

/-- Rows of half the width cannot be multiplied by the user vector, and a table of a
hundred items does not have the item that is drawn. -/
theorem score_otherSizes :
    (ScorerLogic.init greatestTorch 32).score greatestTorch "u1" 3 =
      .error .runtimeError ∧
    (ScorerLogic.init greatestTorch EMBED_DIM 100).score greatestTorch "u1" 3 =
      .error .indexError ∧
    ¬ Summarizes 3
      ((ScorerLogic.init greatestTorch 32).score greatestTorch "u1" 3) := by
  have raised : (ScorerLogic.init greatestTorch 32).score greatestTorch "u1" 3 =
      .error .runtimeError := by decide +kernel
  refine ⟨raised, by decide +kernel, ?_⟩
  intro summarizes
  rcases summarizes with ⟨summary, returned, _⟩
  cases raised.symm.trans returned

/-- The sizes with which every job is summarized, whatever is drawn for it. -/
theorem summarizes_every_draw_iff (someCandidate : 1 ≤ numCandidates) :
    (∀ torch userId, Summarizes numCandidates
        ((ScorerLogic.init torch embedDim numItems).score torch userId numCandidates)) ↔
      embedDim = EMBED_DIM ∧ NUM_ITEMS ≤ numItems := by
  simp only [summarizes_score_iff, ScorerLogic.init]
  constructor
  · intro safe
    rcases safe greatestTorch "" with ⟨sameWidth, inTable⟩
    rw [greatestTorch, itemIds_constantTorch] at inTable
    have greatest : NUM_ITEMS - 1 < numItems :=
      inTable _ (List.mem_replicate.mpr ⟨Nat.ne_of_gt someCandidate, rfl⟩)
    exact ⟨sameWidth, Nat.le_of_pred_lt greatest⟩
  · intro sizes torch userId
    exact ⟨sizes.1, fun itemId drawn => (Torch.lt_of_mem_itemIds drawn).trans_le sizes.2⟩

end Sizes

/-! ## The task handler -/

/-- The state of a `Scorer`. -/
structure Scorer where
  logic : ScorerLogic
  defaultCandidates : Nat

/-- `Scorer.__init__`: the sizes stay at their defaults. -/
def Scorer.init (torch : Torch) (defaultCandidates : Nat := 50000) : Scorer where
  logic := .init torch
  defaultCandidates := defaultCandidates

/-- `num_candidates or self.default_candidates`. -/
def Scorer.candidates (scorer : Scorer) : Option Nat → Nat
  | none => scorer.defaultCandidates
  | some 0 => scorer.defaultCandidates
  | some numCandidates => numCandidates

/-- `score_batch`, with the time that it measured. -/
def Scorer.scoreBatch (torch : Torch) (scorer : Scorer) (userId : String)
    (numCandidates : Option Nat) (elapsed : ℚ) : Except ScoreError (Summary × ℚ) := do
  let result ← scorer.logic.score torch userId (scorer.candidates numCandidates)
  return (result, roundTo 3 elapsed)

/-- The deployed worker handles every job: its sizes are those that `score` draws
by. -/
theorem Scorer.scoreBatch_handles (torch : Torch) (defaultCandidates : Nat)
    (userId : String) (numCandidates : Option Nat) (elapsed : ℚ) :
    let scorer := Scorer.init torch defaultCandidates
    ∃ summary, scorer.scoreBatch torch userId numCandidates elapsed =
        .ok (summary, roundTo 3 elapsed) ∧
      summary.scored = scorer.candidates numCandidates := by
  intro scorer
  have sized : Summarizes (scorer.candidates numCandidates)
      (scorer.logic.score torch userId (scorer.candidates numCandidates)) :=
    summarizes_score_iff.mpr ⟨rfl, fun itemId drawn => Torch.lt_of_mem_itemIds drawn⟩
  rcases sized with ⟨summary, returned, scored, _⟩
  refine ⟨summary, ?_, scored⟩
  rw [Scorer.scoreBatch, returned]
  rfl

end DistributedInference.AsyncInference
