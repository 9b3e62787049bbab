import DistributedInference.Floating.Rounding
import DistributedInference.Ranking.Batching

/-!
# Loading the weights

A replica builds a module with random parameters and then copies a checkpoint into
it.  `load_model` swallows every exception on the way, so a replica also serves with
parameters that no checkpoint has set.

`load_state_dict` belongs to torch.  It copies the entries that match a parameter,
converted to the type of the parameter, and raises afterwards if an entry was missing,
unexpected or of the wrong shape.
-/

namespace DistributedInference.Ranking

open Floating Sorting Tensor

variable {K : Type}

/-- The tensors of a checkpoint by name, with their shapes. -/
abbrev StateDict (K : Type) := List (String × (shape : List Nat) × Shaped K shape)

namespace StateDict

/-- The entry for a parameter, if it has the parameter's shape. -/
def value? (stateDict : StateDict K) (parameter : Parameter) :
    Option (Shaped K parameter.shape) :=
  match stateDict.lookup parameter.name with
  | none => none
  | some ⟨shape, value⟩ =>
      if same : shape = parameter.shape then some (same ▸ value) else none

/-- Some parameter has no entry of its shape, or some entry belongs to none. -/
def mismatched (stateDict : StateDict K) : Bool :=
  Parameter.all.any (fun parameter => (stateDict.value? parameter).isNone) ||
    stateDict.any fun entry => !(Parameter.all.map Parameter.name).contains entry.1

end StateDict

/-- `load_state_dict` with its default `strict=True`: the module afterwards, and
whether the call raised. -/
structure LoadStateDict (K : Type) where
  load : TwoTowerRanker K → StateDict K → TwoTowerRanker K × Bool
  /-- A number of any type as `float32`, the type of the parameters. -/
  cast : K → K
  /-- The parameters with an entry are copied, the others are left alone. -/
  parameter_load : ∀ model stateDict parameter,
    (load model stateDict).1.parameter parameter =
      ((stateDict.value? parameter).map (Shaped.map cast)).getD
        (model.parameter parameter)
  raises : ∀ model stateDict, (load model stateDict).2 = stateDict.mismatched

/-- What `torch.load` finds at a path. -/
inductive Content (K : Type) where
  | absent
  | unreadable
  /-- An object that is not a mapping. -/
  | notStateDict
  | checkpoint (stateDict : StateDict K)

/-- The value that a checkpoint gives a parameter. -/
def Content.value? (content : Content K) (parameter : Parameter) :
    Option (Shaped K parameter.shape) :=
  match content with
  | .checkpoint stateDict => stateDict.value? parameter
  | _ => none

/-- `load_model`, with what it prints.  `initial` is the module that
`TwoTowerRanker()` built, whose parameters are random. -/
def loadModel (torch : LoadStateDict K) (initial : TwoTowerRanker K)
    (content : Content K) : TwoTowerRanker K × List String :=
  let (model, raised) :=
    match content with
    | .checkpoint stateDict => torch.load initial stateDict
    | _ => (initial, true)
  (model, if raised then ["proceeding with empty weights"] else [])

/-- `Ranker.__init__`. -/
def Ranker.init (torch : LoadStateDict K) (store : FeatureStore K)
    (initial : TwoTowerRanker K) (content : Content K) : Ranker K where
  model := (loadModel torch initial content).1
  store := store

/-! ## What a replica serves with -/

/-- A parameter is the checkpoint's as `float32`, or else the random one. -/
theorem parameter_loadModel (torch : LoadStateDict K) (initial : TwoTowerRanker K)
    (content : Content K) (parameter : Parameter) :
    (loadModel torch initial content).1.parameter parameter =
      ((content.value? parameter).map (Shaped.map torch.cast)).getD
        (initial.parameter parameter) := by
  cases content with
  | checkpoint stateDict => exact torch.parameter_load initial stateDict parameter
  | absent | unreadable | notStateDict => rfl

/-- `model.state_dict()`, which `save_random_weights` saves. -/
def TwoTowerRanker.stateDict (model : TwoTowerRanker K) : StateDict K :=
  Parameter.all.map fun parameter =>
    (parameter.name, ⟨parameter.shape, model.parameter parameter⟩)

theorem value?_stateDict (model : TwoTowerRanker K) (parameter : Parameter) :
    model.stateDict.value? parameter = some (model.parameter parameter) := by
  cases parameter <;> rfl

theorem mismatched_stateDict (model : TwoTowerRanker K) :
    model.stateDict.mismatched = false := by
  have names : model.stateDict.map Prod.fst = Parameter.all.map Parameter.name := rfl
  simp only [StateDict.mismatched, ← names, Bool.or_eq_false_iff, List.any_eq_false]
  constructor
  · simp [value?_stateDict]
  · intro entry member
    have expected : entry.1 ∈ model.stateDict.map Prod.fst :=
      List.mem_map_of_mem member
    rw [List.contains_iff_mem.mpr expected]
    decide

/-- Loading what was saved of a model in `float32` restores it, whatever the random
parameters. -/
theorem loadModel_saved (torch : LoadStateDict K) (initial model : TwoTowerRanker K)
    (single : ∀ parameter,
      (model.parameter parameter).map torch.cast = model.parameter parameter) :
    loadModel torch initial (.checkpoint model.stateDict) = (model, []) := by
  have restored :
      (loadModel torch initial (.checkpoint model.stateDict)).1 = model := by
    apply TwoTowerRanker.ext_parameter
    intro parameter
    rw [parameter_loadModel, Content.value?, value?_stateDict]
    exact single parameter
  have silent : (loadModel torch initial (.checkpoint model.stateDict)).2 = [] := by
    simp [loadModel, torch.raises, mismatched_stateDict]
  exact Prod.ext restored silent

/-! ## Agreement of the replicas -/

/-- Any two replicas that read the same content, from whatever random parameters,
answer every batch alike, and every parameter is the checkpoint's. -/
def ReplicasAgree [CommSemiring K] [LinearOrder K] (torch : LoadStateDict K)
    (content : Content K) : Prop :=
  ∀ (store : FeatureStore K) (initial other : TwoTowerRanker K),
    (∀ requests, (Ranker.init torch store initial content).score requests =
      (Ranker.init torch store other content).score requests) ∧
    ∀ parameter, content.value? parameter =
      some ((Ranker.init torch store initial content).model.parameter parameter)

/-- A checkpoint with a value for every parameter leaves nothing random. -/
theorem loadModel_complete (torch : LoadStateDict K) {content : Content K}
    (complete : ∀ parameter, (content.value? parameter).isSome = true)
    (initial other : TwoTowerRanker K) :
    (loadModel torch initial content).1 = (loadModel torch other content).1 := by
  apply TwoTowerRanker.ext_parameter
  intro parameter
  rcases Option.isSome_iff_exists.mp (complete parameter) with ⟨value, found⟩
  rw [parameter_loadModel, parameter_loadModel, found]
  rfl

/-- The replicas agree exactly if the path holds a checkpoint with every parameter
in its shape, all of whose numbers are `float32` numbers. -/
theorem replicasAgree_iff [CommSemiring K] [LinearOrder K] (torch : LoadStateDict K)
    (content : Content K) :
    ReplicasAgree torch content ↔
      ∀ parameter, ∃ value, content.value? parameter = some value ∧
        Shaped.map torch.cast value = value := by
  constructor
  · intro agree parameter
    have zero : TwoTowerRanker K := .constant 0
    have served := (agree ⟨fun _ _ => 0⟩ zero zero).2 parameter
    refine ⟨_, served, ?_⟩
    -- The served parameter is a cast of the entry, which is the served parameter.
    have cast := parameter_loadModel torch zero content parameter
    rw [served] at cast
    exact cast.symm
  · intro complete store initial other
    constructor
    · intro requests
      have listed : ∀ parameter, (content.value? parameter).isSome = true := by
        intro parameter
        rcases complete parameter with ⟨value, found, _⟩
        rw [found]
        rfl
      have same := loadModel_complete torch listed initial other
      simp only [Ranker.init, same]
    · intro parameter
      rcases complete parameter with ⟨value, found, single⟩
      have cast := parameter_loadModel torch initial content parameter
      rw [found] at cast ⊢
      exact congrArg some (single.symm.trans cast.symm)

/-! ## A loader -/

/-- Copies the matching entries, then reports a mismatch. -/
def copyMatching : LoadStateDict ℚ where
  load model stateDict :=
    (.ofParameters fun parameter =>
      ((stateDict.value? parameter).map (Shaped.map (roundFloat 23))).getD
        (model.parameter parameter),
      stateDict.mismatched)
  cast := roundFloat 23
  parameter_load _ _ _ := TwoTowerRanker.parameter_ofParameters _ _
  raises _ _ := rfl

theorem map_constant (cast : K → K) (value : K) (parameter : Parameter) :
    Shaped.map cast ((TwoTowerRanker.constant value).parameter parameter) =
      (TwoTowerRanker.constant (cast value)).parameter parameter := by
  cases parameter <;> rfl

theorem replicasAgree_iff_saved :
    ReplicasAgree copyMatching
      (.checkpoint (TwoTowerRanker.constant (1 : ℚ)).stateDict) := by
  have one : roundFloat 23 1 = 1 := by decide +kernel
  apply (replicasAgree_iff copyMatching _).mpr
  intro parameter
  refine ⟨_, value?_stateDict _ parameter, ?_⟩
  change Shaped.map (roundFloat 23) _ = _
  rw [map_constant, one]

-- A double that is no `float32`: the parameter becomes another number.
example : copyMatching.cast (1 + 1 / 2 ^ 30) = 1 := by decide +kernel

/-- The response to one request with one candidate. -/
theorem score_single [CommSemiring K] [LinearOrder K] (ranker : Ranker K)
    (userId candidateId : String) :
    ranker.score [⟨userId, [candidateId]⟩] =
      some [⟨userId, [⟨candidateId,
        ranker.model.itemEmbWeight (itemIdToIndex candidateId) ⬝ᵥ
          ranker.model.userTower (ranker.store.featuresFor userId)⟩]⟩] := by
  rw [score_eq_map_answer ranker (List.cons_ne_nil _ _)]
  simp only [List.map_cons, List.map_nil, Ranker.answer, scoredCandidates_eq_map]
  rfl

/-- The score that a constant model gives any candidate of any user without
features. -/
theorem score_constant (value : ℚ) (candidateId : String) :
    (TwoTowerRanker.constant value).itemEmbWeight (itemIdToIndex candidateId) ⬝ᵥ
        (TwoTowerRanker.constant value).userTower (fun _ => 0) =
      32 * (value * (32 * (value * max value 0) + value)) := by
  have width : (hiddenDim : ℚ) = 32 := rfl
  simp [TwoTowerRanker.userTower, TwoTowerRanker.constant, Linear.apply, relu,
    dotProduct, width]

/-- Without a file every replica serves with its own random parameters: filled with
zeros they give candidate `a` another score than filled with ones. -/
theorem absentWeights_disagree :
    (Ranker.init copyMatching ⟨fun _ _ => (0 : ℚ)⟩ (.constant 0) .absent).score
        [⟨"u1", ["a"]⟩] ≠
      (Ranker.init copyMatching ⟨fun _ _ => 0⟩ (.constant 1) .absent).score
        [⟨"u1", ["a"]⟩] ∧
    ¬ ReplicasAgree copyMatching (.absent : Content ℚ) := by
  have differ : (Ranker.init copyMatching ⟨fun _ _ => (0 : ℚ)⟩ (.constant 0)
      .absent).score [⟨"u1", ["a"]⟩] ≠
        (Ranker.init copyMatching ⟨fun _ _ => 0⟩ (.constant 1) .absent).score
          [⟨"u1", ["a"]⟩] := by
    intro same
    simp only [score_single, Ranker.init, loadModel, score_constant, Option.some.injEq,
      List.cons.injEq, RankResponse.mk.injEq, ScoredCandidate.mk.injEq] at same
    norm_num at same
  exact ⟨differ, fun agree => differ ((agree _ _ _).1 _)⟩

end DistributedInference.Ranking
