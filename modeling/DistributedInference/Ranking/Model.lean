import DistributedInference.Python.Text
import DistributedInference.Tensor.Rows

/-!
# The two-tower model

The user tower is a linear layer, a ReLU and a second linear layer; the item tower
is a table of embeddings.  The score of an item for a user is the dot product of
the two embeddings.  Scalars are exact.

The parameters have the names and shapes of the module's state dictionary.
-/

namespace DistributedInference.Ranking

open Python Tensor

/-- `EMBED_DIM`. -/
def embedDim : Nat := 64

/-- `NUM_ITEMS`. -/
def numItems : Nat := 10000

/-- `HIDDEN_DIM`. -/
def hiddenDim : Nat := 32

/-- `item_id_to_index`. -/
def itemIdToIndex (candidateId : String) : Fin numItems :=
  ⟨crc32 (utf8 candidateId) % numItems, Nat.mod_lt _ (by decide)⟩

/-- The modules with parameters, under their positions in `user_tower`. -/
@[ext] structure TwoTowerRanker (K : Type) where
  userTower0Weight : Fin hiddenDim → Fin embedDim → K
  userTower0Bias : Fin hiddenDim → K
  userTower2Weight : Fin hiddenDim → Fin hiddenDim → K
  userTower2Bias : Fin hiddenDim → K
  itemEmbWeight : Fin numItems → Fin hiddenDim → K

namespace TwoTowerRanker

variable {K : Type}

/-- Every parameter filled with one value. -/
def constant (value : K) : TwoTowerRanker K where
  userTower0Weight _ _ := value
  userTower0Bias _ := value
  userTower2Weight _ _ := value
  userTower2Bias _ := value
  itemEmbWeight _ _ := value

section Scoring

variable [CommSemiring K] [LinearOrder K]

/-- `user_tower` at one feature vector. -/
def userTower (model : TwoTowerRanker K) (userFeat : Fin embedDim → K) :
    Fin hiddenDim → K :=
  let first : Linear K embedDim hiddenDim :=
    ⟨model.userTower0Weight, model.userTower0Bias⟩
  let second : Linear K hiddenDim hiddenDim :=
    ⟨model.userTower2Weight, model.userTower2Bias⟩
  second.apply (relu (first.apply userFeat))

def embedUsers (model : TwoTowerRanker K) (userFeats : List (Fin embedDim → K)) :
    List (Fin hiddenDim → K) :=
  userFeats.map model.userTower

def embedItems (model : TwoTowerRanker K) (itemIds : List (Fin numItems)) :
    List (Fin hiddenDim → K) :=
  itemIds.map model.itemEmbWeight

/-- Score the candidates of one user. -/
def forward (model : TwoTowerRanker K) (userFeat : Fin embedDim → K)
    (itemIds : List (Fin numItems)) : List K :=
  let userEmb := model.userTower userFeat
  let itemVecs := model.embedItems itemIds
  itemVecs.map fun itemVec => itemVec ⬝ᵥ userEmb

end Scoring

end TwoTowerRanker

/-! ## Parameters -/

/-- The entries of the model's state dictionary. -/
inductive Parameter where
  | userTower0Weight
  | userTower0Bias
  | userTower2Weight
  | userTower2Bias
  | itemEmbWeight
  deriving DecidableEq, Repr

namespace Parameter

/-- In the order of the state dictionary. -/
def all : List Parameter :=
  [.userTower0Weight, .userTower0Bias, .userTower2Weight, .userTower2Bias,
    .itemEmbWeight]

def name : Parameter → String
  | .userTower0Weight => "user_tower.0.weight"
  | .userTower0Bias => "user_tower.0.bias"
  | .userTower2Weight => "user_tower.2.weight"
  | .userTower2Bias => "user_tower.2.bias"
  | .itemEmbWeight => "item_emb.weight"

def shape : Parameter → List Nat
  | .userTower0Weight => [hiddenDim, embedDim]
  | .userTower0Bias => [hiddenDim]
  | .userTower2Weight => [hiddenDim, hiddenDim]
  | .userTower2Bias => [hiddenDim]
  | .itemEmbWeight => [numItems, hiddenDim]

end Parameter

namespace TwoTowerRanker

variable {K : Type}

/-- The value of a parameter. -/
def parameter (model : TwoTowerRanker K) :
    (parameter : Parameter) → Shaped K parameter.shape
  | .userTower0Weight => model.userTower0Weight
  | .userTower0Bias => model.userTower0Bias
  | .userTower2Weight => model.userTower2Weight
  | .userTower2Bias => model.userTower2Bias
  | .itemEmbWeight => model.itemEmbWeight

/-- A module with the given parameters. -/
def ofParameters (value : (parameter : Parameter) → Shaped K parameter.shape) :
    TwoTowerRanker K where
  userTower0Weight := value .userTower0Weight
  userTower0Bias := value .userTower0Bias
  userTower2Weight := value .userTower2Weight
  userTower2Bias := value .userTower2Bias
  itemEmbWeight := value .itemEmbWeight

@[simp] theorem parameter_ofParameters
    (value : (parameter : Parameter) → Shaped K parameter.shape)
    (parameter : Parameter) :
    (ofParameters value).parameter parameter = value parameter := by
  cases parameter <;> rfl

/-- The parameters determine the model. -/
theorem ext_parameter {model other : TwoTowerRanker K}
    (same : ∀ parameter, model.parameter parameter = other.parameter parameter) :
    model = other :=
  TwoTowerRanker.ext (same .userTower0Weight) (same .userTower0Bias)
    (same .userTower2Weight) (same .userTower2Bias) (same .itemEmbWeight)

end TwoTowerRanker

end DistributedInference.Ranking
