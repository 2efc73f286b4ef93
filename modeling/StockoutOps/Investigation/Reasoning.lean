import StockoutOps.Errors
import StockoutOps.Investigation.Evidence

/-!
Contract: the reasoning output contract.

Owns: `ReasoningResult`, whose values satisfy their length bounds by
construction, its strict validation and its dump, the round trip between them,
and the citation check.

Does not own: the adapter that produces a result.
-/

namespace StockoutOps.Investigation

/-- `str = Field(min_length=low, max_length=high)` -/
structure Text (low high : Nat) where
  value : String
  bounds : low ≤ value.length ∧ value.length ≤ high
deriving DecidableEq

def Text.validate (low high : Nat) : Json → Option (Text low high)
  | .str value =>
      if bounds : low ≤ value.length ∧ value.length ≤ high then some ⟨value, bounds⟩ else none
  | _ => none

/-- `list[str] = Field(min_length=1, max_length=3)` -/
structure Citations where
  items : List String
  bounds : 1 ≤ items.length ∧ items.length ≤ 3
deriving DecidableEq

def strItem : Json → Option String
  | .str value => some value
  | _ => none

def Citations.validate : Json → Option Citations
  | .arr items => do
      let texts ← items.mapM strItem
      if bounds : 1 ≤ texts.length ∧ texts.length ≤ 3 then some ⟨texts, bounds⟩ else none
  | _ => none

def Citations.modelDump (citations : Citations) : Json :=
  .arr (citations.items.map Json.str)

inductive Confidence where
  | low
  | medium
  | high
deriving DecidableEq, Repr

def Confidence.value : Confidence → String
  | .low => "low"
  | .medium => "medium"
  | .high => "high"

def Confidence.validate : Json → Option Confidence
  | .str "low" => some .low
  | .str "medium" => some .medium
  | .str "high" => some .high
  | _ => none

inductive ActionType where
  | monitor
  | reviewReplenishment
  | reviewTransfer
  | escalateManualInvestigation
deriving DecidableEq, Repr

def ActionType.value : ActionType → String
  | .monitor => "monitor"
  | .reviewReplenishment => "review_replenishment"
  | .reviewTransfer => "review_transfer"
  | .escalateManualInvestigation => "escalate_manual_investigation"

def ActionType.validate : Json → Option ActionType
  | .str "monitor" => some .monitor
  | .str "review_replenishment" => some .reviewReplenishment
  | .str "review_transfer" => some .reviewTransfer
  | .str "escalate_manual_investigation" => some .escalateManualInvestigation
  | _ => none

structure RootCauseHypothesis where
  statement : Text 1 600
  confidence : Confidence
  citations : Citations
deriving DecidableEq

structure RecommendationDraft where
  actionType : ActionType
  rationale : Text 1 1000
  citations : Citations
deriving DecidableEq

structure ReasoningResult where
  rootCauseHypothesis : RootCauseHypothesis
  recommendationDraft : RecommendationDraft
deriving DecidableEq

/-- An object with members of these names only (`extra="forbid"`). -/
def strictObject (names : List String) : Json → Option (List (String × Json))
  | .obj members => if members.all (fun member => member.1 ∈ names) then some members else none
  | _ => none

def RootCauseHypothesis.validate (value : Json) : Option RootCauseHypothesis := do
  let _ ← strictObject ["statement", "confidence", "citations"] value
  let statement ← (value.member? "statement").bind (Text.validate 1 600)
  let confidence ← (value.member? "confidence").bind Confidence.validate
  let citations ← (value.member? "citations").bind Citations.validate
  some ⟨statement, confidence, citations⟩

def RootCauseHypothesis.modelDump (hypothesis : RootCauseHypothesis) : Json :=
  .obj [("statement", .str hypothesis.statement.value),
    ("confidence", .str hypothesis.confidence.value),
    ("citations", hypothesis.citations.modelDump)]

def RecommendationDraft.validate (value : Json) : Option RecommendationDraft := do
  let _ ← strictObject ["action_type", "rationale", "citations"] value
  let actionType ← (value.member? "action_type").bind ActionType.validate
  let rationale ← (value.member? "rationale").bind (Text.validate 1 1000)
  let citations ← (value.member? "citations").bind Citations.validate
  some ⟨actionType, rationale, citations⟩

def RecommendationDraft.modelDump (draft : RecommendationDraft) : Json :=
  .obj [("action_type", .str draft.actionType.value), ("rationale", .str draft.rationale.value),
    ("citations", draft.citations.modelDump)]

namespace ReasoningResult

def modelValidate (value : Json) : Option ReasoningResult := do
  let _ ← strictObject ["root_cause_hypothesis", "recommendation_draft"] value
  let rootCauseHypothesis ←
    (value.member? "root_cause_hypothesis").bind RootCauseHypothesis.validate
  let recommendationDraft ←
    (value.member? "recommendation_draft").bind RecommendationDraft.validate
  some ⟨rootCauseHypothesis, recommendationDraft⟩

/-- `model_dump(mode="json")` -/
def modelDump (result : ReasoningResult) : Json :=
  .obj [("root_cause_hypothesis", result.rootCauseHypothesis.modelDump),
    ("recommendation_draft", result.recommendationDraft.modelDump)]

/-- The citations `validate_citations` looks at. -/
def citations (result : ReasoningResult) : List String :=
  result.rootCauseHypothesis.citations.items ++ result.recommendationDraft.citations.items

end ReasoningResult

def validateCitations (result : ReasoningResult) (evidenceIds : List String) :
    Except Failure Unit :=
  if result.citations.any (fun citation => citation ∉ evidenceIds) then
    .error (.valueError "Reasoning output contains an unknown evidence citation")
  else .ok ()

/-- `ReasoningOutcome`; the metadata of a call is only stored and read back. -/
structure ReasoningOutcome where
  result : ReasoningResult
  modelId : Json
  promptHash : Json
  inputHash : Json
  outputHash : Json
  inputTokens : Json
  outputTokens : Json
  latencyMs : Json
  estimatedCostUsd : Json

def ReasoningOutcome.metadata (outcome : ReasoningOutcome) : Json :=
  .obj [("model_id", outcome.modelId), ("prompt_hash", outcome.promptHash),
    ("input_hash", outcome.inputHash), ("output_hash", outcome.outputHash),
    ("input_tokens", outcome.inputTokens), ("output_tokens", outcome.outputTokens),
    ("latency_ms", outcome.latencyMs), ("estimated_cost_usd", outcome.estimatedCostUsd)]

/-! ## Round trip -/

@[simp] theorem Text.validate_str {low high : Nat} (text : Text low high) :
    Text.validate low high (.str text.value) = some text := by
  simp [Text.validate, text.bounds]

theorem strItem_dump (texts : List String) :
    (texts.map Json.str).mapM strItem = some texts := by
  induction texts with
  | nil => rfl
  | cons head tail inductionHypothesis => simp [strItem, inductionHypothesis]

@[simp] theorem Citations.validate_modelDump (citations : Citations) :
    Citations.validate citations.modelDump = some citations := by
  simp [Citations.validate, Citations.modelDump, strItem_dump, -List.mapM_map, citations.bounds]

@[simp] theorem Confidence.validate_value (confidence : Confidence) :
    Confidence.validate (.str confidence.value) = some confidence := by
  cases confidence <;> rfl

@[simp] theorem ActionType.validate_value (action : ActionType) :
    ActionType.validate (.str action.value) = some action := by
  cases action <;> rfl

@[simp] theorem RootCauseHypothesis.validate_modelDump (hypothesis : RootCauseHypothesis) :
    RootCauseHypothesis.validate hypothesis.modelDump = some hypothesis := by
  simp [RootCauseHypothesis.validate, RootCauseHypothesis.modelDump, strictObject,
    Json.member?]

@[simp] theorem RecommendationDraft.validate_modelDump (draft : RecommendationDraft) :
    RecommendationDraft.validate draft.modelDump = some draft := by
  simp [RecommendationDraft.validate, RecommendationDraft.modelDump, strictObject, Json.member?]

/-- A stored result reads back as the same result. -/
@[simp] theorem ReasoningResult.modelValidate_modelDump (result : ReasoningResult) :
    modelValidate result.modelDump = some result := by
  simp [modelValidate, modelDump, strictObject, Json.member?]

theorem validateCitations_eq_ok {result : ReasoningResult} {evidenceIds : List String} :
    validateCitations result evidenceIds = .ok () ↔
      ∀ citation ∈ result.citations, citation ∈ evidenceIds := by
  simp [validateCitations]

/-- An unknown citation is a `ValueError`. -/
theorem valueError_of_validateCitations {result : ReasoningResult} {evidenceIds : List String}
    {exception : Failure} (raised : validateCitations result evidenceIds = .error exception) :
    ∃ message, exception = .valueError message := by
  unfold validateCitations at raised
  split at raised
  · exact ⟨_, (Except.error.inj raised).symm⟩
  · cases raised

end StockoutOps.Investigation
