import StockoutOps.Errors
import StockoutOps.Shadow.Schema

/-!
Contract: the results of shadow processing.

Owns: `ShadowActualOutcome`, `ShadowComparison` and `ShadowResult`, the record
read from a `shadow_run` row, and the result a record makes.

Does not own: the validation of the stored JSON by the model library, which is a
parameter (`ShadowModels`) and raises pydantic's `ValidationError`, a
`ValueError`.
-/

namespace StockoutOps.Shadow

open StockoutOps.Investigation StockoutOps.Sql

inductive Agreement where
  | exact
  | partly
  | disagree
deriving DecidableEq, Repr

structure ShadowActualOutcome where
  state : String
  escalated : Bool
  escalationCode : Option String
  rootCauseStatement : Option String
  recommendationActionType : Option String
  confidence : Option String
  evidenceTools : List String
  evidenceIds : List String
  citationIds : List String
  unsupportedCitationCount : Nat
  missingRequiredEvidenceCount : Nat
  citationCoverage : ℚ
  schemaValid : Bool
  reasoningInvoked : Bool
  providerLabel : String
  latencyMs : PyFloat
  estimatedCostUsd : Option PyFloat
  costEvidenceLabel : CostEvidenceLabel
deriving DecidableEq

structure ShadowDiffEntry where
  fieldName : String
  agreement : Agreement
  expected : Json
  actual : Json
  category : String
deriving DecidableEq

structure ShadowComparison where
  exactAgreement : Bool
  entries : List ShadowDiffEntry
  disagreementCategories : List String
  unsupportedCitationCount : Nat
  missingRequiredEvidenceCount : Nat
  citationCoverage : ℚ
deriving DecidableEq

structure ShadowResult where
  shadowRunId : ShadowRunId
  investigationRunId : RunId
  caseId : String
  caseVersion : String
  casePackVersion : String
  tenantId : String
  processorVersion : String
  promptVersion : String
  provenanceLabel : ProvenanceLabel
  baselineSource : BaselineSource
  outputHash : String
  diffHash : String
  actual : ShadowActualOutcome
  comparison : ShadowComparison
  idempotentReplay : Bool
deriving DecidableEq

/-- `ShadowActualOutcome` and `ShadowComparison` to and from JSON. -/
structure ShadowModels where
  validateActual : Json → Except String ShadowActualOutcome
  validateComparison : Json → Except String ShadowComparison
  dumpActual : ShadowActualOutcome → Json
  dumpComparison : ShadowComparison → Json

/-- What the driver makes of a `jsonb` value: the JSON `null` is `None`, as SQL's
NULL is. -/
def loadJsonb : Option Json → Option Json
  | none | some .null => none
  | some value => some value

/-- `_record`; a record has the fields of its row. -/
def ShadowRunRow.record (row : ShadowRunRow) : ShadowRunRow :=
  { row with
    outputJson := loadJsonb row.outputJson
    diffJson := loadJsonb row.diffJson }

def missingResult : Failure :=
  .runtimeError "Completed shadow record is missing its persisted result"

/-- `model_validate` -/
def validated {α : Type} : Except String α → Except Failure α
  | .ok value => .ok value
  | .error message => .error (.valueError message)

/-- `_result_from_record`; the tool schema version is the literal `v1`. -/
def resultFromRecord (models : ShadowModels) (run : ShadowRunRow) (replay : Bool) :
    Except Failure ShadowResult :=
  match run.investigationRunId, run.outputJson, run.diffJson, run.outputHash, run.diffHash with
  | some investigationRunId, some outputJson, some diffJson, some outputHash, some diffHash => do
      let actual ← validated (models.validateActual outputJson)
      let comparison ← validated (models.validateComparison diffJson)
      if isHex64 outputHash = false ∨ isHex64 diffHash = false then
        throw (.valueError "String should match pattern '^[0-9a-f]\x7b64\x7d$'")
      .ok
        { shadowRunId := run.shadowRunId
          investigationRunId := investigationRunId
          caseId := run.caseId
          caseVersion := run.caseVersion
          casePackVersion := run.casePackVersion
          tenantId := run.tenantId
          processorVersion := run.processorVersion
          promptVersion := run.promptVersion
          provenanceLabel := run.provenanceLabel
          baselineSource := run.baselineSource
          outputHash := outputHash
          diffHash := diffHash
          actual := actual
          comparison := comparison
          idempotentReplay := replay }
  | _, _, _, _, _ => .error missingResult

/-- The result is there, whatever the model library makes of it. -/
def ShadowRunRow.hasResult (run : ShadowRunRow) : Bool :=
  run.investigationRunId.isSome && run.outputJson.isSome && run.diffJson.isSome &&
    run.outputHash.isSome && run.diffHash.isSome

theorem resultFromRecord_ne_missing_iff (models : ShadowModels) (run : ShadowRunRow)
    (replay : Bool) :
    resultFromRecord models run replay ≠ .error missingResult ↔ run.hasResult = true := by
  have validations {α β : Type} (result : Except String α) {next : α → Except Failure β}
      (rest : ∀ value, next value ≠ .error missingResult) :
      (validated result >>= next) ≠ .error missingResult := by
    cases result with
    | ok value => exact rest value
    | error message => exact nofun
  unfold resultFromRecord ShadowRunRow.hasResult
  split
  case h_1 investigationRunId outputJson diffJson outputHash diffHash =>
    refine iff_of_true (validations _ fun actual => validations _ fun comparison => ?_)
      (by simp [*])
    split <;> nofun
  case h_2 none_ =>
    refine iff_of_false (not_not.mpr rfl) fun complete => ?_
    simp only [Bool.and_eq_true, Option.isSome_iff_exists] at complete
    obtain ⟨⟨⟨⟨⟨_, runId⟩, _, output⟩, _, diff⟩, _, outputHash⟩, _, diffHash⟩ := complete
    exact none_ _ _ _ _ _ runId output diff outputHash diffHash

end StockoutOps.Shadow
