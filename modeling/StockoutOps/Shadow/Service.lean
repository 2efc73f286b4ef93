import StockoutOps.Investigation.Service
import StockoutOps.Shadow.Repository

/-!
Contract: the services of shadow processing.

Owns: `ShadowService.process` with the outcome it reads from an investigation,
and `ShadowIntakeService.import_case`.

Does not own: the investigation service it calls.

`process` takes the fuel of that service first.
-/

namespace StockoutOps.Shadow

open StockoutOps.Investigation StockoutOps.Sql StockoutOps.Foundation.Interleaving

def processorVersion : String := "m2-shadow-processor-v1.1"

def promptVersion : String := "m1-bounded-reasoning-v1"

def toolSchemaVersion : String := "v1"

/-- What the service is built from, with `_lock_key`, `str` of an id and
`float` of a JSON value. -/
structure ShadowService where
  investigation : InvestigationService
  models : ShadowModels
  manifestVersion : String
  lockKey : String → Int
  uuidText : ShadowRunId → String
  toFloat : Json → Except Failure PyFloat

/-- The arguments of `process`. -/
structure ProcessArguments where
  principal : Principal
  case : ShadowCase
  casePackVersion : String
  idempotencyKey : String
  execute : Bool

/-- `Field(ge=0)` -/
def ge0 : PyFloat → Bool
  | .finite value => 0 ≤ value
  | .posInf => true
  | .negInf | .nan => false

def validationFailure : Failure := .valueError "validation error"

/-- `str` and `str | None` fields. -/
def requireText : Json → Except Failure String
  | .str text => .ok text
  | _ => .error validationFailure

def optionalText : Json → Except Failure (Option String)
  | .null => .ok none
  | .str text => .ok (some text)
  | _ => .error validationFailure

def requireGe0 (value : PyFloat) : Except Failure PyFloat :=
  if ge0 value then .ok value else .error validationFailure

/-! ## The outcome of an investigation -/

/-- What a draft says, and whether it validates against the evidence. -/
structure DraftReading where
  schemaValid : Bool
  reasoning : Option ReasoningResult

def readDraft (draft : Option Json) (evidenceIds : List String) : DraftReading :=
  match draft with
  | none => ⟨true, none⟩
  | some payload =>
      match ReasoningResult.modelValidate payload with
      | none => ⟨false, none⟩
      | some reasoning =>
          match validateCitations reasoning evidenceIds with
          | .ok () => ⟨true, some reasoning⟩
          | .error _ => ⟨false, none⟩

/-- The code of the last `run_escalated` event, if the run is escalated. -/
def escalationCode (escalated : Bool) (events : List EventRow) : Except Failure (Option String) :=
  if escalated then
    match (events.filter (fun event => event.eventType == "run_escalated")).getLast? with
    | none => .ok none
    | some event => optionalText ((event.payload.member? "code").getD .null)
  else .ok none

/-- What `_actual` reads from the database. -/
structure Observed where
  detail : InvestigationService.Detail
  trail : InvestigationService.AuditTrail
  reasoning : Option ToolRow

namespace ShadowService

variable (service : ShadowService)

/-- `ShadowActualOutcome(...)` of what was read. -/
def assemble (case : ShadowCase) (observed : Observed) : Except Failure ShadowActualOutcome := do
  let evidence := observed.detail.evidence
  let evidenceIds := evidence.map Evidence.evidenceId
  let evidenceTools := evidence.map (fun item => item.tool.value)
  let draft := readDraft (loadJsonb observed.detail.run.draftJson) evidenceIds
  let citationIds := (draft.reasoning.map ReasoningResult.citations).getD []
  let metadata := (observed.reasoning.map ToolRow.metadataJson).getD (.obj [])
  let latency ← service.toFloat ((metadata.member? "latency_ms").getD (.float (.finite 0)))
  let escalated := observed.detail.run.state == .escalated
  let code ← escalationCode escalated observed.trail.events
  let missing ← missingRequiredEvidenceCount
    case.minimumEvidenceCitationExpectations.toolNames evidenceTools
  let cost ← match metadata.member? "estimated_cost_usd" with
    | none | some .null => pure none
    | some value => do
        let cost ← service.toFloat value
        let checked ← requireGe0 cost
        pure (some checked)
  let providerLabel ← requireText ((metadata.member? "model_id").getD (.str "not-invoked"))
  let latencyMs ← requireGe0 latency
  pure
    { state := observed.detail.run.state.value
      escalated := escalated
      escalationCode := code
      rootCauseStatement := draft.reasoning.map (·.rootCauseHypothesis.statement.value)
      recommendationActionType := draft.reasoning.map (·.recommendationDraft.actionType.value)
      confidence := draft.reasoning.map (·.rootCauseHypothesis.confidence.value)
      evidenceTools := evidenceTools
      evidenceIds := evidenceIds
      citationIds := citationIds
      unsupportedCitationCount :=
        (citationIds.dedup.filter (fun citation => citation ∉ evidenceIds)).length
      missingRequiredEvidenceCount := missing
      citationCoverage :=
        if evidenceIds = [] then 0
        else ratio (citationIds.dedup.filter (fun citation => citation ∈ evidenceIds)).length
          evidenceIds.dedup.length
      schemaValid := draft.schemaValid
      reasoningInvoked := observed.reasoning.isSome
      providerLabel := providerLabel
      latencyMs := latencyMs
      estimatedCostUsd := cost
      costEvidenceLabel := if observed.reasoning.isSome then .simulated else .unmeasured }

/-- `_actual` -/
def actual (principal : Principal) (runId : RunId) (case : ShadowCase) :
    ShadowRoutine ShadowActualOutcome := do
  let detail ← onInvestigations (service.investigation.detail principal runId)
  let trail ← onInvestigations (InvestigationService.audit principal runId)
  let reasoning ← onInvestigations (getTool principal runId .reasoning)
  settle (service.assemble case ⟨detail, trail, reasoning⟩)

/-! ## `process` -/

/-- The guards of `process`, in their order. -/
def guards (arguments : ProcessArguments) : Except Failure Unit := do
  if arguments.execute then
    throw (.stockoutOps (.validationError "SHADOW_EXECUTION_FORBIDDEN"
      "M2 shadow processing is permanently hard-locked to execute=false"))
  if arguments.principal.tenantId ≠ arguments.case.tenantId then
    throw (.stockoutOps .notFoundError)
  if ¬ arguments.principal.hasRole "operator" then
    throw (.stockoutOps (.authorizationError
      "Shadow processing requires the simulated operator role"))
  if ¬ lengthBetween 1 200 arguments.idempotencyKey then
    throw (.stockoutOps (.validationError "INVALID_IDEMPOTENCY_KEY"
      "Idempotency key must contain 1-200 characters"))
  if service.manifestVersion ≠ arguments.casePackVersion then
    throw (.stockoutOps (.validationError "SHADOW_CASE_PACK_MISMATCH"
      "Runtime evidence provenance must use the verified shadow case-pack version"))

/-- The object that `payload_hash` is taken of. -/
def payload (arguments : ProcessArguments) : Json :=
  .obj [("case", arguments.case.modelDump), ("case_pack_version", .str arguments.casePackVersion),
    ("processor_version", .str processorVersion), ("prompt_version", .str promptVersion),
    ("tool_schema_version", .str toolSchemaVersion), ("execute", .bool false)]

def payloadHash (arguments : ProcessArguments) : String :=
  service.investigation.provenance.canonicalHash (payload arguments)

def beginCall (arguments : ProcessArguments) (now : Timestamp) : BeginCall where
  principal := arguments.principal
  idempotencyKey := arguments.idempotencyKey
  payloadHash := service.payloadHash arguments
  caseId := arguments.case.caseId
  caseVersion := arguments.case.caseVersion
  casePackVersion := arguments.casePackVersion
  processorVersion := processorVersion
  promptVersion := promptVersion
  provenanceLabel := arguments.case.provenanceLabel
  baselineSource := arguments.case.baselineSource
  now := now

/-- The intake of the investigation that a shadow run leads to. -/
def nestedIntake (arguments : ProcessArguments) (run : ShadowRunRow) : IntakeArguments where
  request := arguments.case.input
  modelDump := arguments.case.inputDump
  idempotencyKey := "shadow:" ++ service.uuidText run.shadowRunId
  runMode := .shadow

def divergedCounts : Failure :=
  .runtimeError
    "Canonical missing-required-evidence counts diverged between actual and comparison"

/-- The comparison of an outcome, checked against its own count. -/
def compared (case : ShadowCase) (actual : ShadowActualOutcome) :
    Except Failure ShadowComparison := do
  let comparison ← compare case actual
  if actual.missingRequiredEvidenceCount ≠ comparison.missingRequiredEvidenceCount then
    throw divergedCounts
  pure comparison

/-- The body of `with claim:`. -/
def analyse (fuel : Nat) (arguments : ProcessArguments) (run : ShadowRunRow) :
    ShadowRoutine ShadowRunRow := do
  let (investigation, _) ← onInvestigations
    (service.investigation.intake arguments.principal fuel (service.nestedIntake arguments run))
  let actual ← service.actual arguments.principal investigation.runId arguments.case
  let comparison ← settle (compared arguments.case actual)
  let completedAt ← perform ShadowAction.clock
  complete service.models
    { principal := arguments.principal
      run := run
      investigationRunId := investigation.runId
      actual := actual
      comparison := comparison
      outputHash :=
        service.investigation.provenance.canonicalHash (service.models.dumpActual actual)
      diffHash :=
        service.investigation.provenance.canonicalHash (service.models.dumpComparison comparison)
      completedAt := completedAt }

/-- What `process` does with what it began. -/
def finish (fuel : Nat) (arguments : ProcessArguments) : Begun → ShadowRoutine ShadowResult
  | (run, none, _) => settle (resultFromRecord service.models run true)
  | (run, some keys, _) => do
      let completed ← withShadowClaim keys (service.analyse fuel arguments run)
      settle (resultFromRecord service.models completed false)

def process (fuel : Nat) (arguments : ProcessArguments) : ShadowRoutine ShadowResult := do
  let _ ← settle (service.guards arguments)
  let now ← perform ShadowAction.clock
  let begun ← beginOrObserve service.lockKey (service.beginCall arguments now)
  service.finish fuel arguments begun

/-! ## `import_case` -/

/-- The guards of `import_case` that a `ShadowCase` does not satisfy by construction. -/
def importGuards (principal : Principal) (case : ShadowCase) (execute : Bool) :
    Except Failure Unit := do
  if execute then
    throw (.stockoutOps (.validationError "SHADOW_EXECUTION_FORBIDDEN"
      "M2 shadow intake is permanently hard-locked to execute=false"))
  if principal.tenantId ≠ case.tenantId then throw (.stockoutOps .notFoundError)
  if ¬ principal.hasRole "operator" then
    throw (.stockoutOps (.authorizationError
      "Shadow intake requires the simulated operator role"))
  if case.provenanceLabel ≠ .genuineUatAnalystLabelled then
    throw (.stockoutOps (.validationError "SHADOW_INTAKE_PROVENANCE_INVALID"
      "Genuine UAT intake rejects SIMULATED or uncontrolled provenance"))

/-- `case_payload_hash` -/
def casePayloadHash (case : ShadowCase) : String :=
  service.investigation.provenance.canonicalHash case.modelDump

/-- `import_case`; the row it gets has `execute` and `external_action_count` checked
by its table. -/
def importCase (principal : Principal) (case : ShadowCase) (execute : Bool) :
    ShadowRoutine (ShadowIntakeRow × Bool) := do
  let _ ← settle (importGuards principal case execute)
  let now ← perform ShadowAction.clock
  let (record, created) ← importOrObserve service.lockKey
    { principal := principal
      case := case
      payloadHash := service.casePayloadHash case
      now := now }
  if record.externalActionCount ≠ 0 ∨ record.execute then
    Call.raise (.runtimeError "Shadow intake violated the execute=false invariant")
  else pure (record, created)

end ShadowService

end StockoutOps.Shadow
