import StockoutOps.Investigation.Fixtures
import StockoutOps.Investigation.Repository

/-!
Contract: the control spine of an investigation.

Owns: `InvestigationService`: intake with the loops that resume a run, the
evidence and reasoning stages with the exceptions each of them catches,
escalation, review and the two reads.

Does not own: the evidence tools and the reasoning adapter; a call of one of
them answers with an input.

A loop of the source takes its fuel first; out of fuel it goes on for ever.
-/

namespace StockoutOps.Investigation

open StockoutOps.Sql StockoutOps.Foundation.Interleaving

/-- What the service is built from, with the hash of a tool's lock name. -/
structure InvestigationService where
  provenance : Provenance
  codec : EvidenceCodec
  toolLockKey : RunId → ToolName → Int
  /-- `identity_provider.assigned_reviewer`; `none` is its `ConfigurationError`. -/
  assignedReviewer : String → Option String

/-- `REVIEW_POLICY` -/
def reviewPolicy : Int := 24 * hour

/-- The arguments of `intake` after the principal. `modelDump` is the request's
JSON, in which a timestamp keeps the time zone it came with. -/
structure IntakeArguments where
  request : IntakeRequest
  modelDump : Json
  idempotencyKey : String
  runMode : RunMode

def clock : Routine Timestamp := execute Statement.clock

/-- `not idempotency_key or len(idempotency_key) > 200` -/
def requireIdempotencyKey (idempotencyKey : String) : Except Failure Unit :=
  if lengthBetween 1 200 idempotencyKey then .ok ()
  else .error (.stockoutOps (.validationError "INVALID_IDEMPOTENCY_KEY"
    "Idempotency-Key must contain 1-200 characters"))

/-- `_forbidden_retry_code` -/
def forbiddenRetryCode (existing : ToolRow) (default : String) : String :=
  if existing.status = .failed then
    match existing.metadataJson.member? "error_code" with
    | some (.str code) => code
    | _ => default
  else default

/-- `metadata={"error_code": code}` -/
def errorMetadata (code : String) : Json := .obj [("error_code", .str code)]

/-- The arguments of the evidence tools for a run. -/
def evidenceQuery (principal : Principal) (run : RunRow) : EvidenceQuery where
  tenantId := principal.tenantId
  skuId := run.skuId
  storeId := run.storeId
  supplierId := run.supplierId
  asOfTs := run.asOfTs
  windowStart := run.windowStart
  windowEnd := run.windowEnd

namespace InvestigationService

variable (service : InvestigationService) (principal : Principal)

/-- `_escalate` -/
def escalate (run : RunRow) (code : String) : Routine RunRow := do
  let now ← clock
  transition principal run .escalated "run_escalated" now (.obj [("code", .str code)])

/-! ## Evidence -/

/-- `with claim:` around the call of a tool. -/
def invokeTool (run : RunRow) (tool : ToolName) : Routine Evidence := withClaim do
  match ← Call.attempt (execute (Statement.invokeTool run.runId tool)) with
  | .error (.evidenceFailure code message) => do
      let now ← clock
      completeTool principal run.runId tool none (errorMetadata code) .failed now
      raise (.evidenceFailure code message)
  | .error exception => raise exception
  | .ok item => do
      let now ← clock
      completeTool principal run.runId tool (some (service.codec.modelDump item))
        (.obj [("evidence_id", .str item.evidenceId)]) .completed now
      pure item

/-- What a caller makes of a tool row that is already there. -/
def observeTool (existing : ToolRow) (tool : ToolName) : Except Failure Evidence :=
  if existing.status = .completed ∧ existing.resultJson.getD .null ≠ .null then
    service.codec.parseEvidence existing.resultJson
  else .error (.evidenceFailure (forbiddenRetryCode existing "EVIDENCE_RETRY_FORBIDDEN")
    (tool.value ++ " was already attempted and will not be retried"))

/-- One turn of the loop of `_gather_evidence`. -/
def gatherTool (run : RunRow) (tool : ToolName) : Routine Evidence := do
  let now ← clock
  let (existing, claimed) ← claimOrObserveTool service.toolLockKey principal run.runId tool
    (service.provenance.canonicalHash
      ((evidenceQuery principal run).toJson service.provenance tool)) now
  if claimed then service.invokeTool principal run tool
  else lift (service.observeTool existing tool)

/-- `_gather_evidence` -/
def gatherEvidence (run : RunRow) : Routine (List Evidence) := do
  let inventory ← service.gatherTool principal run .inventory
  let demand ← service.gatherTool principal run .salesDemand
  let supplier ← service.gatherTool principal run .supplier
  pure [inventory, demand, supplier]

/-! ## Reasoning -/

/-- `metadata[key]` -/
def requireMember (metadata : Json) (key : String) : Except Failure Json :=
  match metadata.member? key with
  | some value => .ok value
  | none => .error (.keyError key)

/-- `ReasoningResult.model_validate` -/
def validateResult (payload : Option Json) : Except Failure ReasoningResult :=
  match ReasoningResult.modelValidate (payload.getD .null) with
  | some result => .ok result
  | none => .error (.valueError "reasoning result does not validate")

/-- `_reason_outcome_from_row` -/
def reasonOutcomeFromRow (row : ToolRow) : Except Failure ReasoningOutcome := do
  let result ← validateResult row.resultJson
  let modelId ← requireMember row.metadataJson "model_id"
  let promptHash ← requireMember row.metadataJson "prompt_hash"
  let inputHash ← requireMember row.metadataJson "input_hash"
  let outputHash ← requireMember row.metadataJson "output_hash"
  let latencyMs ← requireMember row.metadataJson "latency_ms"
  .ok
    { result := result
      modelId := modelId
      promptHash := promptHash
      inputHash := inputHash
      outputHash := outputHash
      inputTokens := (row.metadataJson.member? "input_tokens").getD .null
      outputTokens := (row.metadataJson.member? "output_tokens").getD .null
      latencyMs := latencyMs
      estimatedCostUsd := (row.metadataJson.member? "estimated_cost_usd").getD .null }

/-- The adapter with the citation check. -/
def askAdapter (run : RunRow) (evidence : List Evidence) : Routine ReasoningOutcome := do
  let outcome ← execute (Statement.invokeReasoning run.runId evidence)
  let _ ← lift (validateCitations outcome.result (evidence.map Evidence.evidenceId))
  pure outcome

/-- `except (ReasoningFailure, ValueError)`: the code to store, and the exception
that replaces the one caught. -/
def caughtReasoning : Failure → Option (String × Failure)
  | .reasoningFailure code message => some (code, .reasoningFailure code message)
  | .valueError _ =>
      some ("INVALID_REASONING_OUTPUT",
        .reasoningFailure "INVALID_REASONING_OUTPUT" "Reasoning citation validation failed")
  | _ => none

/-- `with claim:` around the call of the adapter. -/
def invokeReasoning (run : RunRow) (evidence : List Evidence) : Routine ReasoningOutcome :=
  withClaim do
    match ← Call.attempt (askAdapter run evidence) with
    | .error exception =>
        match caughtReasoning exception with
        | some (code, replacement) => do
            let now ← clock
            completeTool principal run.runId .reasoning none (errorMetadata code) .failed now
            raise replacement
        | none => raise exception
    | .ok outcome => do
        let now ← clock
        completeTool principal run.runId .reasoning (some outcome.result.modelDump)
          outcome.metadata .completed now
        pure outcome

/-- `existing["status"] == "completed" and existing["result_json"]` -/
def observeReasoning (existing : ToolRow) : Except Failure ReasoningOutcome :=
  if existing.status = .completed ∧ (existing.resultJson.getD .null).truthy = true then
    reasonOutcomeFromRow existing
  else .error (.reasoningFailure (forbiddenRetryCode existing "REASONING_RETRY_FORBIDDEN")
    "A reasoning invocation already exists and will not be retried")

/-- `_reason_once` -/
def reasonOnce (run : RunRow) : Routine ReasoningOutcome := do
  let evidence ← listEvidence service.codec principal run.runId
  let requestHash := service.provenance.canonicalHash
    (.arr (evidence.map service.codec.modelDump))
  let now ← clock
  let (existing, claimed) ← claimOrObserveTool service.toolLockKey principal run.runId
    .reasoning requestHash now
  if claimed then invokeReasoning principal run evidence
  else lift (observeReasoning existing)

/-! ## Resuming a run -/

/-- The checks of `QUALITY_CHECKS`: the code to escalate with, if there is one. -/
def qualityChecks (run : RunRow) : Routine (Option String) := do
  let outcome ← Call.attempt do
    let evidence ← listEvidence service.codec principal run.runId
    lift (validateBundle service.provenance evidence run.asOfTs)
  match outcome with
  | .ok () => pure none
  | .error (.evidenceFailure code _) => pure (some code)
  | .error (.valueError _) => pure (some "EVIDENCE_SCHEMA_INVALID")
  | .error exception => raise exception

/-- The stored result of the reasoning, checked once more. -/
def storedResult (run : RunRow) (invocation : ToolRow) : Routine ReasoningResult := do
  let result ← lift (validateResult invocation.resultJson)
  let evidence ← listEvidence service.codec principal run.runId
  let _ ← lift (validateCitations result (evidence.map Evidence.evidenceId))
  pure result

/-- `DRAFTING_RECOMMENDATION`: the result of the draft, or the code to escalate with. -/
def draftResult (run : RunRow) : Routine (Except String ReasoningResult) := do
  match ← getTool principal run.runId .reasoning with
  | none => pure (.error "REASONING_RESULT_UNAVAILABLE")
  | some invocation =>
      if invocation.status ≠ .completed then pure (.error "REASONING_RESULT_UNAVAILABLE")
      else
        match ← Call.attempt (service.storedResult principal run invocation) with
        | .ok result => pure (.ok result)
        | .error (.valueError _) => pure (.error "INVALID_REASONING_OUTPUT")
        | .error exception => raise exception

/-- The draft of a result, and the transition to a human. -/
def presentDraft (run : RunRow) (result : ReasoningResult) : Routine RunRow := do
  let draft := result.modelDump
  let draftHash := service.provenance.canonicalHash draft
  let now ← clock
  setDraftAndTransition service.provenance principal run draft draftHash now (now + reviewPolicy)

/-- One turn of the loop of `_resume_step`: the next run, or the run to return. -/
def resumeTurn (run : RunRow) : Routine (RunRow ⊕ RunRow) :=
  match run.state with
  | .created => do
      let now ← clock
      let next ← transition principal run .validating "validation_started" now (.obj [])
      pure (.inl next)
  | .validating => do
      let now ← clock
      let next ← transition principal run .gatheringEvidence "evidence_gathering_started" now
        (.obj [])
      pure (.inl next)
  | .gatheringEvidence => do
      match ← Call.attempt (service.gatherEvidence principal run) with
      | .error (.evidenceFailure code _) => do
          let escalated ← escalate principal run code
          pure (.inr escalated)
      | .error exception => raise exception
      | .ok _ => do
          let now ← clock
          let next ← transition principal run .qualityChecks "evidence_gathered" now (.obj [])
          pure (.inl next)
  | .qualityChecks => do
      match ← service.qualityChecks principal run with
      | some code => do
          let escalated ← escalate principal run code
          pure (.inr escalated)
      | none => do
          let now ← clock
          let next ← transition principal run .reasoning "quality_checks_passed" now (.obj [])
          pure (.inl next)
  | .reasoning => do
      match ← Call.attempt (service.reasonOnce principal run) with
      | .error (.reasoningFailure code _) => do
          let escalated ← escalate principal run code
          pure (.inr escalated)
      | .error exception => raise exception
      | .ok _ => do
          let now ← clock
          let next ← transition principal run .draftingRecommendation "reasoning_completed" now
            (.obj [])
          pure (.inl next)
  | .draftingRecommendation => do
      match ← service.draftResult principal run with
      | .error code => do
          let escalated ← escalate principal run code
          pure (.inr escalated)
      | .ok result => do
          let next ← service.presentDraft principal run result
          pure (.inl next)
  | .awaitingHuman | .approved | .editedAndApproved | .rejected | .escalated | .closed
  | .failedAuthz => pure (.inr run)

/-- `_resume_step` -/
def resumeStep : Nat → RunRow → Routine RunRow
  | 0, _ => Call.spin
  | fuel + 1, run => do
      match ← service.resumeTurn principal run with
      | .inl next => resumeStep fuel next
      | .inr result => pure result

/-- `_resume`: whoever loses a transition reads the run again. -/
def resume : Nat → RunRow → Routine RunRow
  | 0, _ => Call.spin
  | fuel + 1, run => do
      match ← Call.attempt (service.resumeStep principal fuel run) with
      | .ok result => pure result
      | .error (.stockoutOps (.conflictError code message)) =>
          if code = "STATE_VERSION_CONFLICT" then do
            let current ← getRun principal run.runId
            resume fuel current
          else raise (.conflict code message)
      | .error exception => raise exception

/-! ## Intake -/

/-- The call of `begin_intake` that `intake` makes. -/
def intakeCall (arguments : IntakeArguments) (assignedReviewerId : String) (now : Timestamp) :
    IntakeCall where
  principal := principal
  request := arguments.request
  idempotencyKey := arguments.idempotencyKey
  payloadHash := service.provenance.canonicalHash arguments.modelDump
  assignedReviewerId := assignedReviewerId
  now := now
  runMode := arguments.runMode

/-- `intake`: the run, and whether this call created it. -/
def intake (fuel : Nat) (arguments : IntakeArguments) : Routine (RunRow × Bool) :=
  if ¬ principal.hasRole "operator" then
    raise (.stockoutOps (.authorizationError "Operator role is required for intake"))
  else do
    let _ ← lift (requireIdempotencyKey arguments.idempotencyKey)
    match service.assignedReviewer principal.tenantId with
    | none =>
        raise (.runtimeError
          ("No server-side reviewer assignment for tenant " ++ principal.tenantId))
    | some assignedReviewerId => do
        let now ← clock
        let (run, created) ← beginIntake
          (service.intakeCall principal arguments assignedReviewerId now)
        let resumed ← service.resume principal fuel run
        pure (resumed, created)

/-! ## Review -/

/-- The edited payload of a review, validated against the run's evidence. -/
def validateEdit (runId : RunId) (payload : Json) : Routine ReasoningResult := do
  let edited ← lift (validateResult (some payload))
  let evidence ← listEvidence service.codec principal runId
  let _ ← lift (validateCitations edited (evidence.map Evidence.evidenceId))
  pure edited

/-- The edit to record: its dump and its hash. -/
def editedPayload (runId : RunId) (request : ReviewRequest) :
    Routine (Option (Json × String)) := do
  match request.editedPayload with
  | none => pure none
  | some payload =>
      match ← Call.attempt (service.validateEdit principal runId payload) with
      | .ok edited =>
          pure (some (edited.modelDump, service.provenance.canonicalHash edited.modelDump))
      | .error (.valueError _) => do
          let now ← clock
          appendRejectedControl principal runId "INVALID_EDITED_PAYLOAD" now
          raise (.stockoutOps (.validationError "INVALID_EDITED_PAYLOAD"
            "Edited payload failed strict schema or citation validation"))
      | .error exception => raise exception

/-- `review` -/
def review (runId : RunId) (request : ReviewRequest) (idempotencyKey : String) :
    Routine RunRow :=
  if ¬ principal.hasRole "reviewer" then do
    let now ← clock
    match ← Call.attempt (appendRejectedControl principal runId "REVIEWER_ROLE_REQUIRED" now) with
    | .ok () | .error (.stockoutOps _) =>
        raise (.stockoutOps (.authorizationError "Reviewer role is required"))
    | .error exception => raise exception
  else do
    let _ ← lift (requireIdempotencyKey idempotencyKey)
    let edited ← service.editedPayload principal runId request
    let now ← clock
    recordReview
      { principal := principal
        runId := runId
        idempotencyKey := idempotencyKey
        action := request.action
        submittedDraftHash := request.draftHash
        editedPayload := edited.map Prod.fst
        editedPayloadHash := edited.map Prod.snd
        reason := request.reason
        now := now }

/-! ## Reads -/

/-- What `detail` reads; its dictionary has columns of the run. -/
structure Detail where
  run : RunRow
  evidence : List Evidence
  decision : Option DecisionRow

def detail (runId : RunId) : Routine Detail := do
  let run ← getRun principal runId
  let evidence ← listEvidence service.codec principal run.runId
  let decision ← getDecision principal run.runId
  pure ⟨run, evidence, decision⟩

/-- What `audit` reads; `replayed_state` is a fold over the events. -/
structure AuditTrail where
  current : RunRow
  events : List EventRow

def audit (runId : RunId) : Routine AuditTrail := do
  let events ← Investigation.audit principal runId
  let current ← getRun principal runId
  pure ⟨current, events⟩

end InvestigationService

end StockoutOps.Investigation
