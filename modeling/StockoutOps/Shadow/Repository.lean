import StockoutOps.Shadow.Server

/-!
Contract: the persistence of shadow runs and of imported cases.

Owns: `ShadowRepository.begin_or_observe` and `complete`, the claim with its
release, and `ShadowIntakeRepository.import_or_observe`, as sequences of
statements with their error branches.

Does not own: the statements, and who calls a method when.
-/

namespace StockoutOps.Shadow

open StockoutOps.Investigation StockoutOps.Sql StockoutOps.Foundation.Interleaving

/-- One statement, or one step of the process. -/
def perform {ρ : Type} (action : ShadowAction ρ) : ShadowRoutine ρ := Call.exec action

/-- A value or an exception that is already there. -/
def settle {ρ : Type} : Except Failure ρ → ShadowRoutine ρ
  | .ok value => pure value
  | .error exception => Call.raise exception

/-! ## Locks -/

/-- `sorted({...})` -/
def sortedKeys (keys : List Int) : List Int :=
  keys.dedup.mergeSort (fun left right => decide (left ≤ right))

def lockAll : List Int → ShadowRoutine Unit
  | [] => pure ()
  | key :: keys => do
      perform (ShadowAction.advisoryLock key)
      lockAll keys

def unlockAll : List Int → ShadowRoutine Unit
  | [] => pure ()
  | key :: keys => do
      perform (ShadowAction.advisoryUnlock key)
      unlockAll keys

/-- The locks are given back in the other order, and the connection is closed. -/
def unlockAndClose (keys : List Int) : ShadowRoutine Unit := do
  unlockAll keys.reverse
  perform ShadowAction.close

/-- `ShadowClaim.release` -/
def releaseClaim (keys : List Int) : ShadowRoutine Unit := do
  perform ShadowAction.markReleased
  unlockAndClose keys

/-- `with claim:` releases the claim whatever happens in the body. -/
def withShadowClaim {ρ : Type} (keys : List Int) (body : ShadowRoutine ρ) : ShadowRoutine ρ := do
  let result ← Call.attempt body
  releaseClaim keys
  settle result

/-! ## `begin_or_observe` -/

/-- The arguments of `begin_or_observe`. -/
structure BeginCall where
  principal : Principal
  idempotencyKey : String
  payloadHash : String
  caseId : String
  caseVersion : String
  casePackVersion : String
  processorVersion : String
  promptVersion : String
  provenanceLabel : ProvenanceLabel
  baselineSource : BaselineSource
  now : Timestamp

namespace BeginCall

def keyLockName (call : BeginCall) : String :=
  "shadow:idempotency:" ++ call.principal.tenantId ++ ":" ++ call.idempotencyKey

def caseLockName (call : BeginCall) : String :=
  "shadow:case:" ++ call.principal.tenantId ++ ":" ++ call.caseId ++ ":" ++ call.caseVersion ++
    ":" ++ call.processorVersion

def keys (lockKey : String → Int) (call : BeginCall) : List Int :=
  sortedKeys [lockKey call.keyLockName, lockKey call.caseLockName]

def startedRow (call : BeginCall) (shadowRunId : ShadowRunId) : ShadowRunRow where
  shadowRunId := shadowRunId
  tenantId := call.principal.tenantId
  idempotencyKey := call.idempotencyKey
  payloadHash := call.payloadHash
  caseId := call.caseId
  caseVersion := call.caseVersion
  casePackVersion := call.casePackVersion
  processorVersion := call.processorVersion
  promptVersion := call.promptVersion
  toolSchemaVersion := "v1"
  provenanceLabel := call.provenanceLabel
  baselineSource := call.baselineSource
  execute := false
  externalActionCount := 0
  createdBy := call.principal.actorId
  createdAt := call.now
  status := .started
  investigationRunId := none
  providerLabel := none
  outputJson := none
  diffJson := none
  outputHash := none
  diffHash := none
  latencyMs := none
  estimatedCostUsd := none
  costEvidenceLabel := none
  completedAt := none

def event (call : BeginCall) (run : ShadowRunRow) (eventType : String) (payload : Json) :
    ShadowEventRow where
  shadowRunId := run.shadowRunId
  tenantId := run.tenantId
  eventType := eventType
  actorId := call.principal.actorId
  payload := payload
  occurredAt := call.now

def rejectedEvent (call : BeginCall) (run : ShadowRunRow) : ShadowEventRow :=
  call.event run "shadow_request_rejected" (.obj [("code", .str "SHADOW_IDEMPOTENCY_CONFLICT")])

def startedEvent (call : BeginCall) (run : ShadowRunRow) : ShadowEventRow :=
  call.event run "shadow_run_started"
    (.obj [("execute", .bool false), ("external_action_count", .int 0)])

end BeginCall

def identityConflict : Failure :=
  .conflict "SHADOW_IDENTITY_CONFLICT"
    "Idempotency key and case identity resolve to different shadow runs"

def idempotencyConflict : Failure :=
  .conflict "SHADOW_IDEMPOTENCY_CONFLICT"
    "Shadow identity was already used with a different payload"

/-- The run, the keys of the claim if there is one, and `created`. -/
abbrev Begun : Type := ShadowRunRow × Option (List Int) × Bool

/-- The branch of a run that was found. -/
def observeRun (call : BeginCall) (keys : List Int) (row : ShadowRunRow) :
    ShadowRoutine Begun :=
  if row.record.payloadHash ≠ call.payloadHash then do
    perform (ShadowAction.insertShadowEvent (call.rejectedEvent row.record))
    Call.raise idempotencyConflict
  else if row.record.status ≠ .started then do
    unlockAndClose keys
    pure (row.record, none, false)
  else do
    perform (ShadowAction.openClaim row.shadowRunId)
    pure (row.record, some keys, false)

/-- The branch of an identity that was not found. -/
def startRun (call : BeginCall) (keys : List Int) : ShadowRoutine Begun := do
  let shadowRunId ← perform ShadowAction.uuid4
  let row ← perform (ShadowAction.insertStarted (call.startedRow shadowRunId))
  perform (ShadowAction.insertShadowEvent (call.startedEvent row.record))
  perform (ShadowAction.openClaim row.shadowRunId)
  pure (row.record, some keys, true)

/-- The body of the `try`. -/
def observeOrStart (call : BeginCall) (keys : List Int) : ShadowRoutine Begun := do
  lockAll keys
  let rows ← perform (ShadowAction.selectShadowRuns call.principal.tenantId call.idempotencyKey
    call.caseId call.caseVersion call.processorVersion)
  match rows with
  | [] => startRun call keys
  | [row] => observeRun call keys row
  | _ => Call.raise identityConflict

def beginOrObserve (lockKey : String → Int) (call : BeginCall) : ShadowRoutine Begun := do
  match ← Call.attempt (observeOrStart call (call.keys lockKey)) with
  | .ok begun => pure begun
  | .error exception => do
      unlockAndClose (call.keys lockKey)
      Call.raise exception

/-! ## `complete` -/

/-- The arguments of `complete`. -/
structure CompleteCall where
  principal : Principal
  run : ShadowRunRow
  investigationRunId : RunId
  actual : ShadowActualOutcome
  comparison : ShadowComparison
  outputHash : String
  diffHash : String
  completedAt : Timestamp

def ShadowStatus.value : ShadowStatus → String
  | .started => "started"
  | .completed => "completed"
  | .escalated => "escalated"

namespace CompleteCall

def terminalStatus (call : CompleteCall) : ShadowStatus :=
  if call.actual.escalated then .escalated else .completed

def outcome (models : ShadowModels) (call : CompleteCall) : ShadowRunOutcome where
  status := call.terminalStatus
  investigationRunId := some call.investigationRunId
  providerLabel := some call.actual.providerLabel
  outputJson := some (models.dumpActual call.actual)
  diffJson := some (models.dumpComparison call.comparison)
  outputHash := some call.outputHash
  diffHash := some call.diffHash
  latencyMs := some call.actual.latencyMs
  estimatedCostUsd := call.actual.estimatedCostUsd
  costEvidenceLabel := some call.actual.costEvidenceLabel
  completedAt := some call.completedAt

def diffRow (call : CompleteCall) (entry : ShadowDiffEntry) : ShadowDiffRow where
  shadowRunId := call.run.shadowRunId
  tenantId := call.principal.tenantId
  fieldName := entry.fieldName
  agreement := entry.agreement
  expectedJson := entry.expected
  actualJson := entry.actual
  category := entry.category
  createdAt := call.completedAt

def completedEvent (call : CompleteCall) : ShadowEventRow where
  shadowRunId := call.run.shadowRunId
  tenantId := call.principal.tenantId
  eventType := "shadow_run_completed"
  actorId := call.principal.actorId
  payload := .obj [("status", .str call.terminalStatus.value), ("execute", .bool false),
    ("external_action_count", .int 0), ("output_hash", .str call.outputHash),
    ("diff_hash", .str call.diffHash)]
  occurredAt := call.completedAt

def completion (models : ShadowModels) (call : CompleteCall) : ShadowAction.Completion where
  outcome := call.outcome models
  diffs := call.comparison.entries.map call.diffRow
  event := call.completedEvent

end CompleteCall

def completionConflict : Failure :=
  .conflict "SHADOW_COMPLETION_CONFLICT" "Shadow run is no longer startable"

def complete (models : ShadowModels) (call : CompleteCall) : ShadowRoutine ShadowRunRow := do
  match ← perform (ShadowAction.completeShadowRun call.principal.tenantId call.run.shadowRunId
    (call.completion models)) with
  | none => Call.raise completionConflict
  | some row => pure row.record

/-! ## `import_or_observe` -/

/-- The arguments of `import_or_observe`. -/
structure ImportCall where
  principal : Principal
  case : ShadowCase
  payloadHash : String
  now : Timestamp

namespace ImportCall

def lockName (call : ImportCall) : String :=
  "shadow-intake:" ++ call.principal.tenantId ++ ":" ++ call.case.caseId ++ ":" ++
    call.case.caseVersion

def intakeRow (call : ImportCall) (intakeId : IntakeId) : ShadowIntakeRow where
  intakeId := intakeId
  tenantId := call.principal.tenantId
  caseId := call.case.caseId
  caseVersion := call.case.caseVersion
  caseContractVersion := caseContractVersion
  payloadHash := call.payloadHash
  provenanceLabel := call.case.provenanceLabel
  baselineSource := call.case.baselineSource
  deidentificationStatus := call.case.deidentificationStatus
  consentDataUseStatus := call.case.consentDataUseStatus
  consentDataUseReference := call.case.consentDataUseReference
  category := call.case.category
  execute := false
  externalActionCount := 0
  caseJson := call.case.modelDump
  createdBy := call.principal.actorId
  createdAt := call.now

def event (call : ImportCall) (row : ShadowIntakeRow) (eventType : String) (payload : Json) :
    IntakeEventRow where
  intakeId := row.intakeId
  tenantId := row.tenantId
  eventType := eventType
  actorId := call.principal.actorId
  payload := payload
  occurredAt := call.now

def rejectedEvent (call : ImportCall) (row : ShadowIntakeRow) : IntakeEventRow :=
  call.event row "shadow_intake_rejected" (.obj [("code", .str "SHADOW_INTAKE_CONFLICT")])

def replayedEvent (call : ImportCall) (row : ShadowIntakeRow) : IntakeEventRow :=
  call.event row "shadow_intake_replayed"
    (.obj [("payload_hash", .str call.payloadHash), ("execute", .bool false)])

def importedEvent (call : ImportCall) (row : ShadowIntakeRow) : IntakeEventRow :=
  call.event row "shadow_intake_imported"
    (.obj [("execute", .bool false), ("external_action_count", .int 0),
      ("payload_hash", .str call.payloadHash), ("accepted_for_m2_05", .bool false)])

end ImportCall

def intakeConflict : Failure :=
  .conflict "SHADOW_INTAKE_CONFLICT" "Case identity was already imported with a different payload"

/-- The body of the `try` after the lock. -/
def observeOrImport (call : ImportCall) : ShadowRoutine (ShadowIntakeRow × Bool) := do
  match ← perform (ShadowAction.selectIntake call.principal.tenantId call.case.caseId
    call.case.caseVersion) with
  | some row =>
      if row.payloadHash ≠ call.payloadHash then do
        perform (ShadowAction.insertIntakeEvent (call.rejectedEvent row))
        Call.raise intakeConflict
      else do
        perform (ShadowAction.insertIntakeEvent (call.replayedEvent row))
        pure (row, false)
  | none => do
      let intakeId ← perform ShadowAction.uuid4
      let row ← perform (ShadowAction.insertIntake (call.intakeRow intakeId))
      perform (ShadowAction.insertIntakeEvent (call.importedEvent row))
      pure (row, true)

def importOrObserve (lockKey : String → Int) (call : ImportCall) :
    ShadowRoutine (ShadowIntakeRow × Bool) := do
  let keys := sortedKeys [lockKey call.lockName]
  let result ← Call.attempt do
    lockAll keys
    observeOrImport call
  unlockAndClose keys
  settle result

end StockoutOps.Shadow
