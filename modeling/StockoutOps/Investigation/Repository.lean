import StockoutOps.Investigation.Requests
import StockoutOps.Investigation.Transactions

/-!
Contract: the repository's methods, statement by statement.

Owns: intake with its savepoint and its lost race, the compare-and-swap
transitions, rejection events, tool claims and completions, the review
decision, and the reads.

Does not own: which methods a request calls; that is the service.
-/

namespace StockoutOps.Investigation

open StockoutOps.Foundation.Interleaving

/-- The values of `_insert_event`; the sequence gives the number. -/
def eventRow (runId : RunId) (tenantId eventType : String) (fromState toState : Option RunState)
    (actorId : String) (payload : Json) (occurredAt : Timestamp) : EventRow where
  eventId := 0
  runId := runId
  tenantId := tenantId
  eventType := eventType
  fromState := fromState
  toState := toState
  actorId := actorId
  payload := payload
  occurredAt := occurredAt

/-- An event with equal states records a refusal, not a transition. -/
theorem eventRow_still (runId : RunId) (tenantId eventType : String) (state : Option RunState)
    (actorId : String) (payload : Json) (occurredAt : Timestamp) :
    (eventRow runId tenantId eventType state state actorId payload occurredAt).genuine = false := by
  simp [EventRow.genuine, eventRow]

def insertEvent (event : EventRow) : Routine Unit := execute (Statement.insertEvent event)

/-! ## Intake -/

/-- The arguments of `begin_intake`. -/
structure IntakeCall where
  principal : Principal
  request : IntakeRequest
  idempotencyKey : String
  payloadHash : String
  assignedReviewerId : String
  now : Timestamp
  runMode : RunMode

namespace IntakeCall

def key (call : IntakeCall) : KeyId := (call.principal.tenantId, call.idempotencyKey)

def runRow (call : IntakeCall) (runId : RunId) : RunRow where
  runId := runId
  tenantId := call.principal.tenantId
  requestedBy := call.principal.actorId
  assignedReviewerId := call.assignedReviewerId
  skuId := call.request.skuId
  storeId := call.request.storeId
  supplierId := call.request.supplierId
  asOfTs := call.request.asOfTs
  windowStart := call.request.windowStart
  windowEnd := call.request.windowEnd
  requestHash := call.payloadHash
  runMode := call.runMode
  state := .created
  stateVersion := 0
  draftJson := none
  draftHash := none
  draftCreatedAt := none
  reviewExpiresAt := none
  createdAt := call.now
  updatedAt := call.now

def keyRow (call : IntakeCall) (runId : RunId) : KeyRow where
  tenantId := call.principal.tenantId
  idempotencyKey := call.idempotencyKey
  payloadHash := call.payloadHash
  runId := runId
  createdAt := call.now

def createdEvent (call : IntakeCall) (runId : RunId) : EventRow :=
  eventRow runId call.principal.tenantId "run_created" none (some .created)
    call.principal.actorId (.obj [("request_hash", .str call.payloadHash)]) call.now

def rejectedEvent (call : IntakeCall) (run : RunRow) : EventRow :=
  eventRow run.runId call.principal.tenantId "intake_rejected" (some run.state) (some run.state)
    call.principal.actorId (.obj [("code", .str "IDEMPOTENCY_KEY_CONFLICT")]) call.now

@[simp] theorem genuine_rejectedEvent (call : IntakeCall) (run : RunRow) :
    (call.rejectedEvent run).genuine = false := eventRow_still _ _ _ _ _ _ _

def conflict : Failure :=
  .conflict "IDEMPOTENCY_KEY_CONFLICT" "Idempotency key was already used with a different payload"

end IntakeCall

/-- What the transaction of `begin_intake` hands over: the run, `created`, and
the conflict to raise once the transaction has committed. -/
structure IntakeOutcome where
  result : RunRow
  created : Bool
  conflict : Option Failure

/-- The INSERTs under the savepoint. -/
def claimKey (call : IntakeCall) (runId : RunId) : Routine RunRow :=
  nestedTransaction do
    let row ← execute (Statement.insertRun (call.runRow runId))
    match ← execute (Statement.insertKey (call.keyRow runId)) with
    | none => raise .idempotencyRaceLost
    | some _ => do
        insertEvent (call.createdEvent runId)
        pure row

/-- The branch of a key that exists. -/
def replayIntake (call : IntakeCall) (existing : KeyRow) : Routine IntakeOutcome := do
  match ← execute (Statement.selectRun call.principal.tenantId existing.runId) with
  | none => raise (.runtimeError "Idempotency key references an inaccessible run")
  | some result =>
      if existing.payloadHash ≠ call.payloadHash then do
        insertEvent (call.rejectedEvent result)
        pure ⟨result, false, some IntakeCall.conflict⟩
      else pure ⟨result, false, none⟩

/-- The branch of a key that was not found. -/
def createIntake (call : IntakeCall) : Routine IntakeOutcome := do
  let runId ← execute Statement.uuid4
  match ← Call.attempt (claimKey call runId) with
  | .ok row => pure ⟨row, true, none⟩
  | .error .idempotencyRaceLost => do
      match ← execute (Statement.selectKey call.key) with
      | none => raise (.runtimeError "Idempotency key conflict resolution failed")
      | some existing => replayIntake call existing
  | .error exception => raise exception

/-- `begin_intake`; its transaction always sets a result. -/
def beginIntake (call : IntakeCall) : Routine (RunRow × Bool) := do
  let outcome ← transaction do
    match ← execute (Statement.selectKeyForUpdate call.key) with
    | none => createIntake call
    | some existing => replayIntake call existing
  match outcome.conflict with
  | some conflict => raise conflict
  | none => pure (outcome.result, outcome.created)

/-! ## Reads -/

def getRun (principal : Principal) (runId : RunId) : Routine RunRow := do
  match ← execute (Statement.selectRun principal.tenantId runId) with
  | none => raise (.stockoutOps .notFoundError)
  | some row => pure row

def getTool (principal : Principal) (runId : RunId) (tool : ToolName) :
    Routine (Option ToolRow) :=
  execute (Statement.getTool principal.tenantId runId tool)

def listEvidence (codec : EvidenceCodec) (principal : Principal) (runId : RunId) :
    Routine (List Evidence) := do
  let payloads ← execute (Statement.listEvidence principal.tenantId runId)
  lift (codec.parseAll payloads)

def getDecision (principal : Principal) (runId : RunId) : Routine (Option DecisionRow) :=
  execute (Statement.selectDecision principal.tenantId runId)

def audit (principal : Principal) (runId : RunId) : Routine (List EventRow) := do
  let _ ← getRun principal runId
  execute (Statement.selectEvents principal.tenantId runId)

/-! ## Transitions -/

def controlRejected (principal : Principal) (run : RunRow) (code : String) (now : Timestamp) :
    EventRow :=
  eventRow run.runId principal.tenantId "control_rejected" (some run.state) (some run.state)
    principal.actorId (.obj [("code", .str code)]) now

@[simp] theorem genuine_controlRejected (principal : Principal) (run : RunRow) (code : String)
    (now : Timestamp) : (controlRejected principal run code now).genuine = false :=
  eventRow_still _ _ _ _ _ _ _

def appendRejectedControl (principal : Principal) (runId : RunId) (code : String)
    (now : Timestamp) : Routine Unit := do
  let run ← getRun principal runId
  transaction (do
    insertEvent (controlRejected principal run code now)
    pure ())

/-- A transition of a run: the new state, the columns that change with it, and
the event that records it. -/
structure Move where
  target : RunState
  set : RunRow → RunRow
  eventType : String
  payload : Json
  invalidMessage : String

/-- The event of a transition of `run`. -/
def Move.event (move : Move) (principal : Principal) (run : RunRow) (now : Timestamp) :
    EventRow :=
  eventRow run.runId principal.tenantId move.eventType (some run.state) (some move.target)
    principal.actorId move.payload now

/-- The body shared by `transition` and `set_draft_and_transition`. -/
def compareAndSwap (principal : Principal) (run : RunRow) (move : Move) (now : Timestamp) :
    Routine RunRow :=
  if canTransition run.state move.target then do
    let updated ← transaction do
      match ← execute (Statement.updateRun principal.tenantId run.runId run.state
        run.stateVersion move.set) with
      | some row => do
          insertEvent (move.event principal run now)
          pure (some row)
      | none => pure none
    match updated with
    | some row => pure row
    | none => do
        appendRejectedControl principal run.runId "STATE_VERSION_CONFLICT" now
        raise (.conflict "STATE_VERSION_CONFLICT" "Run state changed concurrently")
  else do
    appendRejectedControl principal run.runId "INVALID_TRANSITION" now
    raise (.conflict "INVALID_TRANSITION" move.invalidMessage)

/-- The `SET` clause of `transition`. -/
def setState (target : RunState) (now : Timestamp) (row : RunRow) : RunRow :=
  { row with state := target, stateVersion := row.stateVersion + 1, updatedAt := now }

/-- The `SET` clause of `set_draft_and_transition`. -/
def setDraft (draft : Json) (draftHash : String) (now expiresAt : Timestamp) (row : RunRow) :
    RunRow :=
  { row with
    state := .awaitingHuman
    stateVersion := row.stateVersion + 1
    draftJson := some draft
    draftHash := some draftHash
    draftCreatedAt := some now
    reviewExpiresAt := some expiresAt
    updatedAt := now }

def transitionMove (run : RunRow) (target : RunState) (eventType : String) (now : Timestamp)
    (payload : Json) : Move where
  target := target
  set := setState target now
  eventType := eventType
  payload := payload
  invalidMessage :=
    "Transition " ++ run.state.value ++ " -> " ++ target.value ++ " is not allowed"

def transition (principal : Principal) (run : RunRow) (target : RunState) (eventType : String)
    (now : Timestamp) (payload : Json) : Routine RunRow :=
  compareAndSwap principal run (transitionMove run target eventType now payload) now

def draftMove (provenance : Provenance) (draft : Json) (draftHash : String)
    (now expiresAt : Timestamp) : Move where
  target := .awaitingHuman
  set := setDraft draft draftHash now expiresAt
  eventType := "draft_ready"
  payload := .obj [("draft_hash", .str draftHash),
    ("expires_at", .str (provenance.isoformat expiresAt))]
  invalidMessage := "Run cannot accept a draft"

def setDraftAndTransition (provenance : Provenance) (principal : Principal) (run : RunRow)
    (draft : Json) (draftHash : String) (now expiresAt : Timestamp) : Routine RunRow :=
  compareAndSwap principal run (draftMove provenance draft draftHash now expiresAt) now

/-! ## Tools -/

/-- `claim_or_observe_tool`: the row, and whether this call owns the claim. -/
def claimOrObserveTool (toolLockKey : RunId → ToolName → Int) (principal : Principal)
    (runId : RunId) (tool : ToolName) (requestHash : String) (now : Timestamp) :
    Routine (ToolRow × Bool) := do
  execute (Statement.lockTool (toolLockKey runId tool))
  match ← execute (Statement.selectTool principal.tenantId runId tool) with
  | some existing => do
      execute Statement.unlockTool
      pure (existing, false)
  | none => do
      let row ← execute (Statement.insertTool
        { runId := runId
          tenantId := principal.tenantId
          toolName := tool
          requestHash := requestHash
          status := .started
          resultJson := none
          metadataJson := .obj []
          createdAt := now
          completedAt := none })
      pure (row, true)

/-- `with claim:` releases the claim whatever happens in the body. -/
def withClaim {ρ : Type} (body : Routine ρ) : Routine ρ := do
  let result ← Call.attempt body
  execute Statement.unlockTool
  lift result

def completeTool (principal : Principal) (runId : RunId) (tool : ToolName)
    (result : Option Json) (metadata : Json) (status : ToolStatus) (now : Timestamp) :
    Routine Unit := do
  let updated ← execute
    (Statement.completeTool principal.tenantId runId tool status result metadata now)
  if updated then pure ()
  else raise (.conflict "TOOL_INVOCATION_MISSING" "Tool invocation was not started")

/-! ## Review -/

/-- The arguments of `record_review`. -/
structure ReviewCall where
  principal : Principal
  runId : RunId
  idempotencyKey : String
  action : ReviewAction
  submittedDraftHash : String
  editedPayload : Option Json
  editedPayloadHash : Option String
  reason : Option String
  now : Timestamp

/-- The decision state of an action. -/
def ReviewAction.target : ReviewAction → RunState
  | .approve => .approved
  | .editApprove => .editedAndApproved
  | .reject => .rejected
  | .escalate => .escalated

namespace ReviewCall

/-- The guards of `record_review` on the locked row, in their order: the code
of the rejection event, and the error raised after it has been committed. -/
def refusal (call : ReviewCall) (run : RunRow) (decided : Bool) : Option (String × Failure) :=
  if run.runMode = .shadow then
    some ("SHADOW_REVIEW_FORBIDDEN", .conflict "SHADOW_REVIEW_FORBIDDEN"
      "Shadow analysis cannot accept a human review decision")
  else if decided = true ∨ run.state ≠ .awaitingHuman then
    some ("RUN_ALREADY_DECIDED", .conflict "RUN_ALREADY_DECIDED"
      "Run is not awaiting a review decision")
  else if call.principal.actorId ≠ run.assignedReviewerId then
    some ("WRONG_REVIEWER",
      .stockoutOps (.authorizationError "Reviewer is not assigned to this run"))
  else if some call.submittedDraftHash ≠ run.draftHash then
    some ("STALE_APPROVAL_TARGET", .conflict "STALE_APPROVAL_TARGET"
      "Submitted draft hash is stale")
  else if ¬ run.reviewExpiresAt.any (fun expiresAt => call.now ≤ expiresAt) then
    some ("REVIEW_EXPIRED", .conflict "REVIEW_EXPIRED"
      "Review fixture-policy window has expired")
  else none

def decisionRow (call : ReviewCall) (run : RunRow) : DecisionRow where
  runId := run.runId
  tenantId := call.principal.tenantId
  idempotencyKey := call.idempotencyKey
  action := call.action
  reviewerId := call.principal.actorId
  originalDraft := run.draftJson.getD .null
  originalDraftHash := run.draftHash
  editedPayload := call.editedPayload
  editedPayloadHash := call.editedPayloadHash
  reason := call.reason
  decidedAt := call.now

def rejectedEvent (call : ReviewCall) (run : RunRow) (code : String) : EventRow :=
  eventRow run.runId call.principal.tenantId "review_rejected" (some run.state) (some run.state)
    call.principal.actorId (.obj [("code", .str code)]) call.now

@[simp] theorem genuine_rejectedEvent (call : ReviewCall) (run : RunRow) (code : String) :
    (call.rejectedEvent run code).genuine = false := eventRow_still _ _ _ _ _ _ _

def decidedEvent (call : ReviewCall) (run : RunRow) : EventRow :=
  eventRow run.runId call.principal.tenantId "review_decided" (some .awaitingHuman)
    (some call.action.target) call.principal.actorId
    (.obj [("action", .str call.action.value), ("draft_hash", .str call.submittedDraftHash)])
    call.now

def closedEvent (call : ReviewCall) (run : RunRow) : EventRow :=
  eventRow run.runId call.principal.tenantId "run_closed" (some call.action.target) (some .closed)
    call.principal.actorId (.obj []) call.now

end ReviewCall

/-- The decision, its two transitions and their events. -/
def decideReview (call : ReviewCall) (run : RunRow) : Routine (Except Failure RunRow) := do
  let target := call.action.target
  let tenantId := call.principal.tenantId
  execute (Statement.insertDecision (call.decisionRow run))
  match ← execute (Statement.updateRun tenantId run.runId .awaitingHuman run.stateVersion
    (setState target call.now)) with
  | none => raise (.runtimeError "Locked review transition unexpectedly conflicted")
  | some decided => do
      insertEvent (call.decidedEvent run)
      match ← execute (Statement.updateRun tenantId run.runId target decided.stateVersion
        (setState .closed call.now)) with
      | none => raise (.runtimeError "Locked close transition unexpectedly conflicted")
      | some closed => do
          insertEvent (call.closedEvent run)
          pure (.ok closed)

def recordReview (call : ReviewCall) : Routine RunRow := do
  let outcome ← transaction do
    match ← execute (Statement.selectRunForUpdate call.principal.tenantId call.runId) with
    | none => raise (.stockoutOps .notFoundError)
    | some run => do
        let existing ← execute (Statement.selectDecision call.principal.tenantId run.runId)
        match call.refusal run existing.isSome with
        | some (code, error) => do
            insertEvent (call.rejectedEvent run code)
            pure (.error error)
        | none => decideReview call run
  lift outcome

end StockoutOps.Investigation
