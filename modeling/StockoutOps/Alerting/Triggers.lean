import StockoutOps.Alerting.Schema

/-!
Contract: the BEFORE ROW triggers of the alert tables.

Owns: `guard_alert_outbox_insert`, `guard_alert_outbox_update`,
`guard_alert_delivery_attempt_event_insert`, `guard_alert_delivery_attempt_insert`
and `guard_alert_delivery_attempt_update`, and what an accepted outbox update
can be (`OutboxMove`).

Does not own: the CHECK constraints, which run after the triggers. No table
admits DELETE and the two event tables admit no UPDATE; those triggers reject
every row, so the statements do not exist in the model.

A comparison with NULL is NULL, which an `IF` reads as false.
-/

namespace StockoutOps.Alerting

open StockoutOps.Sql

/-- `SELECT ... FROM alert_evaluation_event WHERE alert_evaluation_id = id` -/
def AlertDb.evaluation? (db : AlertDb) (id : Int) : Option EvaluationRow :=
  db.evaluations.find? (fun row => row.alertEvaluationId == id)

/-- `SELECT ... FROM alert_outbox WHERE outbox_id = id` -/
def AlertDb.outboxRow? (db : AlertDb) (id : Int) : Option OutboxRow :=
  db.outbox.find? (fun row => row.outboxId == id)

/-- `SELECT ... FROM alert_delivery_attempt_event
WHERE outbox_id = id AND attempt_number = number` -/
def AlertDb.attemptEvent? (db : AlertDb) (id number : Int) : Option AttemptEventRow :=
  db.attemptEvents.find? (fun row => row.outboxId == id && row.attemptNumber == number)

/-- `SELECT ... FROM alert_delivery_attempt WHERE tenant_id = tenant AND evaluation_id = id` -/
def AlertDb.ledgerRow? (db : AlertDb) (tenantId : String) (evaluationId : Int) :
    Option LedgerRow :=
  db.ledger.find? (fun row => row.tenantId == tenantId && row.evaluationId == evaluationId)

/-! ## `guard_alert_outbox_insert` -/

def guardAlertOutboxInsert (db : AlertDb) (new : OutboxRow) : Except SqlError Unit := do
  raiseIf "alert_outbox must begin as an unattempted PENDING row"
    (new.state ≠ .pending ∨ new.attemptCount ≠ 0 ∨ new.redriveCount ≠ 0 ∨
      new.leaseOwner ≠ none ∨ new.leaseExpiresAt ≠ none ∨ new.lastErrorClass ≠ none ∨
      new.lastHttpStatus ≠ none ∨ new.completedAt ≠ none)
  match db.evaluation? new.evaluationId with
  | none => .error (.raised "alert_outbox must reference an existing alert_evaluation_event")
  | some evaluation =>
      raiseIf "alert_outbox identity must match its alert_evaluation_event"
        (new.tenantId ≠ evaluation.tenantId ∨
          new.alertFingerprint ≠ evaluation.alertFingerprint ∨
          new.transition ≠ evaluation.transition)

/-! ## `guard_alert_outbox_update`

The trigger body in the order of its clauses. -/

/-- The six permitted transitions. -/
def permittedTransition : OutboxState → OutboxState → Bool
  | .pending, .inFlight => true
  | .inFlight, _ => true
  | .deadLetter, .pending => true
  | _, _ => false

/-- Identity, finality, transition table and monotone counters. -/
def guardOutboxShape (old new : OutboxRow) : Except SqlError Unit := do
  raiseIf "alert_outbox identity and payload fields are immutable"
    (new.toOutboxIdentity ≠ old.toOutboxIdentity)
  raiseIf "alert_outbox DELIVERED is final" (old.state = .delivered)
  raiseIf ("alert_outbox transition " ++ old.state.text ++ " -> " ++ new.state.text ++
    " is forbidden") (permittedTransition old.state new.state = false)
  raiseIf "alert_outbox attempt_count must not decrease" (new.attemptCount < old.attemptCount)
  raiseIf "alert_outbox redrive_count must not decrease" (new.redriveCount < old.redriveCount)

/-- The lease and the takeover clause. -/
def guardOutboxLease (old new : OutboxRow) : Except SqlError Unit := do
  raiseIf "alert_outbox lease must claim one due active attempt"
    (old.state = .pending ∧ new.state = .inFlight ∧
      (new.attemptCount ≠ old.attemptCount + 1 ∨ new.updatedAt < old.nextAttemptAt ∨
        new.leaseExpiresAt.any (fun expiry => expiry ≤ new.updatedAt)))
  raiseIf "alert_outbox takeover requires an expired lease and next attempt"
    (old.state = .inFlight ∧ new.state = .inFlight ∧
      (new.attemptCount ≠ old.attemptCount + 1 ∨
        old.leaseExpiresAt.any (fun expiry => new.updatedAt < expiry) ∨
        new.leaseExpiresAt.any (fun expiry => expiry ≤ new.updatedAt)))

/-- The attempt evidence an outcome must match. -/
def guardOutcomeEvidence (attempt : AttemptEventRow) (old new : OutboxRow) :
    Except SqlError Unit := do
  raiseIf "alert_outbox outcome requires matching active-lease attempt evidence"
    (some attempt.leaseOwner ≠ old.leaseOwner ∨ attempt.httpStatus ≠ new.lastHttpStatus ∨
      attempt.errorClass ≠ new.lastErrorClass ∨ attempt.completedAt ≠ new.updatedAt)
  raiseIf "alert_outbox DELIVERED requires successful attempt evidence"
    (new.state = .delivered ∧ attempt.outcome ≠ .delivered)
  raiseIf "alert_outbox retry requires retryable or ambiguous evidence"
    (new.state = .pending ∧ attempt.outcome ≠ .retryableFailure ∧ attempt.outcome ≠ .ambiguous)
  raiseIf "alert_outbox retry cannot exceed its attempt budget"
    (new.state = .pending ∧ new.maxAttempts ≤ new.attemptCount)
  raiseIf "alert_outbox DEAD_LETTER requires failure or ambiguous evidence"
    (new.state = .deadLetter ∧ attempt.outcome = .delivered)
  raiseIf "alert_outbox retryable or ambiguous evidence must exhaust the attempt budget"
    (new.state = .deadLetter ∧
      (attempt.outcome = .retryableFailure ∨ attempt.outcome = .ambiguous) ∧
      new.attemptCount < new.maxAttempts)

/-- The terminal ledger row an outcome must match. -/
def guardOutcomeLedger (ledger : LedgerRow) (old new : OutboxRow) : Except SqlError Unit := do
  raiseIf "alert_outbox identity must match terminal delivery ledger evidence"
    (ledger.alertFingerprint ≠ old.alertFingerprint ∨ ledger.transition ≠ old.transition ∨
      ledger.destinationHost ≠ old.destinationHost ∨ ledger.payloadHash ≠ old.payloadHash)
  raiseIf "alert_outbox terminal outcome must match terminal delivery ledger evidence"
    (old.redriveCount = 0 ∧
      (ledger.status ≠ (if new.state = .delivered then .delivered else .failed) ∨
        ledger.attemptCount ≠ new.attemptCount ∨ ledger.httpStatus ≠ new.lastHttpStatus ∨
        ledger.errorClass ≠ new.lastErrorClass ∨ ledger.completedAt ≠ new.completedAt))
  -- After a re-drive the ledger keeps the FAILED record of the earlier dead letter.
  raiseIf "alert_outbox re-drive requires its immutable prior FAILED ledger evidence"
    (0 < old.redriveCount ∧ ledger.status ≠ .failed)

/-- `NEW.state IN ('DELIVERED', 'PENDING', 'DEAD_LETTER')` out of IN_FLIGHT. -/
def guardOutboxOutcome (db : AlertDb) (old new : OutboxRow) : Except SqlError Unit :=
  if old.state = .inFlight ∧ new.state ≠ .inFlight then do
    raiseIf "alert_outbox outcome must preserve the active attempt number"
      (new.attemptCount ≠ old.attemptCount)
    match db.attemptEvent? old.outboxId old.attemptCount with
    | none =>
        .error (.raised "alert_outbox outcome requires matching active-lease attempt evidence")
    | some attempt => guardOutcomeEvidence attempt old new
    if new.state = .delivered ∨ new.state = .deadLetter then
      match db.ledgerRow? old.tenantId old.evaluationId with
      | none =>
          .error (.raised
            "alert_outbox terminal outcome requires terminal delivery ledger evidence")
      | some ledger => guardOutcomeLedger ledger old new
    else .ok ()
  else .ok ()

/-- The attempt ceiling and the re-drive counter. -/
def guardOutboxRedrive (old new : OutboxRow) : Except SqlError Unit := do
  raiseIf "alert_outbox max_attempts may only change on re-drive"
    (new.maxAttempts ≠ old.maxAttempts ∧ ¬ (old.state = .deadLetter ∧ new.state = .pending))
  raiseIf "alert_outbox re-drive must increment redrive_count exactly once"
    (old.state = .deadLetter ∧ new.state = .pending ∧ new.redriveCount ≠ old.redriveCount + 1)

def guardAlertOutboxUpdate (db : AlertDb) (old new : OutboxRow) : Except SqlError Unit := do
  guardOutboxShape old new
  guardOutboxLease old new
  guardOutboxOutcome db old new
  guardOutboxRedrive old new

/-! ### What each clause accepts -/

theorem guardOutboxShape_eq_ok {old new : OutboxRow} {done : Unit} :
    guardOutboxShape old new = .ok done ↔
      new.toOutboxIdentity = old.toOutboxIdentity ∧ old.state ≠ .delivered ∧
        permittedTransition old.state new.state = true ∧
        old.attemptCount ≤ new.attemptCount ∧ old.redriveCount ≤ new.redriveCount := by
  simp [guardOutboxShape]

theorem guardOutboxLease_eq_ok {old new : OutboxRow} {done : Unit} :
    guardOutboxLease old new = .ok done ↔
      (old.state = .pending → new.state = .inFlight →
        new.attemptCount = old.attemptCount + 1 ∧ old.nextAttemptAt ≤ new.updatedAt ∧
          ∀ expiry, new.leaseExpiresAt = some expiry → new.updatedAt < expiry) ∧
      (old.state = .inFlight → new.state = .inFlight →
        new.attemptCount = old.attemptCount + 1 ∧
          (∀ expiry, old.leaseExpiresAt = some expiry → expiry ≤ new.updatedAt) ∧
          ∀ expiry, new.leaseExpiresAt = some expiry → new.updatedAt < expiry) := by
  simp [guardOutboxLease, Option.any_eq_true]

theorem guardOutcomeEvidence_eq_ok {attempt : AttemptEventRow} {old new : OutboxRow}
    {done : Unit} :
    guardOutcomeEvidence attempt old new = .ok done ↔
      (some attempt.leaseOwner = old.leaseOwner ∧ attempt.httpStatus = new.lastHttpStatus ∧
        attempt.errorClass = new.lastErrorClass ∧ attempt.completedAt = new.updatedAt) ∧
      (new.state = .delivered → attempt.outcome = .delivered) ∧
      (new.state = .pending →
        (attempt.outcome = .retryableFailure ∨ attempt.outcome = .ambiguous) ∧
          new.attemptCount < new.maxAttempts) ∧
      (new.state = .deadLetter → attempt.outcome ≠ .delivered ∧
        (attempt.outcome = .retryableFailure ∨ attempt.outcome = .ambiguous →
          new.maxAttempts ≤ new.attemptCount)) := by
  simp [guardOutcomeEvidence]
  tauto

theorem guardOutcomeLedger_eq_ok {ledger : LedgerRow} {old new : OutboxRow} {done : Unit} :
    guardOutcomeLedger ledger old new = .ok done ↔
      (ledger.alertFingerprint = old.alertFingerprint ∧ ledger.transition = old.transition ∧
        ledger.destinationHost = old.destinationHost ∧ ledger.payloadHash = old.payloadHash) ∧
      (old.redriveCount = 0 →
        ledger.status = (if new.state = .delivered then .delivered else .failed) ∧
        ledger.attemptCount = new.attemptCount ∧ ledger.httpStatus = new.lastHttpStatus ∧
        ledger.errorClass = new.lastErrorClass ∧ ledger.completedAt = new.completedAt) ∧
      (0 < old.redriveCount → ledger.status = .failed) := by
  simp [guardOutcomeLedger]

theorem guardOutboxRedrive_eq_ok {old new : OutboxRow} {done : Unit} :
    guardOutboxRedrive old new = .ok done ↔
      (new.maxAttempts ≠ old.maxAttempts → old.state = .deadLetter ∧ new.state = .pending) ∧
      (old.state = .deadLetter → new.state = .pending →
        new.redriveCount = old.redriveCount + 1) := by
  simp [guardOutboxRedrive]

/-- The outcome clause on a row that leaves IN_FLIGHT. -/
theorem guardOutboxOutcome_eq_ok {db : AlertDb} {old new : OutboxRow} {done : Unit}
    (active : old.state = .inFlight) (leaves : new.state ≠ .inFlight) :
    guardOutboxOutcome db old new = .ok done ↔
      new.attemptCount = old.attemptCount ∧
      (∃ attempt, db.attemptEvent? old.outboxId old.attemptCount = some attempt ∧
        guardOutcomeEvidence attempt old new = .ok ()) ∧
      (new.state = .delivered ∨ new.state = .deadLetter →
        ∃ ledger, db.ledgerRow? old.tenantId old.evaluationId = some ledger ∧
          guardOutcomeLedger ledger old new = .ok ()) := by
  unfold guardOutboxOutcome
  rw [if_pos ⟨active, leaves⟩]
  cases db.attemptEvent? old.outboxId old.attemptCount with
  | none => simp
  | some attempt =>
      by_cases terminal : new.state = .delivered ∨ new.state = .deadLetter
      · cases db.ledgerRow? old.tenantId old.evaluationId with
        | none => simp [terminal]
        | some ledger => simp [terminal]
      · simp [terminal]

/-! ## What an accepted update can be -/

/-- Evidence that an outcome carries: the attempt event of the active number
and, for a terminal state, the ledger row of the evaluation. -/
structure OutcomeEvidence (db : AlertDb) (old new : OutboxRow) : Prop where
  attempt : ∃ attempt, db.attemptEvent? old.outboxId old.attemptCount = some attempt ∧
    guardOutcomeEvidence attempt old new = .ok ()
  ledger : new.state = .delivered ∨ new.state = .deadLetter →
    ∃ ledger, db.ledgerRow? old.tenantId old.evaluationId = some ledger ∧
      guardOutcomeLedger ledger old new = .ok ()

/-- The moves of the outbox state machine, with everything the trigger enforces. -/
inductive OutboxMove (db : AlertDb) (old new : OutboxRow) : Prop where
  | lease (source : old.state = .pending) (target : new.state = .inFlight)
      (number : new.attemptCount = old.attemptCount + 1)
      (due : old.nextAttemptAt ≤ new.updatedAt)
      (budget : new.maxAttempts = old.maxAttempts)
  | takeover (source : old.state = .inFlight) (target : new.state = .inFlight)
      (number : new.attemptCount = old.attemptCount + 1)
      (expired : ∀ expiry, old.leaseExpiresAt = some expiry → expiry ≤ new.updatedAt)
      (budget : new.maxAttempts = old.maxAttempts)
  | outcome (source : old.state = .inFlight) (target : new.state ≠ .inFlight)
      (number : new.attemptCount = old.attemptCount)
      (evidence : OutcomeEvidence db old new)
      (budget : new.maxAttempts = old.maxAttempts)
  | redrive (source : old.state = .deadLetter) (target : new.state = .pending)
      (number : old.attemptCount ≤ new.attemptCount)
      (counter : new.redriveCount = old.redriveCount + 1)

/-- Every update the trigger accepts keeps the identity, never lowers the
re-drive counter and is one of the moves. -/
theorem outboxMove_of_guard {db : AlertDb} {old new : OutboxRow}
    (accepted : guardAlertOutboxUpdate db old new = .ok ()) :
    new.toOutboxIdentity = old.toOutboxIdentity ∧ old.redriveCount ≤ new.redriveCount ∧
      OutboxMove db old new := by
  simp only [guardAlertOutboxUpdate, guard_bind_eq_ok, guardOutboxShape_eq_ok,
    guardOutboxLease_eq_ok, guardOutboxRedrive_eq_ok] at accepted
  obtain ⟨⟨identity, notFinal, permitted, attempts, redrives⟩, ⟨lease, takeover⟩,
    outcome, ceiling, counter⟩ := accepted
  refine ⟨identity, redrives, ?_⟩
  -- Outside a re-drive the attempt ceiling is fixed.
  have budget : ¬ (old.state = .deadLetter ∧ new.state = .pending) →
      new.maxAttempts = old.maxAttempts :=
    fun notRedrive => Classical.byContradiction fun changed => notRedrive (ceiling changed)
  cases source : old.state with
  | pending =>
      cases target : new.state <;> simp [source, target, permittedTransition] at permitted
      obtain ⟨number, due, -⟩ := lease source target
      exact .lease source target number due (budget (by simp [source]))
  | inFlight =>
      by_cases target : new.state = .inFlight
      · obtain ⟨number, expired, -⟩ := takeover source target
        exact .takeover source target number expired (budget (by simp [source]))
      · rw [guardOutboxOutcome_eq_ok source target] at outcome
        obtain ⟨number, attempt, ledger⟩ := outcome
        exact .outcome source target number ⟨attempt, ledger⟩ (budget (by simp [source]))
  | delivered => exact absurd source notFinal
  | deadLetter =>
      cases target : new.state <;> simp [source, target, permittedTransition] at permitted
      exact .redrive source target attempts (counter source target)

/-! ## The event and ledger triggers -/

def guardAlertDeliveryAttemptEventInsert (db : AlertDb) (new : AttemptEventRow) :
    Except SqlError Unit :=
  match db.outboxRow? new.outboxId with
  | none =>
      .error (.raised "alert_delivery_attempt_event must reference an existing alert_outbox row")
  | some row => do
      raiseIf "alert_delivery_attempt_event identity must match its alert_outbox row"
        (new.tenantId ≠ row.tenantId ∨ new.evaluationId ≠ row.evaluationId ∨
          new.idempotencyKey ≠ row.idempotencyKey)
      raiseIf "alert_delivery_attempt_event must match the active IN_FLIGHT attempt and lease"
        (row.state ≠ .inFlight ∨ new.attemptNumber ≠ row.attemptCount ∨
          some new.leaseOwner ≠ row.leaseOwner)

def guardAlertDeliveryAttemptInsert (db : AlertDb) (new : LedgerRow) :
    Except SqlError Unit := do
  raiseIf "alert_delivery_attempt must begin as an uncompleted CLAIMED row"
    (new.status ≠ .claimed ∨ new.attemptCount ≠ 0 ∨ new.httpStatus ≠ none ∨
      new.errorClass ≠ none ∨ new.completedAt ≠ none)
  match db.evaluation? new.evaluationId with
  | none =>
      .error (.raised "alert_delivery_attempt must reference an existing alert_evaluation_event")
  | some evaluation =>
      raiseIf "alert_delivery_attempt identity must match the referenced alert_evaluation_event"
        (new.tenantId ≠ evaluation.tenantId ∨
          new.alertFingerprint ≠ evaluation.alertFingerprint ∨
          new.transition ≠ evaluation.transition)

def guardAlertDeliveryAttemptUpdate (old new : LedgerRow) : Except SqlError Unit := do
  raiseIf "alert_delivery_attempt terminal row cannot be modified"
    (old.status = .delivered ∨ old.status = .failed)
  raiseIf "alert_delivery_attempt status may only change from CLAIMED to DELIVERED or FAILED"
    (old.status ≠ .claimed ∨ (new.status ≠ .delivered ∧ new.status ≠ .failed))
  raiseIf "alert_delivery_attempt identity fields are immutable"
    (new.toLedgerIdentity ≠ old.toLedgerIdentity)

end StockoutOps.Alerting
