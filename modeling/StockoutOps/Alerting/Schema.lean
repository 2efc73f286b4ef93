import StockoutOps.Alerting.Contracts

/-!
Contract: the four alert tables of migrations 0006, 0007 and 0008.

Owns: the columns, the CHECK constraints and the unique keys of
`alert_evaluation_event`, `alert_outbox`, `alert_delivery_attempt_event` and
`alert_delivery_attempt`.

Does not own: the trigger functions and the statements.

A row is split into the columns fixed at insert and the columns the
`stockoutops_app` role may update, so a column grant is the type of the new
values. NOT NULL is the absence of `Option`.
-/

namespace StockoutOps.Alerting

open StockoutOps.Sql

/-! ## Enumerated columns -/

inductive OutboxState where
  | pending | inFlight | delivered | deadLetter
deriving DecidableEq, Repr

def OutboxState.text : OutboxState → String
  | .pending => "PENDING"
  | .inFlight => "IN_FLIGHT"
  | .delivered => "DELIVERED"
  | .deadLetter => "DEAD_LETTER"

inductive AttemptOutcome where
  | delivered | retryableFailure | permanentFailure | ambiguous
deriving DecidableEq, Repr

inductive DeliveryStatus where
  | claimed | delivered | failed
deriving DecidableEq, Repr

/-! ## `alert_evaluation_event` -/

/-- The columns that describe the policy, the threshold and the report window. A
column whose CHECK leaves one value has no field. -/
structure EvaluationReport where
  policyId : String
  policyVersion : String
  metricName : MetricName
  severity : Severity
  thresholdClassification : ThresholdClassification
  /-- A `numeric` column holds the values of a float, rounded. -/
  thresholdValue : PyFloat
  windowLabel : String
  windowId : String
  evidenceLabel : EvidenceLabel
  sourceReportSha256 : String
  correlationJson : Json
  actorId : String
deriving DecidableEq

structure EvaluationRow extends EvaluationReport where
  alertEvaluationId : Int
  alertFingerprint : String
  tenantId : String
  state : Option AlertState
  previousState : Option AlertState
  transition : Transition
  measurementStatus : MeasurementStatus
  observedValue : Option PyFloat
  payloadHash : String
  idempotencyKey : String
  evaluatedAt : Timestamp
deriving DecidableEq

def EvaluationRow.checks (row : EvaluationRow) : List (String × Bool) :=
  [ ("alert_evaluation_event_alert_fingerprint_check", isHex64 row.alertFingerprint),
    ("alert_evaluation_event_tenant_id_check", 0 < row.tenantId.length),
    ("alert_evaluation_event_policy_id_check", 0 < row.policyId.length),
    ("alert_evaluation_event_policy_version_check", 0 < row.policyVersion.length),
    ("alert_evaluation_event_window_label_check", 0 < row.windowLabel.length),
    ("alert_evaluation_event_window_id_check", lengthBetween 1 200 row.windowId),
    ("alert_evaluation_event_evidence_label_check", row.evidenceLabel = .simulated),
    ("alert_evaluation_event_source_report_sha256_check", isHex64 row.sourceReportSha256),
    ("alert_evaluation_event_payload_hash_check", isHex64 row.payloadHash),
    ("alert_evaluation_event_idempotency_key_check", lengthBetween 1 500 row.idempotencyKey),
    ("alert_evaluation_event_actor_id_check", 0 < row.actorId.length),
    ("alert_evaluation_event_check",
      (row.measurementStatus = .evaluated ∧ row.state.isSome ∧ row.observedValue.isSome ∧
        row.transition ≠ .unmeasured) ∨
      (row.measurementStatus = .unmeasured ∧ row.state = none ∧ row.observedValue = none ∧
        row.transition = .unmeasured)) ]

/-! ## `alert_outbox` -/

/-- The columns no update may touch. -/
structure OutboxIdentity where
  outboxId : Int
  tenantId : String
  evaluationId : Int
  alertFingerprint : String
  transition : Transition
  destinationHost : String
  payload : Json
  payloadHash : String
  idempotencyKey : String
  enqueuedAt : Timestamp
deriving DecidableEq

/-- The columns of `GRANT UPDATE (...) ON alert_outbox`. -/
structure OutboxProgress where
  state : OutboxState
  attemptCount : Int
  maxAttempts : Int
  redriveCount : Int
  nextAttemptAt : Timestamp
  leaseOwner : Option String
  leaseExpiresAt : Option Timestamp
  lastErrorClass : Option String
  lastHttpStatus : Option Int
  updatedAt : Timestamp
  completedAt : Option Timestamp
deriving DecidableEq

structure OutboxRow extends OutboxIdentity, OutboxProgress
deriving DecidableEq

/-- The row after an UPDATE that sets the granted columns to `progress`. -/
def OutboxRow.set (row : OutboxRow) (progress : OutboxProgress) : OutboxRow :=
  ⟨row.toOutboxIdentity, progress⟩

@[simp] theorem OutboxRow.set_identity (row : OutboxRow) (progress : OutboxProgress) :
    (row.set progress).toOutboxIdentity = row.toOutboxIdentity := rfl

@[simp] theorem OutboxRow.set_progress (row : OutboxRow) (progress : OutboxProgress) :
    (row.set progress).toOutboxProgress = progress := rfl

/-- `http_status >= 100 AND http_status <= 599` -/
def httpStatusInRange (status : Int) : Bool :=
  100 ≤ status && status ≤ 599

/-- `http_status BETWEEN 200 AND 299` -/
def isSuccessStatus (status : Int) : Bool :=
  200 ≤ status && status ≤ 299

def OutboxRow.checks (row : OutboxRow) : List (String × Bool) :=
  [ ("alert_outbox_tenant_id_check", 0 < row.tenantId.length),
    ("alert_outbox_alert_fingerprint_check", isHex64 row.alertFingerprint),
    ("alert_outbox_transition_check", row.transition = .fired ∨ row.transition = .resolved),
    ("alert_outbox_destination_host_check", lengthBetween 1 253 row.destinationHost),
    ("alert_outbox_payload_hash_check", isHex64 row.payloadHash),
    ("alert_outbox_idempotency_key_check", lengthBetween 1 500 row.idempotencyKey),
    ("alert_outbox_attempt_count_check", 0 ≤ row.attemptCount ∧ row.attemptCount ≤ 100),
    ("alert_outbox_max_attempts_check", 1 ≤ row.maxAttempts ∧ row.maxAttempts ≤ 100),
    ("alert_outbox_redrive_count_check", 0 ≤ row.redriveCount ∧ row.redriveCount ≤ 100),
    ("alert_outbox_lease_owner_check", nullOr (lengthBetween 1 200) row.leaseOwner),
    ("alert_outbox_last_error_class_check", nullOr (lengthBetween 1 100) row.lastErrorClass),
    ("alert_outbox_last_http_status_check", nullOr httpStatusInRange row.lastHttpStatus),
    ("alert_outbox_lease_ck",
      (row.state = .inFlight ∧ row.leaseOwner.isSome ∧ row.leaseExpiresAt.isSome) ∨
      (row.state ≠ .inFlight ∧ row.leaseOwner = none ∧ row.leaseExpiresAt = none)),
    ("alert_outbox_terminal_ck",
      ((row.state = .delivered ∨ row.state = .deadLetter) ∧ row.completedAt.isSome) ∨
      ((row.state = .pending ∨ row.state = .inFlight) ∧ row.completedAt = none)),
    ("alert_outbox_delivered_evidence_ck",
      row.state ≠ .delivered ∨
      (1 ≤ row.attemptCount ∧ row.lastHttpStatus.any isSuccessStatus ∧
        row.lastErrorClass = none)),
    ("alert_outbox_dead_letter_evidence_ck",
      row.state ≠ .deadLetter ∨
      (1 ≤ row.attemptCount ∧ row.lastErrorClass.any notBlank)) ]

/-! ## `alert_delivery_attempt_event` -/

structure AttemptEventRow where
  attemptEventId : Int
  outboxId : Int
  tenantId : String
  evaluationId : Int
  attemptNumber : Int
  outcome : AttemptOutcome
  httpStatus : Option Int
  errorClass : Option String
  leaseOwner : String
  idempotencyKey : String
  startedAt : Timestamp
  completedAt : Timestamp
deriving DecidableEq

def AttemptEventRow.checks (row : AttemptEventRow) : List (String × Bool) :=
  [ ("alert_delivery_attempt_event_tenant_id_check", 0 < row.tenantId.length),
    ("alert_delivery_attempt_event_attempt_number_check",
      1 ≤ row.attemptNumber ∧ row.attemptNumber ≤ 100),
    ("alert_delivery_attempt_event_http_status_check", nullOr httpStatusInRange row.httpStatus),
    ("alert_delivery_attempt_event_error_class_check",
      nullOr (lengthBetween 1 100) row.errorClass),
    ("alert_delivery_attempt_event_lease_owner_check", lengthBetween 1 200 row.leaseOwner),
    ("alert_delivery_attempt_event_idempotency_key_check",
      lengthBetween 1 500 row.idempotencyKey),
    ("alert_delivery_attempt_event_outcome_ck",
      (row.outcome = .delivered ∧ row.httpStatus.any isSuccessStatus ∧ row.errorClass = none) ∨
      (row.outcome = .ambiguous ∧ row.httpStatus = none ∧ row.errorClass.isSome) ∨
      ((row.outcome = .retryableFailure ∨ row.outcome = .permanentFailure) ∧
        row.errorClass.isSome ∧ nullOr (fun status => !isSuccessStatus status) row.httpStatus)) ]

/-! ## `alert_delivery_attempt` -/

structure LedgerIdentity where
  deliveryAttemptId : Int
  tenantId : String
  evaluationId : Int
  alertFingerprint : String
  transition : Transition
  destinationHost : String
  payloadHash : String
  claimedAt : Timestamp
deriving DecidableEq

/-- The columns of `GRANT UPDATE (...) ON alert_delivery_attempt`. -/
structure LedgerOutcome where
  status : DeliveryStatus
  attemptCount : Int
  httpStatus : Option Int
  errorClass : Option String
  completedAt : Option Timestamp
deriving DecidableEq

structure LedgerRow extends LedgerIdentity, LedgerOutcome
deriving DecidableEq

def LedgerRow.set (row : LedgerRow) (outcome : LedgerOutcome) : LedgerRow :=
  ⟨row.toLedgerIdentity, outcome⟩

/-- The constraints in force after migration 0008 widened two bounds to 100. -/
def LedgerRow.checks (row : LedgerRow) : List (String × Bool) :=
  [ ("alert_delivery_attempt_tenant_id_check", 0 < row.tenantId.length),
    ("alert_delivery_attempt_alert_fingerprint_check", isHex64 row.alertFingerprint),
    ("alert_delivery_attempt_transition_check",
      row.transition = .fired ∨ row.transition = .resolved),
    ("alert_delivery_attempt_destination_host_check", lengthBetween 1 253 row.destinationHost),
    ("alert_delivery_attempt_attempt_count_check",
      0 ≤ row.attemptCount ∧ row.attemptCount ≤ 100),
    ("alert_delivery_attempt_http_status_check", nullOr httpStatusInRange row.httpStatus),
    ("alert_delivery_attempt_error_class_check", nullOr (lengthBetween 1 100) row.errorClass),
    ("alert_delivery_attempt_payload_hash_check", isHex64 row.payloadHash),
    ("alert_delivery_attempt_terminal_evidence_ck",
      row.status = .claimed ∨
      (1 ≤ row.attemptCount ∧ row.attemptCount ≤ 100 ∧ row.completedAt.isSome ∧
        ((row.status = .delivered ∧ row.httpStatus.any isSuccessStatus ∧ row.errorClass = none) ∨
          (row.status = .failed ∧ row.errorClass.any notBlank ∧
            nullOr (fun status => !isSuccessStatus status) row.httpStatus)))) ]

/-! ## The tables together -/

structure AlertDb where
  evaluations : List EvaluationRow
  outbox : List OutboxRow
  attemptEvents : List AttemptEventRow
  ledger : List LedgerRow
deriving DecidableEq

/-- The tables right after the migrations. -/
def AlertDb.empty : AlertDb := ⟨[], [], [], []⟩

end StockoutOps.Alerting
