import Mathlib.Algebra.Group.Int.Defs
import Mathlib.Data.List.Sort
import StockoutOps.Alerting.Statements
import StockoutOps.Errors

/-!
Contract: the durable delivery outbox, `alerting/outbox.py`.

Owns: the leased delivery, the backoff, and every transaction of
`AlertOutboxRepository` as the sequence of statements it issues.

Does not own: the HTTP attempt between two transactions, which is the worker's.

A transaction is a function on the tables: it returns its value with the new
tables, or the exception that rolled it back. Durations are microseconds.
`FOR UPDATE SKIP LOCKED` may skip rows that other transactions hold, so `lease`
takes the set of such rows.
-/

namespace StockoutOps.Alerting

open StockoutOps.Sql

def defaultMaxAttempts : Int := 5
def defaultLeaseSeconds : Int := 30 * second
def defaultBackoffBaseSeconds : Int := 2 * second
def defaultBackoffCapSeconds : Int := 300 * second
def maxAttemptCeiling : Int := 100

/-- A transaction over the alert tables. -/
abbrev AlertTx (α : Type) := AlertDb → Except Failure (α × AlertDb)

/-- A statement that raises makes the transaction raise. -/
def liftSql {α : Type} : Except SqlError α → Except Failure α
  | .ok value => .ok value
  | .error error => .error (.database error)

@[simp] theorem liftSql_eq_ok {α : Type} {result : Except SqlError α} {value : α} :
    liftSql result = .ok value ↔ result = .ok value := by
  cases result <;> simp [liftSql]

/-- A value of a `GENERATED ALWAYS AS IDENTITY` sequence: `candidate`, unless a
row already has it. -/
def identityValue (candidate : Int) (used : List Int) : Int :=
  if candidate ∈ used then used.foldr max 0 + 1 else candidate

/-- Deterministic and stable across replay, retry, lease takeover and re-drive. -/
def deliveryIdempotencyKey (tenantId : String) (evaluationId : Int) (transition : Transition) :
    String :=
  tenantId ++ ":" ++ toString evaluationId ++ ":" ++ transition.text

/-- Deterministic bounded exponential backoff; `attemptCount` is 1-based. -/
def backoffDelaySeconds (attemptCount : Int) (baseSeconds capSeconds : Int) :
    Except Failure Int :=
  if attemptCount < 1 then .error (.valueError "attempt_count must be >= 1")
  else .ok (min (baseSeconds * 2 ^ (min (attemptCount - 1) 16).toNat) capSeconds)

/-- One leased delivery intent. Carries its own tenant context. -/
structure LeasedDelivery where
  outboxId : Int
  tenantId : String
  evaluationId : Int
  alertFingerprint : String
  transition : Transition
  destinationHost : String
  payload : Json
  payloadHash : String
  idempotencyKey : String
  attemptNumber : Int
  maxAttempts : Int
  leaseOwner : String
  leaseExpiresAt : Timestamp
deriving DecidableEq

namespace LeasedDelivery

def isFinalAttempt (leased : LeasedDelivery) : Bool :=
  leased.attemptNumber ≥ leased.maxAttempts

end LeasedDelivery

/-! ## Enqueue -/

/-- The intent `enqueue_in_transaction` inserts. -/
structure EnqueueRequest where
  tenantId : String
  evaluationId : Int
  alertFingerprint : String
  transition : Transition
  destinationHost : String
  payload : Json
  payloadHash : String
  enqueuedAt : Timestamp
  maxAttempts : Int := defaultMaxAttempts

def EnqueueRequest.row (request : EnqueueRequest) (outboxId : Int) : OutboxRow where
  outboxId := outboxId
  tenantId := request.tenantId
  evaluationId := request.evaluationId
  alertFingerprint := request.alertFingerprint
  transition := request.transition
  destinationHost := request.destinationHost
  payload := request.payload
  payloadHash := request.payloadHash
  idempotencyKey :=
    deliveryIdempotencyKey request.tenantId request.evaluationId request.transition
  enqueuedAt := request.enqueuedAt
  state := .pending
  attemptCount := 0
  maxAttempts := request.maxAttempts
  redriveCount := 0
  nextAttemptAt := request.enqueuedAt
  leaseOwner := none
  leaseExpiresAt := none
  lastErrorClass := none
  lastHttpStatus := none
  updatedAt := request.enqueuedAt
  completedAt := none

/-- The new outbox id, or `none` when the tenant/evaluation already has an intent. -/
def enqueueInTransaction (request : EnqueueRequest) (candidateId : Int) :
    AlertTx (Option Int) := fun db => do
  if request.maxAttempts < 1 ∨ maxAttemptCeiling < request.maxAttempts then
    .error (.valueError "max_attempts is outside the allowed bound")
  else do
    let row := request.row (identityValue candidateId (db.outbox.map (·.outboxId)))
    let (inserted, next) ← liftSql (insertOutbox true db row)
    .ok (if inserted then some row.outboxId else none, next)

/-! ## Lease -/

structure LeaseRequest where
  workerId : String
  now : Timestamp
  leaseSeconds : Int := defaultLeaseSeconds
  batchSize : Nat := 10

/-- The WHERE clause of the claim scan. -/
def leasable (now : Timestamp) (row : OutboxRow) : Bool :=
  row.nextAttemptAt ≤ now &&
    (row.state = .pending || (row.state = .inFlight && row.leaseExpiresAt.any (· ≤ now))) &&
    row.attemptCount < row.maxAttempts

/-- `ORDER BY next_attempt_at, outbox_id` -/
def leaseOrder (left right : OutboxRow) : Prop :=
  left.nextAttemptAt < right.nextAttemptAt ∨
    (left.nextAttemptAt = right.nextAttemptAt ∧ left.outboxId ≤ right.outboxId)

instance : DecidableRel leaseOrder := fun left right => by
  unfold leaseOrder
  infer_instance

/-- The claim scan, `LIMIT batch_size FOR UPDATE SKIP LOCKED`. -/
def leaseCandidates (request : LeaseRequest) (locked : Int → Bool) (db : AlertDb) : List Int :=
  (((db.outbox.filter (fun row => leasable request.now row && !locked row.outboxId)).insertionSort
    leaseOrder).take request.batchSize).map (·.outboxId)

def leaseProgress (request : LeaseRequest) (row : OutboxRow) : OutboxProgress :=
  { row.toOutboxProgress with
    state := .inFlight
    attemptCount := row.attemptCount + 1
    leaseOwner := some request.workerId
    leaseExpiresAt := some (request.now + request.leaseSeconds)
    updatedAt := request.now }

def leasedDelivery (request : LeaseRequest) (row : OutboxRow) : LeasedDelivery where
  outboxId := row.outboxId
  tenantId := row.tenantId
  evaluationId := row.evaluationId
  alertFingerprint := row.alertFingerprint
  transition := row.transition
  destinationHost := row.destinationHost
  payload := row.payload
  payloadHash := row.payloadHash
  idempotencyKey := row.idempotencyKey
  attemptNumber := row.attemptCount
  maxAttempts := row.maxAttempts
  leaseOwner := request.workerId
  leaseExpiresAt := request.now + request.leaseSeconds

/-- Atomically claim due work. Takes over leases that have expired. -/
def lease (request : LeaseRequest) (locked : Int → Bool) : AlertTx (List LeasedDelivery) :=
  fun db => do
    if request.workerId.isEmpty then .error (.valueError "worker_id is required")
    else if request.batchSize < 1 then .error (.valueError "batch_size must be >= 1")
    else do
      let ids := leaseCandidates request locked db
      if ids.isEmpty then .ok ([], db)
      else do
        let next ← liftSql
          (updateOutbox (fun row => ids.contains row.outboxId) (leaseProgress request) db)
        let rows := next.outbox.filter (fun row => ids.contains row.outboxId)
        .ok ((rows.insertionSort (fun left right => left.outboxId ≤ right.outboxId)).map
          (leasedDelivery request), next)

/-! ## Attempt outcomes -/

/-- What a recorded attempt says: the outcome and the clock around the POST. -/
structure AttemptRecord where
  outcome : AttemptOutcome
  httpStatus : Option Int
  errorClass : Option String
  startedAt : Timestamp
  completedAt : Timestamp

/-- The values the identity sequences hand out to one transaction. -/
structure SequenceValues where
  attemptEventId : Int
  deliveryAttemptId : Int

def leaseLost : Failure :=
  .conflict "OUTBOX_LEASE_LOST"
    "The delivery lease was taken over before this outcome was recorded"

def retryBudgetExhausted : Failure :=
  .conflict "OUTBOX_RETRY_BUDGET_EXHAUSTED"
    "Retry budget is exhausted; record a dead letter instead"

/-- The SELECT ... FOR UPDATE of `_append_attempt_event`. -/
def activeLease (leased : LeasedDelivery) (row : OutboxRow) : Bool :=
  row.outboxId == leased.outboxId && row.state == .inFlight &&
    row.attemptCount == leased.attemptNumber && row.leaseOwner == some leased.leaseOwner

def attemptEventRow (leased : LeasedDelivery) (record : AttemptRecord) (attemptEventId : Int) :
    AttemptEventRow where
  attemptEventId := attemptEventId
  outboxId := leased.outboxId
  tenantId := leased.tenantId
  evaluationId := leased.evaluationId
  attemptNumber := leased.attemptNumber
  outcome := record.outcome
  httpStatus := record.httpStatus
  errorClass := record.errorClass
  leaseOwner := leased.leaseOwner
  idempotencyKey := leased.idempotencyKey
  startedAt := record.startedAt
  completedAt := record.completedAt

/-- `_append_attempt_event` -/
def appendAttemptEvent (leased : LeasedDelivery) (record : AttemptRecord) (candidateId : Int)
    (db : AlertDb) : Except Failure AlertDb :=
  if db.outbox.any (activeLease leased) then
    liftSql (insertAttemptEvent true db (attemptEventRow leased record
      (identityValue candidateId (db.attemptEvents.map (·.attemptEventId)))))
  else .error leaseLost

/-- What `_transition` writes. -/
structure TransitionTarget where
  state : OutboxState
  nextAttemptAt : Option Timestamp
  lastHttpStatus : Option Int
  lastErrorClass : Option String
  completedAt : Option Timestamp
  now : Timestamp

def TransitionTarget.progress (target : TransitionTarget) (row : OutboxRow) : OutboxProgress :=
  { row.toOutboxProgress with
    state := target.state
    nextAttemptAt := target.nextAttemptAt.getD row.nextAttemptAt
    lastHttpStatus := target.lastHttpStatus
    lastErrorClass := target.lastErrorClass
    completedAt := target.completedAt
    leaseOwner := none
    leaseExpiresAt := none
    updatedAt := target.now }

/-- The WHERE clause of `_transition`: the lease owner, not the attempt number. -/
def holdsLease (leased : LeasedDelivery) (row : OutboxRow) : Bool :=
  row.outboxId == leased.outboxId && row.tenantId == leased.tenantId &&
    row.state == .inFlight && row.leaseOwner == some leased.leaseOwner

/-- `_transition` -/
def transition (leased : LeasedDelivery) (target : TransitionTarget) (db : AlertDb) :
    Except Failure AlertDb := do
  let next ← liftSql (updateOutbox (holdsLease leased) target.progress db)
  if db.outbox.any (holdsLease leased) then .ok next else .error leaseLost

def ledgerRow (leased : LeasedDelivery) (claimedAt : Timestamp) (deliveryAttemptId : Int) :
    LedgerRow where
  deliveryAttemptId := deliveryAttemptId
  tenantId := leased.tenantId
  evaluationId := leased.evaluationId
  alertFingerprint := leased.alertFingerprint
  transition := leased.transition
  destinationHost := leased.destinationHost
  payloadHash := leased.payloadHash
  claimedAt := claimedAt
  status := .claimed
  attemptCount := 0
  httpStatus := none
  errorClass := none
  completedAt := none

/-- `_write_terminal_ledger`: a row left by an earlier dead letter stays as it is. -/
def writeTerminalLedger (leased : LeasedDelivery) (status : DeliveryStatus)
    (record : AttemptRecord) (candidateId : Int) (db : AlertDb) : Except Failure AlertDb := do
  let next ← liftSql (insertLedger true db (ledgerRow leased record.completedAt
    (identityValue candidateId (db.ledger.map (·.deliveryAttemptId)))))
  liftSql (updateLedger
    (fun row => row.tenantId == leased.tenantId && row.evaluationId == leased.evaluationId &&
      row.status == .claimed)
    (fun _ => ⟨status, leased.attemptNumber, record.httpStatus, record.errorClass,
      some record.completedAt⟩) next)

/-- A call of one of the three record operations. -/
inductive RecordCall where
  | delivered (httpStatus : Int) (startedAt completedAt : Timestamp)
  | retry (outcome : AttemptOutcome) (httpStatus : Option Int) (errorClass : String)
      (startedAt completedAt : Timestamp) (backoffBaseSeconds : Int)
  | deadLetter (outcome : AttemptOutcome) (httpStatus : Option Int) (errorClass : String)
      (startedAt completedAt : Timestamp)
deriving DecidableEq

/-- The attempt evidence a call appends. -/
def RecordCall.record : RecordCall → AttemptRecord
  | .delivered httpStatus startedAt completedAt =>
      ⟨.delivered, some httpStatus, none, startedAt, completedAt⟩
  | .retry outcome httpStatus errorClass startedAt completedAt _
  | .deadLetter outcome httpStatus errorClass startedAt completedAt =>
      ⟨outcome, httpStatus, some errorClass, startedAt, completedAt⟩

def recordDelivered (leased : LeasedDelivery) (httpStatus : Int)
    (startedAt completedAt : Timestamp) (ids : SequenceValues) : AlertTx Unit := fun db => do
  if ¬ (200 ≤ httpStatus ∧ httpStatus < 300) then
    .error (.valueError "record_delivered requires a 2xx status")
  else do
    let record := (RecordCall.delivered httpStatus startedAt completedAt).record
    let db ← appendAttemptEvent leased record ids.attemptEventId db
    let db ← writeTerminalLedger leased .delivered record ids.deliveryAttemptId db
    let db ← transition leased
      ⟨.delivered, none, some httpStatus, none, some completedAt, completedAt⟩ db
    .ok ((), db)

/-- Return the row to PENDING with bounded backoff; returns the next due time. -/
def recordRetry (leased : LeasedDelivery) (outcome : AttemptOutcome) (httpStatus : Option Int)
    (errorClass : String) (startedAt completedAt : Timestamp) (backoffBaseSeconds : Int)
    (ids : SequenceValues) : AlertTx Timestamp := fun db => do
  if outcome ≠ .retryableFailure ∧ outcome ≠ .ambiguous then
    .error (.valueError "record_retry accepts only retryable or ambiguous outcomes")
  else if leased.isFinalAttempt then .error retryBudgetExhausted
  else do
    let delay ←
      backoffDelaySeconds leased.attemptNumber backoffBaseSeconds defaultBackoffCapSeconds
    let nextAttemptAt := completedAt + delay
    let record := (RecordCall.retry outcome httpStatus errorClass startedAt completedAt
      backoffBaseSeconds).record
    let db ← appendAttemptEvent leased record ids.attemptEventId db
    let db ← transition leased
      ⟨.pending, some nextAttemptAt, httpStatus, some errorClass, none, completedAt⟩ db
    .ok (nextAttemptAt, db)

def recordDeadLetter (leased : LeasedDelivery) (outcome : AttemptOutcome)
    (httpStatus : Option Int) (errorClass : String) (startedAt completedAt : Timestamp)
    (ids : SequenceValues) : AlertTx Unit := fun db => do
  if outcome = .delivered then
    .error (.valueError "record_dead_letter requires a failure or ambiguous outcome")
  else do
    let record := (RecordCall.deadLetter outcome httpStatus errorClass startedAt completedAt).record
    let db ← appendAttemptEvent leased record ids.attemptEventId db
    let db ← writeTerminalLedger leased .failed record ids.deliveryAttemptId db
    let db ← transition leased
      ⟨.deadLetter, none, httpStatus, some errorClass, some completedAt, completedAt⟩ db
    .ok ((), db)

/-- The record operation a call names. -/
def RecordCall.run (leased : LeasedDelivery) (ids : SequenceValues) (db : AlertDb) :
    RecordCall → Except Failure AlertDb
  | .delivered httpStatus startedAt completedAt =>
      Prod.snd <$> recordDelivered leased httpStatus startedAt completedAt ids db
  | .retry outcome httpStatus errorClass startedAt completedAt backoffBaseSeconds =>
      Prod.snd <$> recordRetry leased outcome httpStatus errorClass startedAt completedAt
        backoffBaseSeconds ids db
  | .deadLetter outcome httpStatus errorClass startedAt completedAt =>
      Prod.snd <$> recordDeadLetter leased outcome httpStatus errorClass startedAt completedAt
        ids db

/-! ## Re-drive -/

/-- The re-drive operator, of one tenant. -/
structure RedriveRequest where
  tenantId : String
  outboxId : Int
  now : Timestamp
  additionalAttempts : Int := defaultMaxAttempts

def redriveProgress (request : RedriveRequest) (ceiling : Int) (row : OutboxRow) :
    OutboxProgress :=
  { row.toOutboxProgress with
    state := .pending
    maxAttempts := ceiling
    redriveCount := row.redriveCount + 1
    nextAttemptAt := request.now
    completedAt := none
    leaseOwner := none
    leaseExpiresAt := none
    updatedAt := request.now }

/-- Move one dead-lettered row back to PENDING with a raised ceiling. -/
def redrive (request : RedriveRequest) : AlertTx Unit := fun db => do
  if request.additionalAttempts < 1 then
    .error (.valueError "additional_attempts must be >= 1")
  else
    match db.outbox.find? (fun row =>
        row.tenantId == request.tenantId && row.outboxId == request.outboxId) with
    | none => .error (.stockoutOps .notFoundError)
    | some row =>
        if row.state ≠ .deadLetter then
          .error (.conflict "OUTBOX_NOT_DEAD_LETTERED"
            "Only a DEAD_LETTER row may be re-driven")
        else
          let newCeiling := min (row.attemptCount + request.additionalAttempts) maxAttemptCeiling
          if newCeiling ≤ row.attemptCount then
            .error (.conflict "OUTBOX_ATTEMPT_CEILING_REACHED"
              "Re-drive cannot raise the attempt ceiling any further")
          else do
            let next ← liftSql (updateOutbox
              (fun row => row.tenantId == request.tenantId && row.outboxId == request.outboxId &&
                row.state == .deadLetter)
              (redriveProgress request newCeiling) db)
            .ok ((), next)

end StockoutOps.Alerting
