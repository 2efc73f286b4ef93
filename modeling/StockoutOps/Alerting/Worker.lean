import StockoutOps.Alerting.OutboxAcceptance

/-!
Contract: the leased delivery worker, `alerting/worker.py`.

Owns: the classification of a POST's answer, the choice of the outcome to
record, and one `run_once` over the batch a lease returned, with the
transactions other parties commit between its own.

Does not own: the HTTP request. What it comes to is the input of the model: a
final status code or an exception.
-/

namespace StockoutOps.Alerting

open StockoutOps.Sql

/-! ## Classification -/

/-- The exceptions `classify_transport_error` tells apart. -/
inductive TransportException where
  | timeoutException | connectError | other
deriving DecidableEq

/-- What `transport.post` comes to. -/
inductive TransportOutcome where
  | response (statusCode : Int)
  | raised (exception : TransportException)
deriving DecidableEq

/-- A final status code of the HTTP client, or any exception. -/
def TransportOutcome.Final : TransportOutcome → Prop
  | .response statusCode => statusCode = 101 ∨ (200 ≤ statusCode ∧ statusCode ≤ 999)
  | .raised _ => True

def retryableErrorClasses : List String := ["timeout", "connection_error", "transport_error"]

def ambiguousErrorClasses : List String := ["timeout"]

def classifyTransportError : TransportException → String
  | .timeoutException => "timeout"
  | .connectError => "connection_error"
  | .other => "transport_error"

structure AttemptOutcomeDecision where
  outcome : AttemptOutcome
  httpStatus : Option Int
  errorClass : Option String
  retryable : Bool
deriving DecidableEq

def httpErrorClass (statusCode : Int) : String :=
  "http_" ++ toString statusCode

def classifyResponse (statusCode : Int) : AttemptOutcomeDecision :=
  if 200 ≤ statusCode ∧ statusCode < 300 then ⟨.delivered, some statusCode, none, false⟩
  else if statusCode ≥ 500 then
    ⟨.retryableFailure, some statusCode, some (httpErrorClass statusCode), true⟩
  else ⟨.permanentFailure, some statusCode, some (httpErrorClass statusCode), false⟩

def classifyException (exception : TransportException) : AttemptOutcomeDecision :=
  let errorClass := classifyTransportError exception
  if errorClass ∈ ambiguousErrorClasses then ⟨.ambiguous, none, some errorClass, true⟩
  else if errorClass ∈ retryableErrorClasses then
    ⟨.retryableFailure, none, some errorClass, true⟩
  else ⟨.permanentFailure, none, some errorClass, false⟩

/-! ## `_process` -/

structure WorkerRunResult where
  leased : Nat := 0
  delivered : Nat := 0
  retried : Nat := 0
  deadLettered : Nat := 0
  leaseLost : Nat := 0
deriving DecidableEq

def WorkerRunResult.merged (self other : WorkerRunResult) : WorkerRunResult where
  leased := self.leased + other.leased
  delivered := self.delivered + other.delivered
  retried := self.retried + other.retried
  deadLettered := self.deadLettered + other.deadLettered
  leaseLost := self.leaseLost + other.leaseLost

/-- The POST of one item with the clock around it, the identity values of the
transaction that records it, and what others committed before that. -/
structure Attempt where
  outcome : TransportOutcome
  startedAt : Timestamp
  completedAt : Timestamp
  ids : SequenceValues
  meanwhile : List OutboxOp

def Attempt.decision (attempt : Attempt) : AttemptOutcomeDecision :=
  match attempt.outcome with
  | .response statusCode => classifyResponse statusCode
  | .raised exception => classifyException exception

/-- `decision.error_class or "unknown_error"` -/
def AttemptOutcomeDecision.errorClassOr (decision : AttemptOutcomeDecision) : String :=
  match decision.errorClass with
  | some errorClass => if errorClass = "" then "unknown_error" else errorClass
  | none => "unknown_error"

/-- The body of the `try`. -/
def recordDecision (leased : LeasedDelivery) (attempt : Attempt) (db : AlertDb) :
    Except Failure (WorkerRunResult × AlertDb) :=
  let decision := attempt.decision
  if decision.outcome = .delivered then
    match decision.httpStatus with
    | none => .error .assertionError
    | some httpStatus => do
        let (_, db) ←
          recordDelivered leased httpStatus attempt.startedAt attempt.completedAt attempt.ids db
        .ok ({ delivered := 1 }, db)
  else if decision.retryable && !leased.isFinalAttempt then do
    let (_, db) ← recordRetry leased decision.outcome decision.httpStatus decision.errorClassOr
      attempt.startedAt attempt.completedAt defaultBackoffBaseSeconds attempt.ids db
    .ok ({ retried := 1 }, db)
  else do
    let (_, db) ← recordDeadLetter leased decision.outcome decision.httpStatus
      decision.errorClassOr attempt.startedAt attempt.completedAt attempt.ids db
    .ok ({ deadLettered := 1 }, db)

/-- `except ConflictError` with the code of a lost lease. -/
def isLeaseLost : Failure → Bool
  | .stockoutOps (.conflictError code _) => code == "OUTBOX_LEASE_LOST"
  | _ => false

def process (leased : LeasedDelivery) (attempt : Attempt) (db : AlertDb) :
    Except Failure (WorkerRunResult × AlertDb) :=
  match recordDecision leased attempt db with
  | .ok recorded => .ok recorded
  | .error error => if isLeaseLost error then .ok ({ leaseLost := 1 }, db) else .error error

/-! ## `run_once` -/

/-- One item of a batch: the state when its outcome is about to be recorded, and
what `_process` returned or let through. -/
structure ItemRun where
  leased : LeasedDelivery
  before : OutboxSystem
  result : Except Failure WorkerRunResult
  after : OutboxSystem

/-- The requests the item made, `(payload, idempotency_key)`. -/
def ItemRun.post (item : ItemRun) : Json × String :=
  (item.leased.payload, item.leased.idempotencyKey)

/-- A `run_once`: the batch its lease returned, what it returned or let through,
and its items up to there. -/
structure WorkerRun where
  batch : List LeasedDelivery
  result : Except Failure WorkerRunResult
  items : List ItemRun

/-- The record operation `_process` chooses. -/
def Attempt.call (leased : LeasedDelivery) (attempt : Attempt) : RecordCall :=
  let decision := attempt.decision
  if decision.outcome = .delivered then
    .delivered (decision.httpStatus.getD 0) attempt.startedAt attempt.completedAt
  else if decision.retryable && !leased.isFinalAttempt then
    .retry decision.outcome decision.httpStatus decision.errorClassOr attempt.startedAt
      attempt.completedAt defaultBackoffBaseSeconds
  else
    .deadLetter decision.outcome decision.httpStatus decision.errorClassOr attempt.startedAt
      attempt.completedAt

def processItem (leased : LeasedDelivery) (attempt : Attempt) (state : OutboxSystem) : ItemRun :=
  let before := state.run attempt.meanwhile
  { leased := leased
    before := before
    result := Prod.fst <$> process leased attempt before.db
    after := before.step (.record leased (attempt.call leased) attempt.ids) }

/-- The loop over the batch; an exception that escapes ends it. -/
def processBatch (attempts : LeasedDelivery → Attempt) (state : OutboxSystem)
    (result : WorkerRunResult) :
    List LeasedDelivery → Except Failure WorkerRunResult × List ItemRun
  | [] => (.ok result, [])
  | leased :: rest =>
      let item := processItem leased (attempts leased) state
      match item.result with
      | .error error => (.error error, [item])
      | .ok itemResult =>
          let later := processBatch attempts item.after (result.merged itemResult) rest
          (later.1, item :: later.2)

def runOnce (request : LeaseRequest) (locked : Int → Bool) (attempts : LeasedDelivery → Attempt)
    (state : OutboxSystem) : WorkerRun :=
  match lease request locked state.db with
  | .error error => ⟨[], .error error, []⟩
  | .ok (batch, db) =>
      let processed := processBatch attempts
        { state with db := db, handedOut := state.handedOut ++ batch }
        { leased := batch.length } batch
      ⟨batch, processed.1, processed.2⟩

end StockoutOps.Alerting
