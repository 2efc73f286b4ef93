import Mathlib.Logic.Function.Basic
import StockoutOps.Alerting.Repository
import StockoutOps.Alerting.Worker

/-!
Contract: evaluations, workers and operators on one outbox.

Owns: the HTTP request of `alerting/webhook.py`, the construction of a worker,
the phases of its loop, and the system in which any number of workers run
theirs while evaluations are recorded and dead letters re-driven.

Does not own: what the runs of the system satisfy.

A worker's loop is cut at its transactions and at the two ends of each POST, so
that anything may happen in between. A worker may die at any point and start
again.
-/

namespace StockoutOps.Alerting

open StockoutOps.Sql

/-! ## The worker -/

/-- A transport is made by `WebhookTransport.create`. -/
structure WebhookTransport where
  settings : AlertDeliverySettings
  webhookUrl : String
deriving DecidableEq

structure PostRequest where
  url : String
  headers : List (String × String)
  json : Json

namespace WebhookTransport

/-- `WebhookTransport.__init__` -/
def create (urlparse : UrlParser) (settings : AlertDeliverySettings) :
    Except Failure WebhookTransport := do
  settings.validate urlparse
  match settings.webhookUrl with
  | none => .error (.valueError "WebhookTransport requires a configured webhook URL")
  | some url => .ok ⟨settings, url⟩

/-- The request of `WebhookTransport.post`; redirects are not followed. -/
def post (transport : WebhookTransport) (payload : Json) (idempotencyKey : String) :
    PostRequest where
  url := transport.webhookUrl
  headers :=
    [("Accept", "application/json"), ("Content-Type", "application/json"),
      ("Idempotency-Key", idempotencyKey)] ++
    match transport.settings.token with
    | none => []
    | some token => if token = "" then [] else [("Authorization", "Bearer " ++ token)]
  json := payload

end WebhookTransport

/-- A worker is made by `buildWorker`. -/
structure AlertOutboxWorker where
  transport : WebhookTransport
  workerId : String
  leaseSeconds : Int := defaultLeaseSeconds

def buildWorker (urlparse : UrlParser) (settings : AlertDeliverySettings) (workerId : String)
    (leaseSeconds : Int := defaultLeaseSeconds) : Except Failure AlertOutboxWorker :=
  if !settings.enabled then
    .error (.valueError "Alert outbox worker requires enabled delivery settings")
  else do
    let transport ← WebhookTransport.create urlparse settings
    if workerId = "" then .error (.valueError "worker_id is required")
    else .ok ⟨transport, workerId, leaseSeconds⟩

/-- The claim of a `run_once`. -/
def AlertOutboxWorker.leaseRequest (worker : AlertOutboxWorker) (now : Timestamp)
    (batchSize : Nat) : LeaseRequest where
  workerId := worker.workerId
  now := now
  leaseSeconds := worker.leaseSeconds
  batchSize := batchSize

/-! ## The system -/

/-- A call of `transport.post`. -/
structure Post where
  worker : Nat
  leased : LeasedDelivery
  request : PostRequest

/-- The call `_process` makes for a delivery. -/
def postOf (workers : Nat → AlertOutboxWorker) (worker : Nat) (leased : LeasedDelivery) : Post where
  worker := worker
  leased := leased
  request := (workers worker).transport.post leased.payload leased.idempotencyKey

/-- Where a worker is in its loop; the list is what is left of the batch. -/
inductive WorkerPhase where
  | serving (batch : List LeasedDelivery)
  | posting (post : Post) (startedAt : Timestamp) (batch : List LeasedDelivery)
  | answered (post : Post) (startedAt : Timestamp) (outcome : TransportOutcome)
      (batch : List LeasedDelivery)

def WorkerPhase.post? : WorkerPhase → Option Post
  | .serving _ => none
  | .posting post _ _ | .answered post _ _ _ => some post

/-- The deliveries the worker has not recorded yet. -/
def WorkerPhase.pending : WorkerPhase → List LeasedDelivery
  | .serving batch => batch
  | .posting post _ batch => post.leased :: batch
  | .answered post _ _ batch => post.leased :: batch

structure DeliverySystem where
  outbox : OutboxSystem
  /-- The committed evaluation events with the calls that stored them. -/
  log : List (Nat × EvaluationRow)
  phase : Nat → WorkerPhase
  posts : List Post
  /-- The POSTs that returned or raised. -/
  answers : List (Post × TransportOutcome)
  /-- The POSTs whose `_process` returned. -/
  returned : List (Post × TransportOutcome)

inductive DeliveryOp where
  | record (caller : Nat) (ids : RecordIds)
  | redrive (request : RedriveRequest)
  | lease (worker : Nat) (now : Timestamp) (batchSize : Nat) (locked : Int → Bool)
  | post (worker : Nat) (startedAt : Timestamp)
  | answer (worker : Nat) (outcome : TransportOutcome)
  | process (worker : Nat) (completedAt : Timestamp) (ids : SequenceValues)
  | crash (worker : Nat)

/-- The sequences are shared by all alerts; under the advisory lock of one alert
their values increase. -/
def RecordIds.Increasing (platform : EvaluationPlatform) (request : RecordRequest)
    (ids : RecordIds) (db : AlertDb) : Prop :=
  (∀ row ∈ db.history request.principal.tenantId (request.fingerprint platform),
    row.alertEvaluationId < ids.evaluationId) ∧
  ∀ row ∈ db.outbox, row.tenantId = request.principal.tenantId →
    row.alertFingerprint = request.fingerprint platform → row.outboxId < ids.outboxId

instance (platform : EvaluationPlatform) (request : RecordRequest) (ids : RecordIds)
    (db : AlertDb) : Decidable (ids.Increasing platform request db) := by
  unfold RecordIds.Increasing
  infer_instance

namespace DeliverySystem

def initial : DeliverySystem where
  outbox := OutboxSystem.initial
  log := []
  phase := fun _ => .serving []
  posts := []
  answers := []
  returned := []

def enter (state : DeliverySystem) (worker : Nat) (phase : WorkerPhase) : DeliverySystem :=
  { state with phase := Function.update state.phase worker phase }

/-- One step; a step that does not fit the worker's phase does nothing. -/
def step (platform : EvaluationPlatform) (calls : Nat → Submission)
    (workers : Nat → AlertOutboxWorker) (state : DeliverySystem) : DeliveryOp → DeliverySystem
  | .record caller ids =>
      let submission := calls caller
      if ids.Increasing platform submission.request state.outbox.db then
        match submission.repository.recordAtomically platform submission.request ids
          state.outbox.db with
        | .ok (evaluation, db) =>
            if evaluation.idempotentReplay then state
            else
              { state with
                outbox := { state.outbox with db := db }
                log := state.log ++
                  [(caller, state.outbox.db.newEvent platform submission.request ids)] }
        | .error _ => state
      else state
  | .redrive request => { state with outbox := state.outbox.step (.redrive request) }
  | .lease worker now batchSize locked =>
      match state.phase worker with
      | .serving [] =>
          let request := (workers worker).leaseRequest now batchSize
          match Alerting.lease request locked state.outbox.db with
          | .ok (batch, _) =>
              { state with outbox := state.outbox.step (.lease request locked) }.enter worker
                (.serving batch)
          | .error _ => state
      | _ => state
  | .post worker startedAt =>
      match state.phase worker with
      | .serving (leased :: batch) =>
          let post := postOf workers worker leased
          { state with posts := state.posts ++ [post] }.enter worker
            (.posting post startedAt batch)
      | _ => state
  | .answer worker outcome =>
      match state.phase worker with
      | .posting post startedAt batch =>
          { state with answers := state.answers ++ [(post, outcome)] }.enter worker
            (.answered post startedAt outcome batch)
      | _ => state
  | .process worker completedAt ids =>
      match state.phase worker with
      | .answered post startedAt outcome batch =>
          let attempt := Attempt.mk outcome startedAt completedAt ids []
          match Alerting.process post.leased attempt state.outbox.db with
          | .ok _ =>
              { state with
                outbox := state.outbox.step
                  (.record post.leased (attempt.call post.leased) ids)
                returned := state.returned ++ [(post, outcome)] }.enter worker (.serving batch)
          | .error _ => state.enter worker (.serving [])
      | _ => state
  | .crash worker => state.enter worker (.serving [])

def run (platform : EvaluationPlatform) (calls : Nat → Submission)
    (workers : Nat → AlertOutboxWorker) (state : DeliverySystem) (ops : List DeliveryOp) :
    DeliverySystem :=
  ops.foldl (step platform calls workers) state

/-- Every step of a run meets a condition on the state before it. -/
def EachStep (platform : EvaluationPlatform) (calls : Nat → Submission)
    (workers : Nat → AlertOutboxWorker) (Keeps : DeliverySystem → DeliveryOp → Prop) :
    DeliverySystem → List DeliveryOp → Prop
  | _, [] => True
  | state, op :: rest =>
      Keeps state op ∧ EachStep platform calls workers Keeps (state.step platform calls workers op)
        rest

theorem EachStep.of_forall {platform : EvaluationPlatform} {calls : Nat → Submission}
    {workers : Nat → AlertOutboxWorker} {Keeps : DeliverySystem → DeliveryOp → Prop}
    (keeps : ∀ state op, Keeps state op) :
    ∀ state ops, EachStep platform calls workers Keeps state ops
  | _, [] => trivial
  | state, op :: rest => ⟨keeps state op, .of_forall keeps _ rest⟩

/-- An invariant that every step of the run keeps, and what it says of each step. -/
theorem EachStep.invariant {platform : EvaluationPlatform} {calls : Nat → Submission}
    {workers : Nat → AlertOutboxWorker} {Keeps Good : DeliverySystem → DeliveryOp → Prop}
    {Invariant : DeliverySystem → Prop}
    (kept : ∀ state op, Invariant state → Keeps state op →
      Good state op ∧ Invariant (state.step platform calls workers op)) {state : DeliverySystem}
    {ops : List DeliveryOp} (holds : Invariant state)
    (keeps : EachStep platform calls workers Keeps state ops) :
    EachStep platform calls workers Good state ops ∧
      Invariant (state.run platform calls workers ops) := by
  induction ops generalizing state with
  | nil => exact ⟨trivial, holds⟩
  | cons op rest inductionHypothesis =>
      obtain ⟨good, next⟩ := kept state op holds keeps.1
      obtain ⟨later, last⟩ := inductionHypothesis next keeps.2
      exact ⟨⟨good, later⟩, last⟩

instance decidableEachStep (platform : EvaluationPlatform) (calls : Nat → Submission)
    (workers : Nat → AlertOutboxWorker) (Keeps : DeliverySystem → DeliveryOp → Prop)
    [∀ state op, Decidable (Keeps state op)] :
    ∀ state ops, Decidable (EachStep platform calls workers Keeps state ops)
  | _, [] => isTrue trivial
  | state, op :: rest =>
      have := decidableEachStep platform calls workers Keeps
        (state.step platform calls workers op) rest
      inferInstanceAs (Decidable (_ ∧ _))

end DeliverySystem

end StockoutOps.Alerting
