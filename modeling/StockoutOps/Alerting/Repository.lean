import StockoutOps.Alerting.Enqueue

/-!
Contract: the append-only evaluation history, `alerting/repository.py`.

Owns: the queries of the history, `AlertRepository.record` over any way of
running its statements, its run as one atomic transaction, and what such a
transaction can do (`Recording`).

Does not own: the interleaving of the statements of several calls.
-/

namespace StockoutOps.Alerting

open StockoutOps.Sql

/-! ## Queries -/

/-- `tenant_id = %s AND alert_fingerprint = %s` -/
def EvaluationRow.ofAlert (tenantId fingerprint : String) (row : EvaluationRow) : Bool :=
  row.tenantId == tenantId && row.alertFingerprint == fingerprint

/-- The rows of one alert, in the order of their commits. -/
def AlertDb.history (db : AlertDb) (tenantId fingerprint : String) : List EvaluationRow :=
  db.evaluations.filter (·.ofAlert tenantId fingerprint)

theorem history_append {db next : AlertDb} {added : List EvaluationRow}
    (appended : next.evaluations = db.evaluations ++ added) (tenantId fingerprint : String) :
    next.history tenantId fingerprint =
      db.history tenantId fingerprint ++ added.filter (·.ofAlert tenantId fingerprint) := by
  rw [AlertDb.history, appended, List.filter_append]
  rfl

def AlertDb.evaluationByKey? (db : AlertDb) (tenantId fingerprint idempotencyKey : String) :
    Option EvaluationRow :=
  (db.history tenantId fingerprint).find? (·.idempotencyKey == idempotencyKey)

def AlertDb.evaluationByPayload? (db : AlertDb) (tenantId fingerprint payloadHash : String) :
    Option EvaluationRow :=
  (db.history tenantId fingerprint).find? (·.payloadHash == payloadHash)

/-- The row with the greatest id, `ORDER BY alert_evaluation_id DESC LIMIT 1`. -/
def latestRow : List EvaluationRow → Option EvaluationRow
  | [] => none
  | row :: rest =>
      match latestRow rest with
      | none => some row
      | some latest =>
          if latest.alertEvaluationId < row.alertEvaluationId then some row else some latest

/-- The latest row of the alert whose state is not null. -/
def AlertDb.latestMeasured? (db : AlertDb) (tenantId fingerprint : String) :
    Option EvaluationRow :=
  latestRow ((db.history tenantId fingerprint).filter (·.state.isSome))

/-- `AlertRepository.events`, without the replay flag of its result. -/
def AlertDb.events (db : AlertDb) (tenantId fingerprint : String) : List EvaluationRow :=
  (db.history tenantId fingerprint).insertionSort
    (fun left right => left.alertEvaluationId ≤ right.alertEvaluationId)

/-- `AlertRepository.current` -/
def AlertDb.current (platform : EvaluationPlatform) (db : AlertDb)
    (principal : Principal) (fingerprint : String) : Except Failure AlertEvaluation :=
  match db.latestMeasured? principal.tenantId fingerprint with
  | none => .error (.stockoutOps .notFoundError)
  | some row => .ok (rowToEvaluation platform row false)

/-! ## Record -/

/-- The statements of `record` in some notion of computation. -/
structure AlertStatements (m : Type → Type v) where
  transaction {α : Type} : m α → m α
  raise {α : Type} : Failure → m α
  advisoryXactLock : Int → m Unit
  selectByKey (tenantId fingerprint idempotencyKey : String) : m (Option EvaluationRow)
  selectByPayload (tenantId fingerprint payloadHash : String) : m (Option EvaluationRow)
  selectLatestState (tenantId fingerprint : String) : m (Option AlertState)
  insertEvaluation : (Int → EvaluationRow) → m EvaluationRow
  insertIntent : EnqueueRequest → m (Option Int)

structure AlertRepository where
  deliveryEnqueuer : Option WebhookOutboxEnqueuer

/-- One call of `record`: the repository and the arguments. -/
structure Submission where
  repository : AlertRepository
  request : RecordRequest

def alertIdempotencyConflict : Failure :=
  .conflict "ALERT_IDEMPOTENCY_CONFLICT"
    "Alert idempotency key was already used with a different payload"

/-- `AlertRepository.record` -/
def AlertRepository.record {m : Type → Type v} [Monad m] (platform : EvaluationPlatform)
    (statements : AlertStatements m) (repository : AlertRepository) (request : RecordRequest) :
    m AlertEvaluation :=
  if request.snapshot.correlation.tenantId ≠ request.principal.tenantId then
    statements.raise (.stockoutOps .notFoundError)
  else
    let tenantId := request.principal.tenantId
    let fingerprint := request.fingerprint platform
    let payloadHash := request.payloadHash platform
    statements.transaction do
      statements.advisoryXactLock (platform.lockKey (request.lockText platform))
      match ← statements.selectByKey tenantId fingerprint request.idempotencyKey with
      | some existing =>
          if existing.payloadHash ≠ payloadHash then statements.raise alertIdempotencyConflict
          else pure (rowToEvaluation platform existing true)
      | none =>
          match ← statements.selectByPayload tenantId fingerprint payloadHash with
          | some duplicate => pure (rowToEvaluation platform duplicate true)
          | none => do
              let previous ← statements.selectLatestState tenantId fingerprint
              let row ← statements.insertEvaluation (request.row platform previous)
              let evaluation := rowToEvaluation platform row false
              match repository.deliveryEnqueuer with
              | none => pure evaluation
              | some enqueuer => do
                  let _ ← enqueuer.enqueue platform statements.insertIntent evaluation
                    request.evaluatedAt
                  pure evaluation

/-! ## Record as one transaction -/

/-- The values the identity sequences hand out to one call. -/
structure RecordIds where
  evaluationId : Int
  outboxId : Int

/-- The INSERT of an intent; `Jsonb(payload)` refuses a float that is not finite. -/
def insertIntent (outboxId : Int) (request : EnqueueRequest) : AlertTx (Option Int) := fun db =>
  if request.payload.acceptedByJsonb then enqueueInTransaction request outboxId db
  else .error (.database (.raised "invalid input syntax for type json"))

/-- What an INSERT of an intent needs of the request alone. -/
structure EnqueueRequest.Acceptable (request : EnqueueRequest) : Prop where
  payload : request.payload.acceptedByJsonb = true
  budget : 1 ≤ request.maxAttempts ∧ request.maxAttempts ≤ maxAttemptCeiling

section InsertIntent

variable {outboxId : Int} {request : EnqueueRequest} {db next : AlertDb} {inserted : Option Int}

/-- An intent is stored, or the evaluation has one. -/
theorem insertIntent_ok (accepted : insertIntent outboxId request db = .ok (inserted, next)) :
    (inserted = none ∧ next = db ∧ ∃ row ∈ db.outbox, row.tenantId = request.tenantId ∧
        row.evaluationId = request.evaluationId) ∨
      ∃ id, inserted = some id ∧ request.Acceptable ∧
        insertOutbox true db (request.row id) = .ok (true, next) := by
  unfold insertIntent enqueueInTransaction at accepted
  split at accepted
  case isFalse => cases accepted
  case isTrue payload =>
    split at accepted
    case isTrue => cases accepted
    case isFalse bounds =>
      simp only [bind_eq_ok, liftSql_eq_ok, Except.ok.injEq] at accepted
      obtain ⟨⟨flag, result⟩, insert, same⟩ := accepted
      obtain ⟨rfl, rfl⟩ := Prod.mk.inj same
      cases flag with
      | true =>
          refine .inr ⟨_, rfl, ⟨payload, ?_⟩, insert⟩
          constructor <;> omega
      | false =>
          refine .inl ⟨rfl, ?_⟩
          simp only [insertOutbox, guard_bind_eq_ok] at insert
          obtain ⟨-, -, insert⟩ := insert
          split at insert
          case isFalse => simp [guard_bind_eq_ok] at insert
          case isTrue conflict =>
            simp only [Bool.true_and, outboxConflict, List.any_eq_true, Bool.and_eq_true,
              beq_iff_eq] at conflict
            exact ⟨(Prod.mk.inj (Except.ok.inj insert)).2.symm, conflict⟩

/-- An acceptable intent whose row is accepted is stored under a fresh id. -/
theorem insertIntent_inserts (acceptable : request.Acceptable)
    (insert : insertOutbox true db (request.row outboxId) = .ok (true, next)) :
    insertIntent outboxId request db = .ok (some outboxId, next) := by
  have budget := acceptable.budget
  have fresh : outboxId ∉ db.outbox.map (·.outboxId) := by
    intro member
    obtain ⟨row, rowMember, same⟩ := List.mem_map.mp member
    exact (insertOutbox_inserts.mp insert).2.2.1 row rowMember (.inl same)
  rw [insertIntent, if_pos acceptable.payload, enqueueInTransaction, if_neg (by omega)]
  simp only [identityValue, if_neg fresh, insert, liftSql, bind, Except.bind, if_true]
  rfl

end InsertIntent

/-- Statements that run alone: a transaction that raises leaves no trace. -/
def AlertStatements.atomic (ids : RecordIds) :
    AlertStatements (StateT AlertDb (Except Failure)) where
  transaction body := body
  raise failure := fun _ => .error failure
  advisoryXactLock _ := pure ()
  selectByKey tenantId fingerprint idempotencyKey := fun db =>
    .ok (db.evaluationByKey? tenantId fingerprint idempotencyKey, db)
  selectByPayload tenantId fingerprint payloadHash := fun db =>
    .ok (db.evaluationByPayload? tenantId fingerprint payloadHash, db)
  selectLatestState tenantId fingerprint := fun db =>
    .ok ((db.latestMeasured? tenantId fingerprint).bind (·.state), db)
  insertEvaluation makeRow := fun db => do
    let row := makeRow ids.evaluationId
    let next ← liftSql (StockoutOps.Alerting.insertEvaluation db row)
    .ok (row, next)
  insertIntent request := StockoutOps.Alerting.insertIntent ids.outboxId request

def AlertRepository.recordAtomically (platform : EvaluationPlatform) (repository : AlertRepository)
    (request : RecordRequest) (ids : RecordIds) : AlertTx AlertEvaluation :=
  repository.record (m := StateT AlertDb (Except Failure)) platform (AlertStatements.atomic ids)
    request

section Recording

variable (platform : EvaluationPlatform) (repository : AlertRepository) (request : RecordRequest)
  (ids : RecordIds)

/-- The event the request was given before under its key. -/
def AlertDb.boundEvent? (db : AlertDb) : Option EvaluationRow :=
  db.evaluationByKey? request.principal.tenantId (request.fingerprint platform)
    request.idempotencyKey

/-- The event that stores the request's payload. -/
def AlertDb.payloadEvent? (db : AlertDb) : Option EvaluationRow :=
  db.evaluationByPayload? request.principal.tenantId (request.fingerprint platform)
    (request.payloadHash platform)

/-- The event a new request adds. -/
def AlertDb.newEvent (db : AlertDb) : EvaluationRow :=
  request.row platform
    ((db.latestMeasured? request.principal.tenantId (request.fingerprint platform)).bind (·.state))
    ids.evaluationId

@[simp] theorem newEvent_ofAlert (db : AlertDb) :
    (db.newEvent platform request ids).ofAlert request.principal.tenantId
      (request.fingerprint platform) = true := by
  simp [AlertDb.newEvent, RecordRequest.row, EvaluationRow.ofAlert]

/-- What the repository's enqueuer adds for an event. -/
def AlertRepository.enqueueEvent (event : EvaluationRow) (db : AlertDb) : Except Failure AlertDb :=
  match repository.deliveryEnqueuer with
  | none => .ok db
  | some enqueuer =>
      if event.transition.isLifecycle then
        Prod.snd <$> insertIntent ids.outboxId
          (enqueuer.intent platform (rowToEvaluation platform event false) request.evaluatedAt) db
      else .ok db

/-- A step that only answers leaves the tables as they are. -/
theorem answered_apply {σ ε ρ : Type} (answer : ρ) (state : σ) :
    (StateT.pure answer : StateT σ (Except ε) ρ) state = .ok (answer, state) := rfl

theorem recordAtomically_eq (db : AlertDb) :
    repository.recordAtomically platform request ids db =
      if request.snapshot.correlation.tenantId ≠ request.principal.tenantId then
        .error (.stockoutOps .notFoundError)
      else
        match db.boundEvent? platform request with
        | some existing =>
            if existing.payloadHash ≠ request.payloadHash platform then
              .error alertIdempotencyConflict
            else .ok (rowToEvaluation platform existing true, db)
        | none =>
            match db.payloadEvent? platform request with
            | some duplicate => .ok (rowToEvaluation platform duplicate true, db)
            | none => (do
                let event := db.newEvent platform request ids
                let middle ← liftSql (insertEvaluation db event)
                let next ← repository.enqueueEvent platform request ids event middle
                .ok (rowToEvaluation platform event false, next)) := by
  unfold AlertRepository.recordAtomically AlertRepository.record
  split
  · rfl
  simp only [AlertDb.boundEvent?, AlertDb.payloadEvent?, AlertStatements.atomic, bind, StateT.bind,
    Except.bind, pure, answered_apply]
  cases db.evaluationByKey? request.principal.tenantId (request.fingerprint platform)
      request.idempotencyKey with
  | some existing =>
      simp only
      split <;> rfl
  | none =>
      simp only [StateT.bind, bind, Except.bind]
      cases db.evaluationByPayload? request.principal.tenantId (request.fingerprint platform)
          (request.payloadHash platform) with
      | some duplicate => rfl
      | none =>
          simp only [StateT.bind, bind, Except.bind, AlertDb.newEvent]
          cases insertEvaluation db _ with
          | error refused => rfl
          | ok middle =>
              simp only [liftSql, AlertRepository.enqueueEvent, WebhookOutboxEnqueuer.enqueue,
                shouldNotify]
              cases repository.deliveryEnqueuer with
              | none => rfl
              | some enqueuer =>
                  simp only [rowToEvaluation, Bool.not_false, Bool.true_and]
                  split
                  · simp only [StateT.bind, bind, Except.bind]
                    cases StockoutOps.Alerting.insertIntent _ _ _ <;> rfl
                  · rfl

/-- What an enqueuer can have done for an event. -/
inductive Enqueued (event : EvaluationRow) (db : AlertDb) : AlertDb → Prop where
  | silent (quiet : repository.deliveryEnqueuer = none ∨ event.transition.isLifecycle = false) :
      Enqueued event db db
  | present {row : OutboxRow} (member : row ∈ db.outbox) (tenantId : row.tenantId = event.tenantId)
      (evaluationId : row.evaluationId = event.alertEvaluationId) : Enqueued event db db
  | inserted {enqueuer : WebhookOutboxEnqueuer} {next : AlertDb} {id : Int}
      (enqueues : repository.deliveryEnqueuer = some enqueuer)
      (lifecycle : event.transition.isLifecycle = true)
      (acceptable : (enqueuer.intent platform (rowToEvaluation platform event false)
        request.evaluatedAt).Acceptable)
      (insert : insertOutbox true db ((enqueuer.intent platform
        (rowToEvaluation platform event false) request.evaluatedAt).row id) = .ok (true, next)) :
      Enqueued event db next

/-- What a call that returns has found, and what it has added. -/
inductive Recording (db : AlertDb) : AlertEvaluation → AlertDb → Prop where
  | replayedKey {existing : EvaluationRow} (bound : db.boundEvent? platform request = some existing)
      (same : existing.payloadHash = request.payloadHash platform) :
      Recording db (rowToEvaluation platform existing true) db
  | replayedPayload {duplicate : EvaluationRow} (unbound : db.boundEvent? platform request = none)
      (found : db.payloadEvent? platform request = some duplicate) :
      Recording db (rowToEvaluation platform duplicate true) db
  | inserted {middle next : AlertDb} (unbound : db.boundEvent? platform request = none)
      (unseen : db.payloadEvent? platform request = none)
      (stored : insertEvaluation db (db.newEvent platform request ids) = .ok middle)
      (enqueued : repository.enqueueEvent platform request ids (db.newEvent platform request ids)
        middle = .ok next) :
      Recording db (rowToEvaluation platform (db.newEvent platform request ids) false) next

variable {platform repository request ids} {db next : AlertDb} {evaluation : AlertEvaluation}

theorem enqueued_of_ok {event : EvaluationRow}
    (accepted : repository.enqueueEvent platform request ids event db = .ok next) :
    Enqueued platform repository request event db next := by
  unfold AlertRepository.enqueueEvent at accepted
  split at accepted
  case h_1 absent =>
    obtain rfl := Except.ok.inj accepted
    exact .silent (.inl absent)
  case h_2 enqueuer enqueues =>
    split at accepted
    case isFalse quiet =>
      obtain rfl := Except.ok.inj accepted
      exact .silent (.inr (by simpa using quiet))
    case isTrue lifecycle =>
      obtain ⟨⟨inserted, last⟩, insert, rfl⟩ := map_eq_ok.mp accepted
      obtain ⟨-, rfl, row, member, tenantId, evaluationId⟩ | ⟨id, -, acceptable, insert⟩ :=
        insertIntent_ok insert
      · exact .present member tenantId evaluationId
      · exact .inserted enqueues lifecycle acceptable insert

theorem Enqueued.evaluations {event : EvaluationRow}
    (enqueued : Enqueued platform repository request event db next) :
    next.evaluations = db.evaluations := by
  cases enqueued with
  | silent quiet => rfl
  | present member tenantId evaluationId => rfl
  | inserted enqueues lifecycle acceptable insert =>
      obtain ⟨-, -, -, rfl⟩ := insertOutbox_inserts.mp insert
      rfl

/-- An enqueuer adds intents of its event only. -/
theorem Enqueued.outbox {event : EvaluationRow}
    (enqueued : Enqueued platform repository request event db next) (row : OutboxRow)
    (member : row ∈ next.outbox) :
    row ∈ db.outbox ∨ row.tenantId = event.tenantId ∧
      row.evaluationId = event.alertEvaluationId := by
  cases enqueued with
  | silent quiet => exact .inl member
  | present _ tenantId evaluationId => exact .inl member
  | inserted enqueues lifecycle acceptable insert =>
      obtain ⟨-, -, -, rfl⟩ := insertOutbox_inserts.mp insert
      refine (List.mem_append.mp member).imp_right fun new => ?_
      rw [List.mem_singleton.mp new]
      exact ⟨rfl, rfl⟩

theorem recordAtomically_eq_ok :
    repository.recordAtomically platform request ids db = .ok (evaluation, next) ↔
      request.snapshot.correlation.tenantId = request.principal.tenantId ∧
        Recording platform repository request ids db evaluation next := by
  rw [recordAtomically_eq]
  split
  case isTrue other => exact iff_of_false nofun (fun recorded => other recorded.1)
  case isFalse same =>
    simp only [ne_eq, Decidable.not_not] at same
    refine Iff.trans ?_ (and_iff_right same).symm
    constructor
    · intro accepted
      split at accepted
      case h_1 existing bound =>
        split at accepted
        case isTrue => cases accepted
        case isFalse hash =>
          obtain ⟨rfl, rfl⟩ := Prod.mk.inj (Except.ok.inj accepted)
          exact .replayedKey bound (by simpa using hash)
      case h_2 unbound =>
        split at accepted
        case h_1 duplicate found =>
          obtain ⟨rfl, rfl⟩ := Prod.mk.inj (Except.ok.inj accepted)
          exact .replayedPayload unbound found
        case h_2 unseen =>
          simp only [bind_eq_ok, liftSql_eq_ok] at accepted
          obtain ⟨middle, stored, last, enqueued, done⟩ := accepted
          obtain ⟨rfl, rfl⟩ := Prod.mk.inj (Except.ok.inj done)
          exact .inserted unbound unseen stored enqueued
    · intro recorded
      cases recorded with
      | replayedKey bound hash => simp [bound, hash]
      | replayedPayload unbound found => simp [unbound, found]
      | inserted unbound unseen stored enqueued =>
          simp only [unbound, unseen, bind_eq_ok, liftSql_eq_ok]
          exact ⟨_, stored, _, enqueued, rfl⟩

/-- A key that has an event of another payload is refused. -/
theorem recordAtomically_conflict {existing : EvaluationRow}
    (tenant : request.snapshot.correlation.tenantId = request.principal.tenantId)
    (bound : db.boundEvent? platform request = some existing)
    (other : existing.payloadHash ≠ request.payloadHash platform) :
    repository.recordAtomically platform request ids db = .error alertIdempotencyConflict := by
  rw [recordAtomically_eq, if_neg (by simpa using tenant)]
  simp [bound, other]

end Recording

end StockoutOps.Alerting
