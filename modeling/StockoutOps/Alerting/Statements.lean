import StockoutOps.Alerting.Triggers

/-!
Contract: the INSERT and UPDATE statements of the alert tables.

Owns: one function per statement form, each running the triggers, the CHECK
constraints, the unique keys and the foreign keys in PostgreSQL's order; and
the statements that the grants leave to the `stockoutops_app` role, with their
runs.

Does not own: the repository's choice of statements.

Identity columns are the values the sequence hands out, so an inserted row
carries its id; the primary key rejects a repeated one. An UPDATE is a WHERE
predicate and the new values of the granted columns. Triggers of one table read
the other tables only, so the order of rows inside a statement does not matter.
-/

namespace StockoutOps.Alerting

open StockoutOps.Sql

/-! ## INSERT -/

def insertEvaluation (db : AlertDb) (new : EvaluationRow) : Except SqlError AlertDb := do
  checkAll new.checks
  require (.uniqueViolation "alert_evaluation_event_pkey")
    (∀ row ∈ db.evaluations, row.alertEvaluationId ≠ new.alertEvaluationId)
  require (.uniqueViolation "alert_evaluation_event_tenant_id_alert_fingerprint_idempoten_key")
    (∀ row ∈ db.evaluations, ¬ (row.tenantId = new.tenantId ∧
      row.alertFingerprint = new.alertFingerprint ∧ row.idempotencyKey = new.idempotencyKey))
  require (.uniqueViolation "alert_evaluation_event_tenant_id_alert_fingerprint_payload__key")
    (∀ row ∈ db.evaluations, ¬ (row.tenantId = new.tenantId ∧
      row.alertFingerprint = new.alertFingerprint ∧ row.payloadHash = new.payloadHash))
  .ok { db with evaluations := db.evaluations ++ [new] }

/-- The row `ON CONFLICT (tenant_id, evaluation_id)` would meet. -/
def outboxConflict (db : AlertDb) (new : OutboxRow) : Bool :=
  db.outbox.any (fun row => row.tenantId == new.tenantId && row.evaluationId == new.evaluationId)

/-- INSERT INTO alert_outbox; with `onConflictDoNothing` a row of the same
`(tenant_id, evaluation_id)` makes it a no-op. Returns whether a row was inserted. -/
def insertOutbox (onConflictDoNothing : Bool) (db : AlertDb) (new : OutboxRow) :
    Except SqlError (Bool × AlertDb) := do
  guardAlertOutboxInsert db new
  checkAll new.checks
  if onConflictDoNothing && outboxConflict db new then .ok (false, db)
  else do
    require (.uniqueViolation "alert_outbox_pkey")
      (∀ row ∈ db.outbox, row.outboxId ≠ new.outboxId)
    require (.uniqueViolation "alert_outbox_tenant_id_evaluation_id_key")
      (outboxConflict db new = false)
    require (.uniqueViolation "alert_outbox_tenant_id_idempotency_key_key")
      (∀ row ∈ db.outbox,
        ¬ (row.tenantId = new.tenantId ∧ row.idempotencyKey = new.idempotencyKey))
    .ok (true, { db with outbox := db.outbox ++ [new] })

/-- INSERT INTO alert_delivery_attempt_event; with `onConflictDoNothing` an event
of the same `(outbox_id, attempt_number)` makes it a no-op. -/
def insertAttemptEvent (onConflictDoNothing : Bool) (db : AlertDb) (new : AttemptEventRow) :
    Except SqlError AlertDb := do
  guardAlertDeliveryAttemptEventInsert db new
  checkAll new.checks
  if onConflictDoNothing && (db.attemptEvent? new.outboxId new.attemptNumber).isSome then .ok db
  else do
    require (.uniqueViolation "alert_delivery_attempt_event_pkey")
      (∀ row ∈ db.attemptEvents, row.attemptEventId ≠ new.attemptEventId)
    require (.uniqueViolation "alert_delivery_attempt_event_outbox_id_attempt_number_key")
      (db.attemptEvent? new.outboxId new.attemptNumber = none)
    require (.foreignKeyViolation "alert_delivery_attempt_event_evaluation_id_fkey")
      ((db.evaluation? new.evaluationId).isSome)
    .ok { db with attemptEvents := db.attemptEvents ++ [new] }

/-- INSERT INTO alert_delivery_attempt; with `onConflictDoNothing` a row of the
same `(tenant_id, evaluation_id)` makes it a no-op. -/
def insertLedger (onConflictDoNothing : Bool) (db : AlertDb) (new : LedgerRow) :
    Except SqlError AlertDb := do
  guardAlertDeliveryAttemptInsert db new
  checkAll new.checks
  if onConflictDoNothing && (db.ledgerRow? new.tenantId new.evaluationId).isSome then .ok db
  else do
    require (.uniqueViolation "alert_delivery_attempt_pkey")
      (∀ row ∈ db.ledger, row.deliveryAttemptId ≠ new.deliveryAttemptId)
    require (.uniqueViolation "alert_delivery_attempt_tenant_id_evaluation_id_key")
      (db.ledgerRow? new.tenantId new.evaluationId = none)
    .ok { db with ledger := db.ledger ++ [new] }

/-! ## UPDATE -/

/-- One row of an UPDATE on `alert_outbox`. -/
def updateOutboxRow (db : AlertDb) (old : OutboxRow) (progress : OutboxProgress) :
    Except SqlError OutboxRow := do
  guardAlertOutboxUpdate db old (old.set progress)
  checkAll (old.set progress).checks
  .ok (old.set progress)

/-- UPDATE alert_outbox SET ... WHERE ...; all matching rows or none. -/
def updateOutbox (where_ : OutboxRow → Bool) (set : OutboxRow → OutboxProgress)
    (db : AlertDb) : Except SqlError AlertDb := do
  let rows ← db.outbox.mapM (fun row =>
    if where_ row then updateOutboxRow db row (set row) else .ok row)
  .ok { db with outbox := rows }

/-- One row of an UPDATE on `alert_delivery_attempt`. -/
def updateLedgerRow (old : LedgerRow) (outcome : LedgerOutcome) : Except SqlError LedgerRow := do
  guardAlertDeliveryAttemptUpdate old (old.set outcome)
  checkAll (old.set outcome).checks
  .ok (old.set outcome)

/-- UPDATE alert_delivery_attempt SET ... WHERE ... -/
def updateLedger (where_ : LedgerRow → Bool) (set : LedgerRow → LedgerOutcome)
    (db : AlertDb) : Except SqlError AlertDb := do
  let rows ← db.ledger.mapM (fun row =>
    if where_ row then updateLedgerRow row (set row) else .ok row)
  .ok { db with ledger := rows }

/-! ## What an accepted statement does -/

theorem insertEvaluation_ok {db next : AlertDb} {new : EvaluationRow}
    (accepted : insertEvaluation db new = .ok next) :
    next = { db with evaluations := db.evaluations ++ [new] } ∧
      (∀ row ∈ db.evaluations, row.alertEvaluationId ≠ new.alertEvaluationId) := by
  simp only [insertEvaluation, guard_bind_eq_ok, require_eq_ok, Except.ok.injEq] at accepted
  exact ⟨accepted.2.2.2.2.symm, accepted.2.1⟩

/-- Two rows that no table can hold together. -/
def EvaluationRow.Clashes (left right : EvaluationRow) : Prop :=
  left.alertEvaluationId = right.alertEvaluationId ∨
    (left.tenantId = right.tenantId ∧ left.alertFingerprint = right.alertFingerprint ∧
      (left.idempotencyKey = right.idempotencyKey ∨ left.payloadHash = right.payloadHash))

theorem EvaluationRow.Clashes.symm {left right : EvaluationRow} (clashes : left.Clashes right) :
    right.Clashes left := by
  rcases clashes with id | ⟨tenant, alert, key | payload⟩
  · exact .inl id.symm
  · exact .inr ⟨tenant.symm, alert.symm, .inl key.symm⟩
  · exact .inr ⟨tenant.symm, alert.symm, .inr payload.symm⟩

theorem insertEvaluation_eq_ok {db next : AlertDb} {new : EvaluationRow} :
    insertEvaluation db new = .ok next ↔
      checkAll new.checks = .ok () ∧ (∀ row ∈ db.evaluations, ¬ row.Clashes new) ∧
        { db with evaluations := db.evaluations ++ [new] } = next := by
  simp only [insertEvaluation, guard_bind_eq_ok, require_eq_ok, Except.ok.injEq,
    EvaluationRow.Clashes]
  refine and_congr_right fun _ => ?_
  rw [← and_assoc, ← and_assoc]
  refine and_congr_left fun _ => ?_
  constructor
  · rintro ⟨⟨ids, keys⟩, payloads⟩ row member (sameId | ⟨tenant, alert, key | payload⟩)
    · exact ids row member sameId
    · exact keys row member ⟨tenant, alert, key⟩
    · exact payloads row member ⟨tenant, alert, payload⟩
  · intro apart
    refine ⟨⟨fun row member sameId => ?_, fun row member same => ?_⟩, fun row member same => ?_⟩
    · exact apart row member (.inl sameId)
    · exact apart row member (.inr ⟨same.1, same.2.1, .inl same.2.2⟩)
    · exact apart row member (.inr ⟨same.1, same.2.1, .inr same.2.2⟩)

/-- Everything a new outbox row satisfies. -/
structure OutboxInsert (db : AlertDb) (new : OutboxRow) : Prop where
  guard : guardAlertOutboxInsert db new = .ok ()
  checks : checkAll new.checks = .ok ()
  freshId : ∀ row ∈ db.outbox, row.outboxId ≠ new.outboxId
  freshEvaluation : outboxConflict db new = false

theorem insertOutbox_ok {onConflictDoNothing inserted : Bool} {db next : AlertDb}
    {new : OutboxRow} (accepted : insertOutbox onConflictDoNothing db new = .ok (inserted, next)) :
    (inserted = false ∧ next = db) ∨
      (inserted = true ∧ next = { db with outbox := db.outbox ++ [new] } ∧
        OutboxInsert db new) := by
  simp only [insertOutbox, guard_bind_eq_ok] at accepted
  obtain ⟨guard, checks, accepted⟩ := accepted
  split at accepted
  · simp only [Except.ok.injEq, Prod.mk.injEq] at accepted
    exact .inl ⟨accepted.1.symm, accepted.2.symm⟩
  · simp only [guard_bind_eq_ok, require_eq_ok, Except.ok.injEq, Prod.mk.injEq] at accepted
    obtain ⟨freshId, freshEvaluation, -, flag, rows⟩ := accepted
    exact .inr ⟨flag.symm, rows.symm, guard, checks, freshId, freshEvaluation⟩

def OutboxRow.Clashes (left right : OutboxRow) : Prop :=
  left.outboxId = right.outboxId ∨
    (left.tenantId = right.tenantId ∧
      (left.evaluationId = right.evaluationId ∨ left.idempotencyKey = right.idempotencyKey))

theorem OutboxRow.Clashes.symm {left right : OutboxRow} (clashes : left.Clashes right) :
    right.Clashes left := by
  rcases clashes with id | ⟨tenant, evaluation | key⟩
  · exact .inl id.symm
  · exact .inr ⟨tenant.symm, .inl evaluation.symm⟩
  · exact .inr ⟨tenant.symm, .inr key.symm⟩

/-- An intent that clashes with no row is inserted when it passes its guards. -/
theorem insertOutbox_inserts {onConflictDoNothing : Bool} {db next : AlertDb} {new : OutboxRow} :
    insertOutbox onConflictDoNothing db new = .ok (true, next) ↔
      guardAlertOutboxInsert db new = .ok () ∧ checkAll new.checks = .ok () ∧
        (∀ row ∈ db.outbox, ¬ row.Clashes new) ∧
        { db with outbox := db.outbox ++ [new] } = next := by
  simp only [insertOutbox, guard_bind_eq_ok]
  refine and_congr_right fun _ => and_congr_right fun _ => ?_
  have conflict : outboxConflict db new = false ↔
      ∀ row ∈ db.outbox, ¬ (row.tenantId = new.tenantId ∧ row.evaluationId = new.evaluationId) := by
    simp [outboxConflict]
  split
  case isTrue met =>
    simp only [Bool.and_eq_true] at met
    refine iff_of_false (by simp) (fun accepted => ?_)
    have apart := conflict.mpr fun row member same =>
      accepted.1 row member (.inr ⟨same.1, .inl same.2⟩)
    rw [met.2] at apart
    cases apart
  case isFalse =>
    simp only [guard_bind_eq_ok, require_eq_ok, conflict, Except.ok.injEq, Prod.mk.injEq,
      true_and, OutboxRow.Clashes]
    constructor
    · rintro ⟨ids, evaluations, keys, rows⟩
      refine ⟨?_, rows⟩
      rintro row member (sameId | ⟨tenant, evaluation | key⟩)
      · exact ids row member sameId
      · exact evaluations row member ⟨tenant, evaluation⟩
      · exact keys row member ⟨tenant, key⟩
    · rintro ⟨apart, rows⟩
      refine ⟨fun row member sameId => ?_, fun row member same => ?_, fun row member same => ?_,
        rows⟩
      · exact apart row member (.inl sameId)
      · exact apart row member (.inr ⟨same.1, .inl same.2⟩)
      · exact apart row member (.inr ⟨same.1, .inr same.2⟩)

theorem insertAttemptEvent_ok {onConflictDoNothing : Bool} {db next : AlertDb}
    {new : AttemptEventRow}
    (accepted : insertAttemptEvent onConflictDoNothing db new = .ok next) :
    guardAlertDeliveryAttemptEventInsert db new = .ok () ∧ checkAll new.checks = .ok () ∧
      ((next = db ∧ (db.attemptEvent? new.outboxId new.attemptNumber).isSome) ∨
        (next = { db with attemptEvents := db.attemptEvents ++ [new] } ∧
          db.attemptEvent? new.outboxId new.attemptNumber = none)) := by
  simp only [insertAttemptEvent, guard_bind_eq_ok] at accepted
  obtain ⟨guard, checks, accepted⟩ := accepted
  refine ⟨guard, checks, ?_⟩
  split at accepted
  case isTrue conflict =>
    simp only [Bool.and_eq_true] at conflict
    exact .inl ⟨(Except.ok.inj accepted).symm, conflict.2⟩
  case isFalse =>
    simp only [guard_bind_eq_ok, require_eq_ok, Except.ok.injEq] at accepted
    exact .inr ⟨accepted.2.2.2.symm, accepted.2.1⟩

/-- The first event of an attempt is stored when it passes its guards. -/
theorem insertAttemptEvent_eq_ok {onConflictDoNothing : Bool} {db : AlertDb}
    {new : AttemptEventRow} (guard : guardAlertDeliveryAttemptEventInsert db new = .ok ())
    (checks : checkAll new.checks = .ok ())
    (first : db.attemptEvent? new.outboxId new.attemptNumber = none)
    (freshId : ∀ row ∈ db.attemptEvents, row.attemptEventId ≠ new.attemptEventId)
    (evaluation : (db.evaluation? new.evaluationId).isSome) :
    insertAttemptEvent onConflictDoNothing db new =
      .ok { db with attemptEvents := db.attemptEvents ++ [new] } := by
  simp only [insertAttemptEvent, guard_bind_eq_ok]
  refine ⟨guard, checks, ?_⟩
  rw [if_neg (by simp [first])]
  simp only [guard_bind_eq_ok, require_eq_ok]
  exact ⟨freshId, first, evaluation, trivial⟩

/-- A ledger INSERT that passes its guards adds the first row of its evaluation,
or meets the one that is there. -/
theorem insertLedger_eq_ok {db : AlertDb} {new : LedgerRow}
    (guard : guardAlertDeliveryAttemptInsert db new = .ok ())
    (checks : checkAll new.checks = .ok ())
    (freshId : ∀ row ∈ db.ledger, row.deliveryAttemptId ≠ new.deliveryAttemptId) :
    insertLedger true db new =
      .ok (if (db.ledgerRow? new.tenantId new.evaluationId).isSome then db
        else { db with ledger := db.ledger ++ [new] }) := by
  simp only [insertLedger, guard_bind_eq_ok]
  refine ⟨guard, checks, ?_⟩
  by_cases present : (db.ledgerRow? new.tenantId new.evaluationId).isSome = true
  · simp [present]
  · rw [if_neg (by simpa using present), if_neg present]
    simp only [guard_bind_eq_ok, require_eq_ok]
    exact ⟨freshId, by simpa using present, trivial⟩

theorem insertLedger_ok {onConflictDoNothing : Bool} {db next : AlertDb} {new : LedgerRow}
    (accepted : insertLedger onConflictDoNothing db new = .ok next) :
    (next = db ∧ (db.ledgerRow? new.tenantId new.evaluationId).isSome) ∨
      (next = { db with ledger := db.ledger ++ [new] } ∧
        db.ledgerRow? new.tenantId new.evaluationId = none) := by
  simp only [insertLedger, guard_bind_eq_ok] at accepted
  obtain ⟨-, -, accepted⟩ := accepted
  split at accepted
  case isTrue conflict =>
    simp only [Bool.and_eq_true] at conflict
    exact .inl ⟨(Except.ok.inj accepted).symm, conflict.2⟩
  case isFalse =>
    simp only [guard_bind_eq_ok, require_eq_ok, Except.ok.injEq] at accepted
    exact .inr ⟨accepted.2.2.symm, accepted.2.1⟩

/-- A row that an UPDATE of `alert_outbox` rewrote. -/
structure OutboxRowUpdate (db : AlertDb) (old new : OutboxRow) : Prop where
  identity : new.toOutboxIdentity = old.toOutboxIdentity
  redrives : old.redriveCount ≤ new.redriveCount
  move : OutboxMove db old new
  checks : ∀ check ∈ new.checks, check.2 = true

theorem updateOutboxRow_ok {db : AlertDb} {old new : OutboxRow} {progress : OutboxProgress}
    (accepted : updateOutboxRow db old progress = .ok new) :
    new = old.set progress ∧ OutboxRowUpdate db old new := by
  simp only [updateOutboxRow, guard_bind_eq_ok, Except.ok.injEq] at accepted
  obtain ⟨guard, checks, rfl⟩ := accepted
  obtain ⟨identity, redrives, move⟩ := outboxMove_of_guard guard
  exact ⟨rfl, identity, redrives, move, checkAll_eq_ok.mp checks⟩

theorem updateOutbox_ok {where_ : OutboxRow → Bool} {set : OutboxRow → OutboxProgress}
    {db next : AlertDb} (accepted : updateOutbox where_ set db = .ok next) :
    ∃ rows, next = { db with outbox := rows } ∧
      List.Forall₂ (fun old new =>
        (where_ old = false ∧ new = old) ∨
        (where_ old = true ∧ new = old.set (set old) ∧ OutboxRowUpdate db old new))
        db.outbox rows := by
  simp only [updateOutbox, bind_eq_ok, Except.ok.injEq] at accepted
  obtain ⟨rows, updated, rfl⟩ := accepted
  refine ⟨rows, rfl, List.Forall₂.imp ?_ (mapM_eq_ok.mp updated)⟩
  intro old new rowUpdated
  cases selected : where_ old with
  | false => exact .inl ⟨rfl, by simpa [selected, eq_comm] using rowUpdated⟩
  | true =>
      rw [selected, if_pos rfl] at rowUpdated
      exact .inr ⟨rfl, updateOutboxRow_ok rowUpdated⟩

/-- An UPDATE of `alert_outbox` rewrites the selected rows, and is accepted when
each of them passes the trigger and the constraints. -/
theorem updateOutbox_eq_ok {where_ : OutboxRow → Bool} {set : OutboxRow → OutboxProgress}
    {db next : AlertDb} :
    updateOutbox where_ set db = .ok next ↔
      next = { db with
        outbox := db.outbox.map (fun row => if where_ row then row.set (set row) else row) } ∧
      ∀ row ∈ db.outbox, where_ row = true →
        guardAlertOutboxUpdate db row (row.set (set row)) = .ok () ∧
          checkAll (row.set (set row)).checks = .ok () := by
  have functional : ∀ row value,
      (if where_ row then updateOutboxRow db row (set row) else .ok row) = .ok value →
      value = if where_ row then row.set (set row) else row := by
    intro row value accepted
    split at accepted
    case isTrue selected =>
      rw [if_pos selected]
      exact (updateOutboxRow_ok accepted).1
    case isFalse other =>
      rw [if_neg other]
      exact (Except.ok.inj accepted).symm
  simp only [updateOutbox, bind_eq_ok, mapM_eq_ok_map functional, Except.ok.injEq]
  constructor
  · rintro ⟨rows, ⟨rfl, accepted⟩, rfl⟩
    refine ⟨rfl, fun row member selected => ?_⟩
    have rowAccepted := accepted row member
    rw [if_pos selected, if_pos selected] at rowAccepted
    simpa [updateOutboxRow] using rowAccepted
  · rintro ⟨rfl, accepted⟩
    refine ⟨_, ⟨rfl, fun row member => ?_⟩, rfl⟩
    cases selected : where_ row with
    | false => simp
    | true => simpa [updateOutboxRow] using accepted row member selected

/-- A ledger row after an UPDATE: untouched, or completed out of CLAIMED. -/
theorem updateLedger_ok {where_ : LedgerRow → Bool} {set : LedgerRow → LedgerOutcome}
    {db next : AlertDb} (accepted : updateLedger where_ set db = .ok next) :
    ∃ rows, next = { db with ledger := rows } ∧
      List.Forall₂ (fun old new =>
        (where_ old = false ∧ new = old) ∨
        (where_ old = true ∧ new = old.set (set old) ∧ old.status = .claimed ∧
          new.status ≠ .claimed)) db.ledger rows := by
  simp only [updateLedger, bind_eq_ok, Except.ok.injEq] at accepted
  obtain ⟨rows, updated, rfl⟩ := accepted
  refine ⟨rows, rfl, List.Forall₂.imp ?_ (mapM_eq_ok.mp updated)⟩
  intro old new rowUpdated
  cases selected : where_ old with
  | false => exact .inl ⟨rfl, by simpa [selected, eq_comm] using rowUpdated⟩
  | true =>
      rw [selected, if_pos rfl] at rowUpdated
      simp only [updateLedgerRow, guardAlertDeliveryAttemptUpdate, guard_bind_eq_ok,
        raiseIf_eq_ok, Except.ok.injEq] at rowUpdated
      obtain ⟨⟨-, statuses, -⟩, -, rfl⟩ := rowUpdated
      refine .inr ⟨rfl, rfl, Classical.byContradiction fun other => statuses (.inl other), ?_⟩
      intro claimed
      exact statuses (.inr ⟨by rw [claimed]; decide, by rw [claimed]; decide⟩)

/-- An UPDATE of `alert_delivery_attempt`, row by row as for the outbox. -/
theorem updateLedger_eq_ok {where_ : LedgerRow → Bool} {set : LedgerRow → LedgerOutcome}
    {db next : AlertDb} :
    updateLedger where_ set db = .ok next ↔
      next = { db with
        ledger := db.ledger.map (fun row => if where_ row then row.set (set row) else row) } ∧
      ∀ row ∈ db.ledger, where_ row = true →
        guardAlertDeliveryAttemptUpdate row (row.set (set row)) = .ok () ∧
          checkAll (row.set (set row)).checks = .ok () := by
  have functional : ∀ row value,
      (if where_ row then updateLedgerRow row (set row) else .ok row) = .ok value →
      value = if where_ row then row.set (set row) else row := by
    intro row value accepted
    split at accepted
    case isTrue selected =>
      rw [if_pos selected]
      simp only [updateLedgerRow, guard_bind_eq_ok, Except.ok.injEq] at accepted
      exact accepted.2.2.symm
    case isFalse other =>
      rw [if_neg other]
      exact (Except.ok.inj accepted).symm
  simp only [updateLedger, bind_eq_ok, mapM_eq_ok_map functional, Except.ok.injEq]
  constructor
  · rintro ⟨rows, ⟨rfl, accepted⟩, rfl⟩
    refine ⟨rfl, fun row member selected => ?_⟩
    have rowAccepted := accepted row member
    rw [if_pos selected, if_pos selected] at rowAccepted
    simpa [updateLedgerRow] using rowAccepted
  · rintro ⟨rfl, accepted⟩
    refine ⟨_, ⟨rfl, fun row member => ?_⟩, rfl⟩
    cases selected : where_ row with
    | false => simp
    | true => simpa [updateLedgerRow] using accepted row member selected

/-! ## What `stockoutops_app` may issue -/

inductive AppStatement where
  | insertEvaluation (rows : List EvaluationRow)
  | insertOutbox (onConflictDoNothing : Bool) (rows : List OutboxRow)
  | insertAttemptEvent (onConflictDoNothing : Bool) (rows : List AttemptEventRow)
  | insertLedger (onConflictDoNothing : Bool) (rows : List LedgerRow)
  | updateOutbox (where_ : OutboxRow → Bool) (set : OutboxRow → OutboxProgress)
  | updateLedger (where_ : LedgerRow → Bool) (set : LedgerRow → LedgerOutcome)

def AppStatement.execute (db : AlertDb) : AppStatement → Except SqlError AlertDb
  | .insertEvaluation rows => rows.foldlM Alerting.insertEvaluation db
  | .insertOutbox onConflictDoNothing rows =>
      rows.foldlM (fun db row => Prod.snd <$> Alerting.insertOutbox onConflictDoNothing db row) db
  | .insertAttemptEvent onConflictDoNothing rows =>
      rows.foldlM (Alerting.insertAttemptEvent onConflictDoNothing) db
  | .insertLedger onConflictDoNothing rows =>
      rows.foldlM (Alerting.insertLedger onConflictDoNothing) db
  | .updateOutbox where_ set => Alerting.updateOutbox where_ set db
  | .updateLedger where_ set => Alerting.updateLedger where_ set db

/-- A rejected statement leaves the tables as they were. -/
def AppStatement.apply (db : AlertDb) (statement : AppStatement) : AlertDb :=
  match statement.execute db with
  | .ok next => next
  | .error _ => db

/-- The tables after a finite sequence of statements. -/
def runStatements (db : AlertDb) (statements : List AppStatement) : AlertDb :=
  statements.foldl AppStatement.apply db

end StockoutOps.Alerting
