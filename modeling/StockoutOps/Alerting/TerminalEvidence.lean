import Mathlib.Data.List.Nodup
import StockoutOps.Alerting.Statements

/-!
Contract: what the database alone guarantees about terminal outbox rows.

Owns: the evidence a DELIVERED or DEAD_LETTER row carries in every state the
`stockoutops_app` role can reach by raw statements, and the finality of
DELIVERED.

The invariant is local to a row. Attempt events and terminal ledger rows are
never changed or removed, so evidence found when a row became terminal stays;
the triggers are what puts it there.
-/

namespace StockoutOps.Alerting

open StockoutOps.Sql

/-- The attempt event of the row's current number, with the row's identity. -/
structure AttemptEvidence (db : AlertDb) (row : OutboxRow) (attempt : AttemptEventRow) :
    Prop where
  recorded : attempt ∈ db.attemptEvents
  outboxId : attempt.outboxId = row.outboxId
  attemptNumber : attempt.attemptNumber = row.attemptCount
  tenantId : attempt.tenantId = row.tenantId
  evaluationId : attempt.evaluationId = row.evaluationId
  idempotencyKey : attempt.idempotencyKey = row.idempotencyKey

/-- A terminal ledger row for the outbox row's tenant and evaluation. -/
structure LedgerEvidence (db : AlertDb) (row : OutboxRow) (ledger : LedgerRow) : Prop where
  recorded : ledger ∈ db.ledger
  tenantId : ledger.tenantId = row.tenantId
  evaluationId : ledger.evaluationId = row.evaluationId
  terminal : ledger.status ≠ .claimed
  alertFingerprint : ledger.alertFingerprint = row.alertFingerprint
  transition : ledger.transition = row.transition
  destinationHost : ledger.destinationHost = row.destinationHost
  payloadHash : ledger.payloadHash = row.payloadHash

/-- A terminal state of an outbox row cannot be forged. -/
structure TerminalEvidence (db : AlertDb) (row : OutboxRow) : Prop where
  delivered : row.state = .delivered → ∃ attempt, AttemptEvidence db row attempt ∧
    attempt.outcome = .delivered ∧
    ∃ status, 200 ≤ status ∧ status ≤ 299 ∧ attempt.httpStatus = some status ∧
      row.lastHttpStatus = some status
  deadLetter : row.state = .deadLetter → ∃ attempt, AttemptEvidence db row attempt ∧
    attempt.outcome ≠ .delivered ∧ attempt.errorClass = row.lastErrorClass
  ledger : row.state = .delivered ∨ row.state = .deadLetter →
    ∃ ledger, LedgerEvidence db row ledger

/-- What the guards maintain: ids are unique, every event belongs to an outbox
row of the same identity, and terminal rows carry their evidence. -/
structure EvidenceInvariant (db : AlertDb) : Prop where
  uniqueIds : (db.outbox.map (·.outboxId)).Nodup
  rowChecks : ∀ row ∈ db.outbox, ∀ check ∈ row.checks, check.2 = true
  eventOwner : ∀ attempt ∈ db.attemptEvents, ∃ row ∈ db.outbox,
    row.outboxId = attempt.outboxId ∧ attempt.tenantId = row.tenantId ∧
      attempt.evaluationId = row.evaluationId ∧ attempt.idempotencyKey = row.idempotencyKey
  eventChecks : ∀ attempt ∈ db.attemptEvents, ∀ check ∈ attempt.checks, check.2 = true
  terminal : ∀ row ∈ db.outbox, TerminalEvidence db row

theorem evidenceInvariant_empty : EvidenceInvariant AlertDb.empty := by
  constructor <;> simp [AlertDb.empty]

/-! ## Evidence only accumulates -/

theorem TerminalEvidence.mono {db next : AlertDb} {row : OutboxRow}
    (evidence : TerminalEvidence db row)
    (events : ∀ attempt ∈ db.attemptEvents, attempt ∈ next.attemptEvents)
    (ledgers : ∀ ledger ∈ db.ledger, ledger.status ≠ .claimed → ledger ∈ next.ledger) :
    TerminalEvidence next row where
  delivered state := by
    obtain ⟨attempt, found, rest⟩ := evidence.delivered state
    exact ⟨attempt, { found with recorded := events attempt found.recorded }, rest⟩
  deadLetter state := by
    obtain ⟨attempt, found, rest⟩ := evidence.deadLetter state
    exact ⟨attempt, { found with recorded := events attempt found.recorded }, rest⟩
  ledger state := by
    obtain ⟨ledger, found⟩ := evidence.ledger state
    exact ⟨ledger, { found with recorded := ledgers ledger found.recorded found.terminal }⟩

/-- A DELIVERED attempt event passes its CHECK only with a 2xx status. -/
theorem success_status_of_checks {attempt : AttemptEventRow}
    (checks : ∀ check ∈ attempt.checks, check.2 = true) (outcome : attempt.outcome = .delivered) :
    ∃ status, 200 ≤ status ∧ status ≤ 299 ∧ attempt.httpStatus = some status := by
  have outcomeCheck := checks _ (List.getElem_mem (by decide : 6 < 7))
  simp only [AttemptEventRow.checks, List.getElem_cons_succ, List.getElem_cons_zero, outcome,
    true_and, reduceCtorEq, false_and, or_false, decide_eq_true_eq, Option.any_eq_true]
    at outcomeCheck
  obtain ⟨⟨status, found, success⟩, -⟩ := outcomeCheck
  simp only [isSuccessStatus, Bool.and_eq_true, decide_eq_true_eq] at success
  exact ⟨status, success.1, success.2, found⟩

theorem redriveCount_nonneg {row : OutboxRow} (checks : ∀ check ∈ row.checks, check.2 = true) :
    0 ≤ row.redriveCount := by
  have redriveCheck := checks _ (List.getElem_mem (by decide : 8 < 16))
  simp only [OutboxRow.checks, List.getElem_cons_succ, List.getElem_cons_zero,
    decide_eq_true_eq] at redriveCheck
  exact redriveCheck.1

/-! ## The update of an outbox row -/

section RowUpdate

variable {db : AlertDb} {old new : OutboxRow}

/-- A row selected by id is the only row of that id. -/
theorem eq_of_outboxId_eq {rows : List OutboxRow} (unique : (rows.map (·.outboxId)).Nodup)
    {left right : OutboxRow} (leftMember : left ∈ rows) (rightMember : right ∈ rows)
    (same : left.outboxId = right.outboxId) : left = right :=
  List.inj_on_of_nodup_map unique leftMember rightMember same

/-- The event the trigger selects carries the identity of the row it reads. -/
theorem attemptEvidence_of_selected (invariant : EvidenceInvariant db) (member : old ∈ db.outbox)
    (identity : new.toOutboxIdentity = old.toOutboxIdentity)
    (number : new.attemptCount = old.attemptCount) {attempt : AttemptEventRow}
    (found : db.attemptEvent? old.outboxId old.attemptCount = some attempt) :
    AttemptEvidence db new attempt := by
  have recorded : attempt ∈ db.attemptEvents := List.mem_of_find?_eq_some found
  have selected := List.find?_some found
  simp only [Bool.and_eq_true, beq_iff_eq] at selected
  obtain ⟨owner, ownerMember, ownerId, tenant, evaluation, key⟩ :=
    invariant.eventOwner attempt recorded
  have same : owner = old :=
    eq_of_outboxId_eq invariant.uniqueIds ownerMember member (ownerId.trans selected.1)
  subst same
  exact ⟨recorded, by rw [selected.1, identity], by rw [selected.2, number],
    by rw [tenant, identity], by rw [evaluation, identity], by rw [key, identity]⟩

/-- The ledger row the trigger selects is terminal and has the row's identity. -/
theorem ledgerEvidence_of_selected (identity : new.toOutboxIdentity = old.toOutboxIdentity)
    (redrives : 0 ≤ old.redriveCount) {ledger : LedgerRow}
    (found : db.ledgerRow? old.tenantId old.evaluationId = some ledger)
    (guard : guardOutcomeLedger ledger old new = .ok ()) : LedgerEvidence db new ledger := by
  have selected := List.find?_some found
  simp only [Bool.and_eq_true, beq_iff_eq] at selected
  obtain ⟨⟨fingerprint, transition, host, payload⟩, first, redriven⟩ :=
    guardOutcomeLedger_eq_ok.mp guard
  have terminal : ledger.status ≠ .claimed := by
    rcases (by omega : old.redriveCount = 0 ∨ 0 < old.redriveCount) with zero | positive
    · rw [(first zero).1]
      split <;> decide
    · rw [redriven positive]
      decide
  exact ⟨List.mem_of_find?_eq_some found, by rw [selected.1, identity],
    by rw [selected.2, identity], terminal, by rw [fingerprint, identity],
    by rw [transition, identity], by rw [host, identity], by rw [payload, identity]⟩

/-- A row that an accepted update makes terminal has its evidence. -/
theorem terminalEvidence_of_update (invariant : EvidenceInvariant db) (member : old ∈ db.outbox)
    (update : OutboxRowUpdate db old new) : TerminalEvidence db new := by
  have redrives : 0 ≤ old.redriveCount := redriveCount_nonneg (invariant.rowChecks old member)
  cases update.move with
  | lease _ target =>
      constructor <;> simp [target]
  | takeover _ target =>
      constructor <;> simp [target]
  | redrive _ target =>
      constructor <;> simp [target]
  | outcome source target number evidence =>
      obtain ⟨attempt, found, guard⟩ := evidence.attempt
      have attemptEvidence :=
        attemptEvidence_of_selected invariant member update.identity number found
      obtain ⟨⟨-, status, error, -⟩, delivered, -, deadLetter⟩ :=
        guardOutcomeEvidence_eq_ok.mp guard
      refine ⟨fun state => ?_, fun state => ?_, fun state => ?_⟩
      · have outcome := delivered state
        obtain ⟨code, low, high, found⟩ := success_status_of_checks
          (invariant.eventChecks attempt attemptEvidence.recorded) outcome
        exact ⟨attempt, attemptEvidence, outcome, code, low, high, found, status ▸ found⟩
      · exact ⟨attempt, attemptEvidence, (deadLetter state).1, error⟩
      · obtain ⟨ledger, ledgerFound, ledgerGuard⟩ := evidence.ledger state
        exact ⟨ledger, ledgerEvidence_of_selected update.identity redrives ledgerFound ledgerGuard⟩

end RowUpdate

/-! ## Every statement keeps the invariant -/

section Statements

variable {db next : AlertDb}

theorem evidenceInvariant_insertEvaluation {new : EvaluationRow}
    (invariant : EvidenceInvariant db) (accepted : insertEvaluation db new = .ok next) :
    EvidenceInvariant next := by
  obtain ⟨rfl, -⟩ := insertEvaluation_ok accepted
  exact ⟨invariant.uniqueIds, invariant.rowChecks, invariant.eventOwner, invariant.eventChecks,
    fun row member => (invariant.terminal row member).mono (fun _ => id) (fun _ found _ => found)⟩

theorem evidenceInvariant_insertOutbox {onConflictDoNothing inserted : Bool} {new : OutboxRow}
    (invariant : EvidenceInvariant db)
    (accepted : insertOutbox onConflictDoNothing db new = .ok (inserted, next)) :
    EvidenceInvariant next := by
  obtain ⟨-, rfl⟩ | ⟨-, rfl, insert⟩ := insertOutbox_ok accepted
  · exact invariant
  have pending : new.state = .pending := by
    have guard := insert.guard
    simp only [guardAlertOutboxInsert, guard_bind_eq_ok, raiseIf_eq_ok] at guard
    exact Classical.byContradiction fun other => guard.1 (.inl other)
  refine ⟨?_, ?_, ?_, invariant.eventChecks, ?_⟩
  · rw [List.map_append, List.nodup_append]
    refine ⟨invariant.uniqueIds, by simp, ?_⟩
    intro id old fresh new'
    obtain ⟨row, member, rfl⟩ := List.mem_map.mp old
    simp only [List.map_cons, List.map_nil, List.mem_singleton] at new'
    exact new' ▸ insert.freshId row member
  · intro row member
    rcases List.mem_append.mp member with old | fresh
    · exact invariant.rowChecks row old
    · rw [List.mem_singleton.mp fresh]
      exact checkAll_eq_ok.mp insert.checks
  · intro attempt recorded
    obtain ⟨row, member, identity⟩ := invariant.eventOwner attempt recorded
    exact ⟨row, List.mem_append_left _ member, identity⟩
  · intro row member
    rcases List.mem_append.mp member with old | fresh
    · exact (invariant.terminal row old).mono (fun _ => id) (fun _ found _ => found)
    · rw [List.mem_singleton.mp fresh]
      constructor <;> simp [pending]

theorem evidenceInvariant_insertAttemptEvent {onConflictDoNothing : Bool} {new : AttemptEventRow}
    (invariant : EvidenceInvariant db)
    (accepted : insertAttemptEvent onConflictDoNothing db new = .ok next) :
    EvidenceInvariant next := by
  obtain ⟨guard, checks, ⟨rfl, -⟩ | ⟨rfl, -⟩⟩ := insertAttemptEvent_ok accepted
  · exact invariant
  refine ⟨invariant.uniqueIds, invariant.rowChecks, ?_, ?_, ?_⟩
  · intro attempt recorded
    rcases List.mem_append.mp recorded with old | fresh
    · exact invariant.eventOwner attempt old
    · rw [List.mem_singleton.mp fresh]
      simp only [guardAlertDeliveryAttemptEventInsert] at guard
      split at guard
      case h_1 => cases guard
      case h_2 row found =>
        simp only [guard_bind_eq_ok, raiseIf_eq_ok, not_or, not_not] at guard
        exact ⟨row, List.mem_of_find?_eq_some found, by simpa using List.find?_some found,
          guard.1⟩
  · intro attempt recorded
    rcases List.mem_append.mp recorded with old | fresh
    · exact invariant.eventChecks attempt old
    · rw [List.mem_singleton.mp fresh]
      exact checkAll_eq_ok.mp checks
  · intro row member
    exact (invariant.terminal row member).mono (fun _ => List.mem_append_left _)
      (fun _ found _ => found)

theorem evidenceInvariant_insertLedger {onConflictDoNothing : Bool} {new : LedgerRow}
    (invariant : EvidenceInvariant db)
    (accepted : insertLedger onConflictDoNothing db new = .ok next) :
    EvidenceInvariant next := by
  obtain ⟨rfl, -⟩ | ⟨rfl, -⟩ := insertLedger_ok accepted
  · exact invariant
  · exact ⟨invariant.uniqueIds, invariant.rowChecks, invariant.eventOwner,
      invariant.eventChecks, fun row member => (invariant.terminal row member).mono
        (fun _ => id) (fun _ found _ => List.mem_append_left _ found)⟩

theorem evidenceInvariant_updateOutbox {where_ : OutboxRow → Bool}
    {set : OutboxRow → OutboxProgress} (invariant : EvidenceInvariant db)
    (accepted : updateOutbox where_ set db = .ok next) : EvidenceInvariant next := by
  obtain ⟨rows, rfl, updated⟩ := updateOutbox_ok accepted
  have identity : ∀ old new : OutboxRow, ((where_ old = false ∧ new = old) ∨
      (where_ old = true ∧ new = old.set (set old) ∧ OutboxRowUpdate db old new)) →
      new.toOutboxIdentity = old.toOutboxIdentity := by
    rintro old new (⟨-, rfl⟩ | ⟨-, -, update⟩)
    · rfl
    · exact update.identity
  refine ⟨?_, ?_, ?_, invariant.eventChecks, ?_⟩
  · rw [map_eq_of_forall₂ (fun old new update => by rw [identity old new update]) updated]
    exact invariant.uniqueIds
  · intro row member
    obtain ⟨old, oldMember, ⟨-, rfl⟩ | ⟨-, -, update⟩⟩ := exists_old_of_mem updated member
    · exact invariant.rowChecks row oldMember
    · exact update.checks
  · intro attempt recorded
    obtain ⟨old, oldMember, owner⟩ := invariant.eventOwner attempt recorded
    obtain ⟨row, member, update⟩ := exists_new_of_mem updated oldMember
    refine ⟨row, member, ?_⟩
    rw [identity old row update]
    exact owner
  · intro row member
    have kept : TerminalEvidence db row := by
      obtain ⟨old, oldMember, ⟨-, rfl⟩ | ⟨-, -, update⟩⟩ := exists_old_of_mem updated member
      · exact invariant.terminal row oldMember
      · exact terminalEvidence_of_update invariant oldMember update
    exact kept.mono (fun _ => id) (fun _ found _ => found)

theorem evidenceInvariant_updateLedger {where_ : LedgerRow → Bool}
    {set : LedgerRow → LedgerOutcome} (invariant : EvidenceInvariant db)
    (accepted : updateLedger where_ set db = .ok next) : EvidenceInvariant next := by
  obtain ⟨rows, rfl, updated⟩ := updateLedger_ok accepted
  refine ⟨invariant.uniqueIds, invariant.rowChecks, invariant.eventOwner,
    invariant.eventChecks, fun row member => ?_⟩
  refine (invariant.terminal row member).mono (fun _ => id) (fun ledger found terminal => ?_)
  -- A terminal ledger row is not among the rows the statement rewrote.
  obtain ⟨new, newMember, ⟨-, rfl⟩ | ⟨-, -, claimed, -⟩⟩ := exists_new_of_mem updated found
  · exact newMember
  · exact absurd claimed terminal

end Statements

theorem evidenceInvariant_execute {db next : AlertDb} {statement : AppStatement}
    (invariant : EvidenceInvariant db) (accepted : statement.execute db = .ok next) :
    EvidenceInvariant next := by
  cases statement with
  | insertEvaluation rows =>
      exact foldlM_preserves _ (fun _ _ _ => evidenceInvariant_insertEvaluation) invariant accepted
  | insertOutbox onConflictDoNothing rows =>
      refine foldlM_preserves _ (fun state row next holds inserted => ?_) invariant accepted
      cases result : insertOutbox onConflictDoNothing state row with
      | error error => simp [result] at inserted
      | ok value =>
          simp only [result, Except.map_ok, Except.ok.injEq] at inserted
          exact inserted ▸ evidenceInvariant_insertOutbox holds result
  | insertAttemptEvent onConflictDoNothing rows =>
      exact foldlM_preserves _ (fun _ _ _ => evidenceInvariant_insertAttemptEvent) invariant
        accepted
  | insertLedger onConflictDoNothing rows =>
      exact foldlM_preserves _ (fun _ _ _ => evidenceInvariant_insertLedger) invariant accepted
  | updateOutbox where_ set => exact evidenceInvariant_updateOutbox invariant accepted
  | updateLedger where_ set => exact evidenceInvariant_updateLedger invariant accepted

theorem evidenceInvariant_apply {db : AlertDb} (statement : AppStatement)
    (invariant : EvidenceInvariant db) : EvidenceInvariant (statement.apply db) := by
  unfold AppStatement.apply
  split
  case h_1 next accepted => exact evidenceInvariant_execute invariant accepted
  case h_2 => exact invariant

theorem evidenceInvariant_run {db : AlertDb} (statements : List AppStatement)
    (invariant : EvidenceInvariant db) : EvidenceInvariant (runStatements db statements) := by
  induction statements generalizing db with
  | nil => exact invariant
  | cons head tail inductionHypothesis =>
      exact inductionHypothesis (evidenceInvariant_apply head invariant)

/-! ## DELIVERED is final -/

theorem delivered_mem_execute {db next : AlertDb} {statement : AppStatement} {row : OutboxRow}
    (member : row ∈ db.outbox) (delivered : row.state = .delivered)
    (accepted : statement.execute db = .ok next) : row ∈ next.outbox := by
  cases statement with
  | insertEvaluation rows =>
      refine foldlM_preserves (fun state => row ∈ state.outbox)
        (fun state new next holds inserted => ?_) member accepted
      obtain ⟨rfl, -⟩ := insertEvaluation_ok inserted
      exact holds
  | insertOutbox onConflictDoNothing rows =>
      refine foldlM_preserves (fun state => row ∈ state.outbox)
        (fun state new next holds inserted => ?_) member accepted
      cases result : insertOutbox onConflictDoNothing state new with
      | error error => simp [result] at inserted
      | ok value =>
          simp only [result, Except.map_ok, Except.ok.injEq] at inserted
          obtain ⟨-, same⟩ | ⟨-, same, -⟩ := insertOutbox_ok result
          · exact inserted ▸ same ▸ holds
          · rw [← inserted, same]
            exact List.mem_append_left _ holds
  | insertAttemptEvent onConflictDoNothing rows =>
      refine foldlM_preserves (fun state => row ∈ state.outbox)
        (fun state new next holds inserted => ?_) member accepted
      obtain ⟨-, -, ⟨rfl, -⟩ | ⟨rfl, -⟩⟩ := insertAttemptEvent_ok inserted <;> exact holds
  | insertLedger onConflictDoNothing rows =>
      refine foldlM_preserves (fun state => row ∈ state.outbox)
        (fun state new next holds inserted => ?_) member accepted
      obtain ⟨rfl, -⟩ | ⟨rfl, -⟩ := insertLedger_ok inserted <;> exact holds
  | updateOutbox where_ set =>
      obtain ⟨rows, rfl, updated⟩ := updateOutbox_ok accepted
      obtain ⟨new, newMember, ⟨-, rfl⟩ | ⟨-, -, update⟩⟩ := exists_new_of_mem updated member
      · exact newMember
      · -- No move leaves DELIVERED.
        cases update.move with
        | lease source | takeover source | outcome source | redrive source =>
            simp [delivered] at source
  | updateLedger where_ set =>
      obtain ⟨rows, rfl, -⟩ := updateLedger_ok accepted
      exact member

theorem delivered_mem_run {db : AlertDb} (statements : List AppStatement) {row : OutboxRow}
    (member : row ∈ db.outbox) (delivered : row.state = .delivered) :
    row ∈ (runStatements db statements).outbox := by
  induction statements generalizing db with
  | nil => exact member
  | cons head tail inductionHypothesis =>
      refine inductionHypothesis ?_
      unfold AppStatement.apply
      split
      case h_1 next accepted => exact delivered_mem_execute member delivered accepted
      case h_2 => exact member

/-- Terminal outbox states cannot be forged: after any statements the role may
issue, every terminal row has its evidence, and whatever is issued next, a
DELIVERED row is still there and is the only row of its id. -/
theorem terminal_states_not_forgeable (statements later : List AppStatement) :
    (∀ row ∈ (runStatements AlertDb.empty statements).outbox,
      TerminalEvidence (runStatements AlertDb.empty statements) row) ∧
    ∀ row ∈ (runStatements AlertDb.empty statements).outbox, row.state = .delivered →
      row ∈ (runStatements (runStatements AlertDb.empty statements) later).outbox ∧
        ∀ current ∈ (runStatements (runStatements AlertDb.empty statements) later).outbox,
          current.outboxId = row.outboxId → current = row := by
  have invariant := evidenceInvariant_run statements evidenceInvariant_empty
  refine ⟨invariant.terminal, fun row member delivered => ?_⟩
  have kept := delivered_mem_run later member delivered
  refine ⟨kept, fun current currentMember same => ?_⟩
  exact eq_of_outboxId_eq (evidenceInvariant_run later invariant).uniqueIds currentMember kept same

end StockoutOps.Alerting
