import StockoutOps.Alerting.LedgerHistory
import StockoutOps.Alerting.Recovery
import StockoutOps.Alerting.StatementHistory

/-!
Contract: what the database alone says about the counters of an outbox row.

Owns: the re-drive counter and the attempt budget over raw statements of the
`stockoutops_app` role, and exactly which statements keep each of them honest.

Does not own: the counters under the repository's transactions, which issue no
other statements.

The trigger compares `redrive_count` with the transition in a re-drive only, and
`attempt_count` with `max_attempts` in a retry only. Each law below therefore
holds of a run exactly when every accepted UPDATE meets the comparison that the
trigger leaves out.
-/

namespace StockoutOps.Alerting

open StockoutOps.Sql

/-! ## The re-drive counter -/

def redriveTransition : RowTransition := (.deadLetter, .pending)

/-- The ledger row of an outbox row reports it. -/
def ReportedBy (entry : LedgerRow) (row : OutboxRow) : Prop :=
  entry.tenantId = row.tenantId ∧ entry.evaluationId = row.evaluationId ∧
    entry.toLedgerOutcome = terminalOutcome row.toOutboxProgress

/-- After these statements, the re-drive counter of every row is the number of its
re-drives, and a terminal row without one is reported by its ledger row. -/
def LedgerAgreement (statements : List AppStatement) : Prop :=
  ∀ row ∈ (runStatements AlertDb.empty statements).outbox,
    row.redriveCount =
        (transitionsOf row.outboxId AlertDb.empty statements).count redriveTransition ∧
      (row.Terminal →
        redriveTransition ∉ transitionsOf row.outboxId AlertDb.empty statements →
        ∃ entry ∈ (runStatements AlertDb.empty statements).ledger, ReportedBy entry row)

/-- Only a re-drive moves the re-drive counter. -/
def AppStatement.SparesRedriveCount (db : AlertDb) : AppStatement → Prop
  | .updateOutbox where_ set =>
      ∀ row ∈ db.outbox, where_ row = true → (row.state, (set row).state) ≠ redriveTransition →
        (set row).redriveCount = row.redriveCount
  | _ => True

section RedriveCounter

variable {db : AlertDb} {old new : OutboxRow}

/-- The ledger row that the trigger compares with an outcome of a row never re-driven. -/
theorem reportedBy_of_evidence (evidence : OutcomeEvidence db old new)
    (identity : new.toOutboxIdentity = old.toOutboxIdentity) (unredriven : old.redriveCount = 0)
    (terminal : new.Terminal) :
    ∃ entry ∈ db.ledger, entry.status ≠ .claimed ∧ ReportedBy entry new := by
  obtain ⟨entry, found, guard⟩ := evidence.ledger terminal
  have selected := List.find?_some found
  simp only [Bool.and_eq_true, beq_iff_eq] at selected
  obtain ⟨-, first, -⟩ := guardOutcomeLedger_eq_ok.mp guard
  obtain ⟨status, attempts, httpStatus, errorClass, completedAt⟩ := first unredriven
  refine ⟨entry, List.mem_of_find?_eq_some found, ?_, ?_, ?_, ?_⟩
  · rw [status]
    split <;> simp
  · rw [identity, selected.1]
  · rw [identity, selected.2]
  · rw [terminalOutcome, ← status, ← attempts, ← httpStatus, ← errorClass, ← completedAt]

end RedriveCounter

/-- The agreement, with ledger rows that no statement can change any more. -/
def StableAgreement (statements : List AppStatement) : Prop :=
  ∀ row ∈ (runStatements AlertDb.empty statements).outbox,
    row.redriveCount =
        (transitionsOf row.outboxId AlertDb.empty statements).count redriveTransition ∧
      (row.Terminal → row.redriveCount = 0 →
        ∃ entry ∈ (runStatements AlertDb.empty statements).ledger,
          entry.status ≠ .claimed ∧ ReportedBy entry row)

theorem StableAgreement.ledgerAgreement {statements : List AppStatement}
    (stable : StableAgreement statements) : LedgerAgreement statements := by
  intro row member
  obtain ⟨counter, reported⟩ := stable row member
  refine ⟨counter, fun terminal never => ?_⟩
  obtain ⟨entry, entryMember, -, reports⟩ := reported terminal (by
    rw [counter, List.count_eq_zero_of_not_mem never]
    rfl)
  exact ⟨entry, entryMember, reports⟩

theorem stableAgreement_append_singleton {statements : List AppStatement}
    {statement : AppStatement} (stable : StableAgreement statements)
    (spares : ∀ next, statement.execute (runStatements AlertDb.empty statements) = .ok next →
      statement.SparesRedriveCount (runStatements AlertDb.empty statements)) :
    StableAgreement (statements ++ [statement]) := by
  have invariant := evidenceInvariant_run statements evidenceInvariant_empty
  intro row member
  rw [runStatements_append_singleton] at member ⊢
  rw [transitionsOf_append_singleton, List.count_append]
  cases rowStep_apply invariant.uniqueIds member with
  | kept old still =>
      obtain ⟨counter, reported⟩ := stable row old
      rw [still, counter]
      refine ⟨by simp, fun terminal zero => ?_⟩
      obtain ⟨entry, entryMember, final, reports⟩ := reported terminal (counter.trans zero)
      exact ⟨entry, mem_ledger_apply entryMember final, final, reports⟩
  | inserted fresh insert _ still =>
      obtain ⟨_, guard⟩ := insert
      simp only [guardAlertOutboxInsert, guard_bind_eq_ok, raiseIf_eq_ok, not_or, not_not] at guard
      rw [still, transitionsOf_of_missing statements fresh, guard.1.2.2.1]
      refine ⟨rfl, fun terminal => ?_⟩
      simp [OutboxProgress.Terminal, guard.1.1] at terminal
  | updated old where_ set oldMember selected fresh update same accepted moved =>
      obtain ⟨counter, reported⟩ := stable old oldMember
      obtain ⟨next, accepted⟩ := accepted
      have spared := spares next accepted
      rw [same] at spared
      have target : row.state = (set old).state := by rw [fresh, OutboxRow.set_progress]
      have redrives : row.redriveCount = (set old).redriveCount := by
        rw [fresh, OutboxRow.set_progress]
      rw [moved, congrArg (·.outboxId) update.identity]
      by_cases redrive : (old.state, row.state) = redriveTransition
      · obtain ⟨source, pending⟩ := Prod.mk.inj redrive
        refine ⟨?_, fun terminal => ?_⟩
        · cases update.move with
          | redrive _ _ _ counted => rw [counted, counter, redrive]; simp
          | lease source' => simp [source] at source'
          | takeover source' => simp [source] at source'
          | outcome source' => simp [source] at source'
        · simp [OutboxProgress.Terminal, pending] at terminal
      · have unchanged : row.redriveCount = old.redriveCount := by
          rw [redrives, spared old oldMember selected (target ▸ redrive)]
        refine ⟨by simp [unchanged, counter, redrive], fun terminal zero => ?_⟩
        cases update.move with
        | outcome _ _ _ evidence =>
            obtain ⟨entry, entryMember, final, reports⟩ := reportedBy_of_evidence evidence
              update.identity (unchanged.symm.trans zero) terminal
            exact ⟨entry, mem_ledger_apply entryMember final, final, reports⟩
        | lease _ target' | takeover _ target' | redrive _ target' =>
            simp [OutboxProgress.Terminal, target'] at terminal

/-- The comparison the trigger leaves out is exactly the law: the counters and the
ledger agree with the transitions throughout a run if and only if no accepted
UPDATE moves the re-drive counter of a row it does not re-drive. -/
theorem ledger_agrees_iff_spares_redriveCount (statements : List AppStatement) :
    EveryAccepted AppStatement.SparesRedriveCount AlertDb.empty statements ↔
      ∀ before, before <+: statements → LedgerAgreement before := by
  constructor
  · intro every before start
    exact (holds_of_everyAccepted (by simp [StableAgreement, runStatements, AlertDb.empty])
      (fun _ _ => stableAgreement_append_singleton) every before start).ledgerAgreement
  · refine everyAccepted_of_law (fun before statement next agrees agreesAfter accepted => ?_)
    cases statement with
    | updateOutbox where_ set =>
        intro row member selected notRedrive
        have unique := (evidenceInvariant_run before evidenceInvariant_empty).uniqueIds
        have later := mem_outbox_updateOutbox accepted member selected
        rw [← runStatements_append_singleton] at later
        obtain ⟨counter, -⟩ := agreesAfter _ later
        rw [OutboxRow.set_identity, transitionsOf_append_singleton,
          transition?_updateOutbox unique accepted member, if_pos selected] at counter
        rw [(agrees row member).1]
        simpa [List.count_append, notRedrive] using counter
    | insertEvaluation | insertOutbox | insertAttemptEvent | insertLedger | updateLedger =>
        trivial

/-! ### A lease that moves the re-drive counter -/

def firstLease : LeaseRequest := { workerId := "worker-1", now := 0 }

def firstDelivery : LeasedDelivery :=
  let row := singleAttemptIntent.row 1
  leasedDelivery firstLease (row.set (leaseProgress firstLease row))

/-- The lease claims a re-drive; the ledger then reports a failure of a delivery
that succeeded. -/
def forgedRedriveCount : List AppStatement :=
  [ .insertEvaluation [firedEvaluation],
    .insertOutbox false [singleAttemptIntent.row 1],
    .updateOutbox (fun _ => true)
      (fun row => { leaseProgress firstLease row with redriveCount := 1 }),
    .insertAttemptEvent false [attemptEventRow firstDelivery ⟨.delivered, some 200, none, 0, 0⟩ 1],
    .insertLedger false [ledgerRow firstDelivery 0 1],
    .updateLedger (fun _ => true) (fun _ => ⟨.failed, 1, none, some "timeout", some 0⟩),
    .updateOutbox (fun _ => true)
      (TransitionTarget.progress ⟨.delivered, none, some 200, none, some 0, 0⟩) ]

theorem forgedRedriveCount_delivered :
    (runStatements AlertDb.empty forgedRedriveCount).outbox.any (fun row =>
      row.state = .delivered ∧ row.redriveCount = 1 ∧
        redriveTransition ∉ transitionsOf row.outboxId AlertDb.empty forgedRedriveCount) = true ∧
    (runStatements AlertDb.empty forgedRedriveCount).ledger.all (·.status = .failed) = true := by
  decide +kernel

theorem forged_redriveCount_breaks_agreement :
    (∃ row ∈ (runStatements AlertDb.empty forgedRedriveCount).outbox,
      row.state = .delivered ∧
        redriveTransition ∉ transitionsOf row.outboxId AlertDb.empty forgedRedriveCount ∧
        ∀ entry ∈ (runStatements AlertDb.empty forgedRedriveCount).ledger,
          entry.status = .failed) ∧
    ¬ LedgerAgreement forgedRedriveCount := by
  obtain ⟨delivered, failed⟩ := forgedRedriveCount_delivered
  obtain ⟨row, member, found⟩ := List.any_eq_true.mp delivered
  obtain ⟨state, redrives, never⟩ := of_decide_eq_true found
  have allFailed : ∀ entry ∈ (runStatements AlertDb.empty forgedRedriveCount).ledger,
      entry.status = .failed := fun entry entryMember =>
    of_decide_eq_true (List.all_eq_true.mp failed entry entryMember)
  refine ⟨⟨row, member, state, never, allFailed⟩, fun agrees => ?_⟩
  have counted := (agrees row member).1
  rw [List.count_eq_zero_of_not_mem never, redrives] at counted
  cases counted

/-! ## The attempt budget -/

/-- A lease or a takeover. -/
def claimTransition (transition : RowTransition) : Bool :=
  transition == (.pending, .inFlight) || transition == (.inFlight, .inFlight)

/-- After these statements, every row is within its attempt budget and its attempt
count is the number of its leases and takeovers. -/
def AttemptBudget (statements : List AppStatement) : Prop :=
  ∀ row ∈ (runStatements AlertDb.empty statements).outbox,
    row.attemptCount ≤ row.maxAttempts ∧
      row.attemptCount =
        (transitionsOf row.outboxId AlertDb.empty statements).countP claimTransition

/-- A claim finds an attempt left, and a re-drive keeps the attempts made. -/
def AppStatement.WithinBudget (db : AlertDb) : AppStatement → Prop
  | .updateOutbox where_ set =>
      ∀ row ∈ db.outbox, where_ row = true →
        ((set row).state = .inFlight → row.attemptCount < row.maxAttempts) ∧
        ((row.state, (set row).state) = redriveTransition →
          (set row).attemptCount = row.attemptCount ∧ row.attemptCount ≤ (set row).maxAttempts)
  | _ => True

theorem attemptBudget_append_singleton {statements : List AppStatement}
    {statement : AppStatement} (budget : AttemptBudget statements)
    (within : ∀ next, statement.execute (runStatements AlertDb.empty statements) = .ok next →
      statement.WithinBudget (runStatements AlertDb.empty statements)) :
    AttemptBudget (statements ++ [statement]) := by
  have invariant := evidenceInvariant_run statements evidenceInvariant_empty
  intro row member
  rw [runStatements_append_singleton] at member
  rw [transitionsOf_append_singleton, List.countP_append]
  cases rowStep_apply invariant.uniqueIds member with
  | kept old still =>
      rw [still]
      simpa using budget row old
  | inserted fresh insert checks still =>
      obtain ⟨_, guard⟩ := insert
      simp only [guardAlertOutboxInsert, guard_bind_eq_ok, raiseIf_eq_ok, not_or, not_not] at guard
      have ceiling := (outboxChecks_iff.mp checks).2.maxAttempts
      rw [still, transitionsOf_of_missing statements fresh, guard.1.2.1]
      exact ⟨by omega, rfl⟩
  | updated old where_ set oldMember selected fresh update same accepted moved =>
      obtain ⟨below, counted⟩ := budget old oldMember
      obtain ⟨next, accepted⟩ := accepted
      have allowed := within next accepted
      rw [same] at allowed
      obtain ⟨claims, redrives⟩ := allowed old oldMember selected
      rw [← OutboxRow.set_progress old (set old), ← fresh] at claims redrives
      rw [moved, congrArg (·.outboxId) update.identity]
      cases update.move with
      | lease source target number _ budget =>
          have left := claims target
          refine ⟨by omega, ?_⟩
          simp [claimTransition, source, target, number, counted]
      | takeover source target number _ budget =>
          have left := claims target
          refine ⟨by omega, ?_⟩
          simp [claimTransition, source, target, number, counted]
      | outcome source target number _ budget =>
          refine ⟨by omega, ?_⟩
          simp [claimTransition, source, target, number, counted]
      | redrive source target =>
          obtain ⟨kept, above⟩ := redrives (by rw [source, target]; rfl)
          refine ⟨by omega, ?_⟩
          simp [claimTransition, source, target, kept, counted]

/-- The budget holds throughout a run if and only if every accepted claim finds an
attempt left and every accepted re-drive keeps the attempts made. -/
theorem attempt_budget_iff_within_budget (statements : List AppStatement) :
    EveryAccepted AppStatement.WithinBudget AlertDb.empty statements ↔
      ∀ before, before <+: statements → AttemptBudget before := by
  constructor
  · exact holds_of_everyAccepted (by simp [AttemptBudget, runStatements, AlertDb.empty])
      (fun _ _ => attemptBudget_append_singleton)
  · refine everyAccepted_of_law (fun before statement next budget budgetAfter accepted => ?_)
    cases statement with
    | updateOutbox where_ set =>
        intro row member selected
        have unique := (evidenceInvariant_run before evidenceInvariant_empty).uniqueIds
        have later := mem_outbox_updateOutbox accepted member selected
        rw [← runStatements_append_singleton] at later
        obtain ⟨below, counted⟩ := budgetAfter _ later
        rw [OutboxRow.set_identity, transitionsOf_append_singleton,
          transition?_updateOutbox unique accepted member, if_pos selected, List.countP_append,
          Int.natCast_add, ← (budget row member).2] at counted
        have guard := ((updateOutbox_eq_ok.mp accepted).2 row member selected).1
        cases (outboxMove_of_guard guard).2.2 with
        | lease source target number _ budget =>
            refine ⟨fun _ => ?_, fun redrive => ?_⟩
            · simp only [OutboxRow.set_progress] at below number budget
              omega
            · simp [source, redriveTransition] at redrive
        | takeover source target number _ budget =>
            refine ⟨fun _ => ?_, fun redrive => ?_⟩
            · simp only [OutboxRow.set_progress] at below number budget
              omega
            · simp [source, redriveTransition] at redrive
        | outcome source target =>
            refine ⟨fun claimed => absurd claimed target, fun redrive => ?_⟩
            simp [source, redriveTransition] at redrive
        | redrive source target =>
            simp only [OutboxRow.set_progress] at below counted target
            refine ⟨fun claimed => ?_, fun _ => ?_⟩
            · simp [target] at claimed
            · simp [claimTransition, source, target] at counted
              omega
    | insertEvaluation | insertOutbox | insertAttemptEvent | insertLedger | updateLedger =>
        trivial

/-! ### A takeover of the last attempt -/

/-- A row whose budget of one is spent is taken over once its lease expires. -/
def takeoverPastBudget : List AppStatement :=
  [ .insertEvaluation [firedEvaluation],
    .insertOutbox false [singleAttemptIntent.row 1],
    .updateOutbox (fun _ => true) (leaseProgress firstLease),
    .updateOutbox (fun _ => true)
      (leaseProgress { firstLease with now := firstLease.now + firstLease.leaseSeconds }) ]

theorem takeoverPastBudget_exceeds :
    (runStatements AlertDb.empty takeoverPastBudget).outbox.any (fun row =>
      row.attemptCount = 2 ∧ row.maxAttempts = 1) = true := by
  decide +kernel

theorem takeover_past_budget_breaks_budget : ¬ AttemptBudget takeoverPastBudget := by
  intro budget
  obtain ⟨row, member, found⟩ := List.any_eq_true.mp takeoverPastBudget_exceeds
  obtain ⟨attempts, ceiling⟩ := of_decide_eq_true found
  have below := (budget row member).1
  omega

end StockoutOps.Alerting
