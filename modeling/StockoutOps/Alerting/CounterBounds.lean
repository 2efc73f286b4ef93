import StockoutOps.Alerting.OutboxAcceptance

/-!
Contract: the counters of the outbox stay within their CHECK constraints.

Owns: what a statement refused by a CHECK constraint says about its rows, the
exception each operation of the outbox raises, and the bounds of the attempt,
ceiling and re-drive counters in every reachable state.

Does not own: refusals for any other reason.
-/

namespace StockoutOps.Alerting

open StockoutOps.Sql

/-! ## Triggers report no constraint -/

/-- A trigger function raises, and reports no constraint. -/
def RaisesOnly (guard : Except SqlError Unit) : Prop :=
  ∀ constraint, guard ≠ .error (.checkViolation constraint)

theorem raisesOnly_ok : RaisesOnly (.ok ()) := nofun

theorem raisesOnly_raised (message : String) : RaisesOnly (.error (.raised message)) := by
  intro constraint same
  cases same

theorem raisesOnly_raiseIf (message : String) (condition : Prop) [Decidable condition] :
    RaisesOnly (raiseIf message condition) := by
  unfold raiseIf
  split
  · exact raisesOnly_raised message
  · exact raisesOnly_ok

theorem RaisesOnly.bind {guard : Except SqlError Unit} {next : Unit → Except SqlError Unit}
    (first : RaisesOnly guard) (rest : RaisesOnly (next ())) : RaisesOnly (guard >>= next) := by
  intro constraint refused
  obtain failed | ⟨_, -, failed⟩ := bind_eq_error.mp refused
  · exact first constraint failed
  · exact rest constraint failed

/-- A finished row has its evidence in the ledger. -/
theorem raisesOnly_terminalOutcome (db : AlertDb) (old new : OutboxRow) :
    RaisesOnly (if new.state = .delivered ∨ new.state = .deadLetter then
        match db.ledgerRow? old.tenantId old.evaluationId with
        | none => .error (.raised
            "alert_outbox terminal outcome requires terminal delivery ledger evidence")
        | some ledger => guardOutcomeLedger ledger old new
      else .ok ()) := by
  split
  case isFalse => exact raisesOnly_ok
  case isTrue =>
    cases db.ledgerRow? old.tenantId old.evaluationId with
    | none => exact raisesOnly_raised _
    | some entry =>
        exact .bind (raisesOnly_raiseIf _ _) <| .bind (raisesOnly_raiseIf _ _)
          (raisesOnly_raiseIf _ _)

theorem raisesOnly_guardAlertOutboxUpdate (db : AlertDb) (old new : OutboxRow) :
    RaisesOnly (guardAlertOutboxUpdate db old new) := by
  have evidence : ∀ attempt, RaisesOnly (guardOutcomeEvidence attempt old new) := fun attempt =>
    .bind (raisesOnly_raiseIf _ _) <| .bind (raisesOnly_raiseIf _ _) <|
      .bind (raisesOnly_raiseIf _ _) <| .bind (raisesOnly_raiseIf _ _) <|
      .bind (raisesOnly_raiseIf _ _) (raisesOnly_raiseIf _ _)
  refine .bind ?_ (.bind ?_ (.bind ?_ ?_))
  · exact .bind (raisesOnly_raiseIf _ _) <| .bind (raisesOnly_raiseIf _ _) <|
      .bind (raisesOnly_raiseIf _ _) <| .bind (raisesOnly_raiseIf _ _) (raisesOnly_raiseIf _ _)
  · exact .bind (raisesOnly_raiseIf _ _) (raisesOnly_raiseIf _ _)
  · unfold guardOutboxOutcome
    split
    case isFalse => exact raisesOnly_ok
    case isTrue =>
      have terminal := raisesOnly_terminalOutcome db old new
      refine .bind (raisesOnly_raiseIf _ _) ?_
      cases db.attemptEvent? old.outboxId old.attemptCount with
      | none => exact .bind (raisesOnly_raised _) terminal
      | some attempt => exact .bind (evidence attempt) terminal
  · exact .bind (raisesOnly_raiseIf _ _) (raisesOnly_raiseIf _ _)

theorem raisesOnly_guardAlertOutboxInsert (db : AlertDb) (new : OutboxRow) :
    RaisesOnly (guardAlertOutboxInsert db new) := by
  refine .bind (raisesOnly_raiseIf _ _) ?_
  cases db.evaluation? new.evaluationId with
  | none => exact raisesOnly_raised _
  | some evaluation => exact raisesOnly_raiseIf _ _

theorem raisesOnly_guardAlertDeliveryAttemptEventInsert (db : AlertDb) (new : AttemptEventRow) :
    RaisesOnly (guardAlertDeliveryAttemptEventInsert db new) := by
  unfold guardAlertDeliveryAttemptEventInsert
  cases db.outboxRow? new.outboxId with
  | none => exact raisesOnly_raised _
  | some row => exact .bind (raisesOnly_raiseIf _ _) (raisesOnly_raiseIf _ _)

theorem raisesOnly_guardAlertDeliveryAttemptInsert (db : AlertDb) (new : LedgerRow) :
    RaisesOnly (guardAlertDeliveryAttemptInsert db new) := by
  refine .bind (raisesOnly_raiseIf _ _) ?_
  cases db.evaluation? new.evaluationId with
  | none => exact raisesOnly_raised _
  | some evaluation => exact raisesOnly_raiseIf _ _

theorem raisesOnly_guardAlertDeliveryAttemptUpdate (old new : LedgerRow) :
    RaisesOnly (guardAlertDeliveryAttemptUpdate old new) :=
  .bind (raisesOnly_raiseIf _ _) (.bind (raisesOnly_raiseIf _ _) (raisesOnly_raiseIf _ _))

/-! ## What a constraint violation says -/

section Violations

variable {db : AlertDb} {constraint : String}

/-- A row is refused by a constraint only if the constraint is false of it. -/
private theorem violated_of_checked {α : Type} {checks : List (String × Bool)}
    {rest : Except SqlError α} (refused : (do checkAll checks; rest) =
      .error (.checkViolation constraint)) (last : rest ≠ .error (.checkViolation constraint)) :
    (constraint, false) ∈ checks := by
  obtain violated | ⟨_, -, refused⟩ := bind_eq_error.mp refused
  · obtain ⟨other, member, same⟩ := checkAll_eq_error violated
    cases same
    exact member
  · exact absurd refused last

private theorem violated_of_guarded {α : Type} {guard : Except SqlError Unit}
    {checks : List (String × Bool)} {rest : Except SqlError α}
    (refused : (do guard; checkAll checks; rest) = .error (.checkViolation constraint))
    (raises : RaisesOnly guard) (last : rest ≠ .error (.checkViolation constraint)) :
    (constraint, false) ∈ checks := by
  obtain raised | ⟨_, -, refused⟩ := bind_eq_error.mp refused
  · exact absurd raised (raises constraint)
  · exact violated_of_checked refused last

/-- A key or reference that is checked last reports no CHECK. -/
private theorem require_ne_checkViolation {error : SqlError} {condition : Prop}
    [Decidable condition] {α : Type} {next : Except SqlError α}
    (other : error ≠ .checkViolation constraint)
    (rest : next ≠ .error (.checkViolation constraint)) :
    (do require error condition; next) ≠ .error (.checkViolation constraint) := by
  intro refused
  obtain failed | ⟨_, -, refused⟩ := bind_eq_error.mp refused
  · unfold require at failed
    split at failed
    · cases failed
    · exact other (Except.error.inj failed)
  · exact rest refused

theorem violated_of_insertEvaluation {new : EvaluationRow}
    (refused : insertEvaluation db new = .error (.checkViolation constraint)) :
    (constraint, false) ∈ new.checks :=
  violated_of_checked refused
    (require_ne_checkViolation nofun <| require_ne_checkViolation nofun <|
      require_ne_checkViolation nofun nofun)

theorem violated_of_insertOutbox {onConflictDoNothing : Bool} {new : OutboxRow}
    (refused : insertOutbox onConflictDoNothing db new = .error (.checkViolation constraint)) :
    (constraint, false) ∈ new.checks := by
  refine violated_of_guarded refused (raisesOnly_guardAlertOutboxInsert db new) ?_
  split
  · simp
  · exact require_ne_checkViolation (by simp) <| require_ne_checkViolation (by simp) <|
      require_ne_checkViolation (by simp) (by simp)

theorem violated_of_insertAttemptEvent {onConflictDoNothing : Bool} {new : AttemptEventRow}
    (refused : insertAttemptEvent onConflictDoNothing db new =
      .error (.checkViolation constraint)) :
    (constraint, false) ∈ new.checks := by
  refine violated_of_guarded refused (raisesOnly_guardAlertDeliveryAttemptEventInsert db new) ?_
  split
  · simp
  · exact require_ne_checkViolation (by simp) <| require_ne_checkViolation (by simp) <|
      require_ne_checkViolation (by simp) (by simp)

theorem violated_of_insertLedger {onConflictDoNothing : Bool} {new : LedgerRow}
    (refused : insertLedger onConflictDoNothing db new = .error (.checkViolation constraint)) :
    (constraint, false) ∈ new.checks := by
  refine violated_of_guarded refused (raisesOnly_guardAlertDeliveryAttemptInsert db new) ?_
  split
  · simp
  · exact require_ne_checkViolation (by simp) <| require_ne_checkViolation (by simp) (by simp)

theorem violated_of_updateOutbox {where_ : OutboxRow → Bool} {set : OutboxRow → OutboxProgress}
    (refused : updateOutbox where_ set db = .error (.checkViolation constraint)) :
    ∃ row ∈ db.outbox, where_ row = true ∧ (constraint, false) ∈ (row.set (set row)).checks := by
  obtain refused | ⟨_, -, done⟩ := bind_eq_error.mp refused
  · obtain ⟨row, member, rowRefused⟩ := exists_of_mapM_eq_error refused
    split at rowRefused
    case isFalse => cases rowRefused
    case isTrue selected =>
      exact ⟨row, member, selected, violated_of_guarded rowRefused
        (raisesOnly_guardAlertOutboxUpdate db row _) nofun⟩
  · cases done

theorem violated_of_updateLedger {where_ : LedgerRow → Bool} {set : LedgerRow → LedgerOutcome}
    (refused : updateLedger where_ set db = .error (.checkViolation constraint)) :
    ∃ row ∈ db.ledger, where_ row = true ∧ (constraint, false) ∈ (row.set (set row)).checks := by
  obtain refused | ⟨_, -, done⟩ := bind_eq_error.mp refused
  · obtain ⟨row, member, rowRefused⟩ := exists_of_mapM_eq_error refused
    split at rowRefused
    case isFalse => cases rowRefused
    case isTrue selected =>
      exact ⟨row, member, selected, violated_of_guarded rowRefused
        (raisesOnly_guardAlertDeliveryAttemptUpdate row _) nofun⟩
  · cases done

end Violations

/-! ## The counter constraints -/

/-- The CHECK constraints that bound a counter by 100. -/
def counterConstraints : List String :=
  [ "alert_outbox_attempt_count_check", "alert_outbox_max_attempts_check",
    "alert_outbox_redrive_count_check", "alert_delivery_attempt_event_attempt_number_check",
    "alert_delivery_attempt_attempt_count_check" ]

/-- The counters of a row, within the bounds of the table. -/
structure CounterBounds (row : OutboxProgress) : Prop where
  nonneg : 0 ≤ row.redriveCount
  redrives : row.redriveCount ≤ row.attemptCount
  budget : row.attemptCount ≤ row.maxAttempts
  positive : 1 ≤ row.maxAttempts
  ceiling : row.maxAttempts ≤ 100

theorem counterBounds {state : OutboxSystem} {row : OutboxRow} (invariant : OutboxInvariant state)
    (member : row ∈ state.db.outbox) : CounterBounds row.toOutboxProgress := by
  obtain ⟨budget, -, nonneg, redrives, -⟩ := (invariant.rows row member).counters
  have checks := progressChecks invariant.evidence member
  exact ⟨nonneg, redrives, budget, checks.maxAttempts.1, checks.maxAttempts.2⟩

/-- Whatever else fails, the counters of a row pass. -/
def CountersPass (checks : List (String × Bool)) : Prop :=
  ∀ check ∈ checks, check.1 ∈ counterConstraints → check.2 = true

theorem CountersPass.not_counter {checks : List (String × Bool)} {constraint : String}
    (pass : CountersPass checks) (violated : (constraint, false) ∈ checks) :
    constraint ∉ counterConstraints :=
  fun counter => nomatch pass _ violated counter

theorem countersPass_outbox {row : OutboxRow} (bounds : CounterBounds row.toOutboxProgress) :
    CountersPass row.checks := by
  obtain ⟨nonneg, redrives, budget, positive, ceiling⟩ := bounds
  have attempts : 0 ≤ row.attemptCount ∧ row.attemptCount ≤ 100 := by omega
  have redriveBound : row.redriveCount ≤ 100 := by omega
  simp [CountersPass, OutboxRow.checks, counterConstraints, attempts, nonneg, redriveBound,
    positive, ceiling]

theorem countersPass_attemptEvent {row : AttemptEventRow}
    (number : 1 ≤ row.attemptNumber ∧ row.attemptNumber ≤ 100) : CountersPass row.checks := by
  simp [CountersPass, AttemptEventRow.checks, counterConstraints, number]

theorem countersPass_ledger {row : LedgerRow}
    (attempts : 0 ≤ row.attemptCount ∧ row.attemptCount ≤ 100) : CountersPass row.checks := by
  simp [CountersPass, LedgerRow.checks, counterConstraints, attempts]

theorem countersPass_evaluation (row : EvaluationRow) : CountersPass row.checks := by
  simp [CountersPass, EvaluationRow.checks, counterConstraints]

/-! ## What each operation raises -/

/-- A result that reports no counter constraint. -/
def NoCounterViolation {α : Type} (result : Except Failure α) : Prop :=
  ∀ constraint, result = .error (.database (.checkViolation constraint)) →
    constraint ∉ counterConstraints

theorem noCounterViolation_ok {α : Type} (value : α) :
    NoCounterViolation (.ok value : Except Failure α) := nofun

theorem NoCounterViolation.bind {α β : Type} {first : Except Failure α}
    {next : α → Except Failure β} (head : NoCounterViolation first)
    (rest : ∀ value, first = .ok value → NoCounterViolation (next value)) :
    NoCounterViolation (first >>= next) := by
  intro constraint refused
  obtain failed | ⟨value, accepted, failed⟩ := bind_eq_error.mp refused
  · exact head constraint failed
  · exact rest value accepted constraint failed

theorem noCounterViolation_liftSql {α : Type} {result : Except SqlError α}
    (statement : ∀ constraint, result = .error (.checkViolation constraint) →
      constraint ∉ counterConstraints) : NoCounterViolation (liftSql result) := by
  intro constraint refused
  cases result with
  | ok value => cases refused
  | error error =>
      obtain rfl : error = .checkViolation constraint := by
        simpa [liftSql] using refused
      exact statement constraint rfl

section Operations

variable {state : OutboxSystem}

theorem noCounterViolation_enqueue (request : EnqueueRequest) (candidateId : Int) (db : AlertDb) :
    NoCounterViolation (enqueueInTransaction request candidateId db) := by
  unfold enqueueInTransaction
  split
  case isTrue => nofun
  case isFalse bounds =>
    rw [maxAttemptCeiling] at bounds
    refine .bind (noCounterViolation_liftSql fun constraint refused => ?_)
      (fun _ _ => noCounterViolation_ok _)
    refine (countersPass_outbox ?_).not_counter (violated_of_insertOutbox refused)
    exact ⟨Int.le_refl 0, Int.le_refl 0, show 0 ≤ request.maxAttempts by omega,
      show 1 ≤ request.maxAttempts by omega, show request.maxAttempts ≤ 100 by omega⟩

/-- An UPDATE whose new counters are within their bounds reports none of them. -/
theorem noCounterViolation_updateOutbox {where_ : OutboxRow → Bool}
    {set : OutboxRow → OutboxProgress} {db : AlertDb}
    (bounds : ∀ row ∈ db.outbox, where_ row = true → CounterBounds (set row)) :
    NoCounterViolation (liftSql (updateOutbox where_ set db)) :=
  noCounterViolation_liftSql fun _ refused => by
    obtain ⟨row, member, selected, violated⟩ := violated_of_updateOutbox refused
    have pass : CountersPass (row.set (set row)).checks :=
      countersPass_outbox (bounds row member selected)
    exact pass.not_counter violated

theorem noCounterViolation_lease (invariant : OutboxInvariant state) (request : LeaseRequest)
    (locked : Int → Bool) : NoCounterViolation (lease request locked state.db) := by
  unfold lease
  split
  case isTrue => nofun
  split
  case isTrue => nofun
  dsimp only
  split
  case isTrue => nofun
  case isFalse =>
    refine .bind (noCounterViolation_updateOutbox fun row member claimed => ?_)
      (fun _ _ => noCounterViolation_ok _)
    have due : leasable request.now row = true :=
      leasable_of_claims invariant.evidence.uniqueIds member claimed
    simp only [leasable, Bool.and_eq_true, decide_eq_true_eq] at due
    obtain ⟨nonneg, redrives, -, positive, ceiling⟩ := counterBounds invariant member
    exact ⟨nonneg, show row.redriveCount ≤ row.attemptCount + 1 by omega,
      show row.attemptCount + 1 ≤ row.maxAttempts by omega, positive, ceiling⟩

theorem noCounterViolation_redrive (invariant : OutboxInvariant state)
    (request : RedriveRequest) : NoCounterViolation (redrive request state.db) := by
  unfold redrive
  split
  case isTrue => nofun
  split
  case h_1 => nofun
  case h_2 target found =>
    split
    case isTrue => nofun
    dsimp only
    split
    case isTrue => nofun
    case isFalse raised =>
      refine .bind (noCounterViolation_updateOutbox fun row member selected => ?_)
        (fun _ _ => noCounterViolation_ok _)
      simp only [Bool.and_eq_true, beq_iff_eq] at selected
      have targetSelected := List.find?_some found
      simp only [Bool.and_eq_true, beq_iff_eq] at targetSelected
      -- The id names one row, the one whose ceiling was computed.
      obtain rfl := eq_of_outboxId_eq invariant.evidence.uniqueIds member
        (List.mem_of_find?_eq_some found) (selected.1.2.trans targetSelected.2.symm)
      have used := (invariant.rows row member).counters.used (by simp [selected.2])
      obtain ⟨nonneg, -, -, -, -⟩ := counterBounds invariant member
      rw [maxAttemptCeiling] at raised
      refine ⟨show 0 ≤ row.redriveCount + 1 by omega,
        show row.redriveCount + 1 ≤ row.attemptCount by omega, ?_, ?_, ?_⟩
      · show row.attemptCount ≤ min (row.attemptCount + request.additionalAttempts) 100
        omega
      · show 1 ≤ min (row.attemptCount + request.additionalAttempts) 100
        omega
      · exact Int.min_le_right _ _

theorem argumentError_ne_database (leased : LeasedDelivery) (call : RecordCall)
    (error : SqlError) : call.argumentError leased ≠ some (.database error) := by
  cases call with
  | delivered =>
      simp only [RecordCall.argumentError]
      split <;> simp
  | retry =>
      simp only [RecordCall.argumentError]
      split
      · simp
      split
      · simp [retryBudgetExhausted, Failure.conflict]
      split <;> simp
  | deadLetter =>
      simp only [RecordCall.argumentError]
      split <;> simp

/-- The attempt number of an outcome is the one of an active row. -/
theorem noCounterViolation_appendAttemptEvent (invariant : OutboxInvariant state)
    {leased : LeasedDelivery} (handedOut : leased ∈ state.handedOut) (record : AttemptRecord)
    (candidateId : Int) :
    NoCounterViolation (appendAttemptEvent leased record candidateId state.db) := by
  unfold appendAttemptEvent
  split
  case isFalse => nofun
  case isTrue active =>
    refine noCounterViolation_liftSql fun constraint refused => ?_
    obtain ⟨row, member, rowActive⟩ := List.any_eq_true.mp active
    obtain ⟨-, inFlight, number, -, -⟩ := active_row invariant handedOut member rowActive
    have used := (invariant.rows row member).counters.used (by simp [inFlight])
    obtain ⟨nonneg, -, budget, -, ceiling⟩ := counterBounds invariant member
    refine (countersPass_attemptEvent ?_).not_counter (violated_of_insertAttemptEvent refused)
    show 1 ≤ leased.attemptNumber ∧ leased.attemptNumber ≤ 100
    omega

theorem noCounterViolation_writeTerminalLedger {leased : LeasedDelivery} {db : AlertDb}
    (number : 0 ≤ leased.attemptNumber ∧ leased.attemptNumber ≤ 100) (status : DeliveryStatus)
    (record : AttemptRecord) (candidateId : Int) :
    NoCounterViolation (writeTerminalLedger leased status record candidateId db) := by
  refine .bind (noCounterViolation_liftSql fun constraint refused => ?_) (fun next _ =>
    noCounterViolation_liftSql fun constraint refused => ?_)
  · exact (countersPass_ledger ⟨Int.le_refl 0, show (0 : Int) ≤ 100 by decide⟩).not_counter
      (violated_of_insertLedger refused)
  · obtain ⟨row, -, -, violated⟩ := violated_of_updateLedger refused
    exact CountersPass.not_counter (countersPass_ledger number) violated

theorem noCounterViolation_record (invariant : OutboxInvariant state) {leased : LeasedDelivery}
    (handedOut : leased ∈ state.handedOut) (call : RecordCall) (ids : SequenceValues) :
    NoCounterViolation (call.run leased ids state.db) := by
  rw [RecordCall.run_eq]
  split
  case h_1 error raised =>
    intro constraint refused
    exact absurd (raised.trans (congrArg some (Except.error.inj refused)))
      (argumentError_ne_database leased call _)
  case h_2 =>
    refine .bind (noCounterViolation_appendAttemptEvent invariant handedOut call.record _)
      (fun recorded append => ?_)
    obtain ⟨⟨row, member, active⟩, id, insert⟩ := appendAttemptEvent_ok append
    obtain ⟨-, inFlight, number, -, -⟩ := active_row invariant handedOut member active
    obtain ⟨nonneg, redrives, budget, -, ceiling⟩ := counterBounds invariant member
    refine .bind ?_ (fun ledgered ledger => .bind ?_ (fun next _ => ?_))
    · cases call.ledgerStatus with
      | none => exact noCounterViolation_ok _
      | some status =>
          exact noCounterViolation_writeTerminalLedger (by omega) status _ _
    · -- The counters of the rows that the transition rewrites stay as they are.
      have sameOutbox : ledgered.outbox = state.db.outbox := by
        obtain ⟨⟨entries, rfl⟩, -⟩ := writeOutcomeLedger_ok ledger
        obtain ⟨-, -, ⟨rfl, -⟩ | ⟨rfl, -⟩⟩ := insertAttemptEvent_ok insert <;> rfl
      refine noCounterViolation_updateOutbox fun other otherMember _ => ?_
      have bounds := counterBounds invariant (sameOutbox ▸ otherMember)
      exact ⟨bounds.nonneg, bounds.redrives, bounds.budget, bounds.positive, bounds.ceiling⟩
    · split
      · exact noCounterViolation_ok _
      · nofun

end Operations

/-- The exception of a result, if it has one. -/
def exception? {α : Type} : Except Failure α → Option Failure
  | .ok _ => none
  | .error failure => some failure

theorem NoCounterViolation.exception? {α : Type} {result : Except Failure α}
    (clear : NoCounterViolation result) {constraint : String}
    (counter : constraint ∈ counterConstraints) :
    exception? result ≠ some (.database (.checkViolation constraint)) := by
  intro raised
  cases result with
  | ok => cases raised
  | error failure =>
      exact clear constraint (congrArg Except.error (Option.some.inj raised)) counter

/-- The exception an operation raises in a state, if it raises one. -/
def OutboxSystem.raised (state : OutboxSystem) : OutboxOp → Option Failure
  | .appendEvaluation row => exception? (liftSql (insertEvaluation state.db row))
  | .enqueue request candidateId => exception? (enqueueInTransaction request candidateId state.db)
  | .lease request locked => exception? (lease request locked state.db)
  | .record leased call ids =>
      if leased ∈ state.handedOut then exception? (call.run leased ids state.db) else none
  | .redrive request => exception? (redrive request state.db)

theorem raised_ne_counterViolation {state : OutboxSystem} (invariant : OutboxInvariant state)
    (op : OutboxOp) {constraint : String} (counter : constraint ∈ counterConstraints) :
    state.raised op ≠ some (.database (.checkViolation constraint)) := by
  cases op with
  | appendEvaluation row =>
      exact (noCounterViolation_liftSql fun _ refused => (countersPass_evaluation row).not_counter
        (violated_of_insertEvaluation refused)).exception? counter
  | enqueue request candidateId =>
      exact (noCounterViolation_enqueue request candidateId state.db).exception? counter
  | lease request locked =>
      exact (noCounterViolation_lease invariant request locked).exception? counter
  | record leased call ids =>
      simp only [OutboxSystem.raised]
      split
      case isTrue handedOut =>
        exact (noCounterViolation_record invariant handedOut call ids).exception? counter
      case isFalse => nofun
  | redrive request => exact (noCounterViolation_redrive invariant request).exception? counter

/-- After any operations the counters of every row are ordered and at most 100, a
pending row is leasable once due and a dead letter was attempted; so no operation
is ever refused by a CHECK on a counter. -/
theorem counters_stay_within_bounds (ops : List OutboxOp) :
    (∀ row ∈ (OutboxSystem.initial.run ops).db.outbox,
      (0 ≤ row.redriveCount ∧ row.redriveCount ≤ row.attemptCount ∧
        row.attemptCount ≤ row.maxAttempts ∧ row.maxAttempts ≤ 100) ∧
      (row.state = .pending → row.attemptCount < row.maxAttempts ∧
        ∀ now, row.nextAttemptAt ≤ now → leasable now row = true) ∧
      (row.state = .deadLetter → 1 ≤ row.attemptCount)) ∧
    ∀ op, ∀ constraint ∈ counterConstraints,
      (OutboxSystem.initial.run ops).raised op ≠
        some (.database (.checkViolation constraint)) := by
  have invariant := outboxInvariant_run ops outboxInvariant_initial
  refine ⟨fun row member => ?_, fun op _ counter => raised_ne_counterViolation invariant op counter⟩
  obtain ⟨nonneg, redrives, budget, -, ceiling⟩ := counterBounds invariant member
  have counters := (invariant.rows row member).counters
  refine ⟨⟨nonneg, redrives, budget, ceiling⟩, fun pending => ?_, fun dead => ?_⟩
  · have left := counters.pending pending
    exact ⟨left, fun now due => by simp [leasable, pending, due, left]⟩
  · have used := counters.used (by simp [dead])
    omega

end StockoutOps.Alerting
