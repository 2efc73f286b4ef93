import StockoutOps.Alerting.Outbox
import StockoutOps.Alerting.TerminalEvidence

/-!
Contract: what each committed transaction of `AlertOutboxRepository` did.

Owns: lookups by outbox id, one specification per transaction, the common form
of the three record operations, and the fact that a transaction issues only
statements of the `stockoutops_app` role.

Does not own: sequences of transactions.
-/

namespace StockoutOps.Alerting

open StockoutOps.Sql

/-! ## Lookups by outbox id -/

section Lookup

variable {db : AlertDb}

theorem outboxRow?_eq_some_iff (unique : (db.outbox.map (·.outboxId)).Nodup) {id : Int}
    {row : OutboxRow} : db.outboxRow? id = some row ↔ row ∈ db.outbox ∧ row.outboxId = id := by
  constructor
  · intro found
    exact ⟨List.mem_of_find?_eq_some found, by simpa using List.find?_some found⟩
  · rintro ⟨member, rfl⟩
    cases found : db.outboxRow? row.outboxId with
    | none =>
        have missing := List.find?_eq_none.mp found row member
        simp at missing
    | some other =>
        have same : other.outboxId = row.outboxId := by simpa using List.find?_some found
        rw [eq_of_outboxId_eq unique (List.mem_of_find?_eq_some found) member same]

theorem outboxRow?_eq_none_iff {id : Int} :
    db.outboxRow? id = none ↔ ∀ row ∈ db.outbox, row.outboxId ≠ id := by
  simp [AlertDb.outboxRow?, List.find?_eq_none]

/-- The outbox after an UPDATE: the selected rows have their new columns. -/
def rewriteOutbox (where_ : OutboxRow → Bool) (set : OutboxRow → OutboxProgress)
    (row : OutboxRow) : OutboxRow :=
  if where_ row then row.set (set row) else row

@[simp] theorem rewriteOutbox_identity (where_ : OutboxRow → Bool)
    (set : OutboxRow → OutboxProgress) (row : OutboxRow) :
    (rewriteOutbox where_ set row).toOutboxIdentity = row.toOutboxIdentity := by
  unfold rewriteOutbox
  split <;> rfl

theorem rewriteOutbox_of_selected {where_ : OutboxRow → Bool}
    {set : OutboxRow → OutboxProgress} {row : OutboxRow} (selected : where_ row = true) :
    rewriteOutbox where_ set row = row.set (set row) := if_pos selected

theorem rewriteOutbox_of_other {where_ : OutboxRow → Bool}
    {set : OutboxRow → OutboxProgress} {row : OutboxRow} (other : where_ row = false) :
    rewriteOutbox where_ set row = row := by
  simp [rewriteOutbox, other]

theorem outboxRow?_rewrite {next : AlertDb} {where_ : OutboxRow → Bool}
    {set : OutboxRow → OutboxProgress}
    (outbox : next.outbox = db.outbox.map (rewriteOutbox where_ set)) (id : Int) :
    next.outboxRow? id = (db.outboxRow? id).map (rewriteOutbox where_ set) := by
  unfold AlertDb.outboxRow?
  rw [outbox, List.find?_map]
  congr 2
  funext row
  simp

end Lookup

/-! ## Enqueue -/

section Enqueue

variable {db next : AlertDb} {request : EnqueueRequest} {candidateId : Int}
  {inserted : Option Int}

theorem le_foldr_max {used : List Int} {value : Int} (member : value ∈ used) :
    value ≤ used.foldr max 0 := by
  induction used with
  | nil => cases member
  | cons head tail inductionHypothesis =>
      rcases List.mem_cons.mp member with rfl | rest
      · exact Int.le_max_left _ _
      · exact Int.le_trans (inductionHypothesis rest) (Int.le_max_right _ _)

theorem identityValue_not_mem (candidate : Int) (used : List Int) :
    identityValue candidate used ∉ used := by
  unfold identityValue
  split
  case isFalse fresh => exact fresh
  case isTrue =>
    intro member
    have above := le_foldr_max member
    omega

/-- An identity value is above the values its candidate is above. -/
theorem lt_identityValue {candidate value : Int} {used : List Int} (member : value ∈ used)
    (below : value < candidate) : value < identityValue candidate used := by
  unfold identityValue
  split
  case isFalse => exact below
  case isTrue =>
    have above := le_foldr_max member
    omega

/-- An enqueue that inserted nothing changed nothing; otherwise it appended one
unattempted row with its own identity and a budget of at least one attempt. -/
theorem enqueueInTransaction_ok
    (accepted : enqueueInTransaction request candidateId db = .ok (inserted, next)) :
    next = db ∨ ∃ id, next = { db with outbox := db.outbox ++ [request.row id] } ∧
      OutboxInsert db (request.row id) ∧ 1 ≤ request.maxAttempts ∧
      ∃ flag, insertOutbox true db (request.row id) = .ok (flag, next) := by
  unfold enqueueInTransaction at accepted
  split at accepted
  case isTrue => cases accepted
  case isFalse bounds =>
    simp only [bind_eq_ok, liftSql_eq_ok, Except.ok.injEq] at accepted
    obtain ⟨⟨flag, result⟩, insert, same⟩ := accepted
    obtain rfl : result = next := (Prod.mk.inj same).2
    obtain ⟨-, rfl⟩ | ⟨-, rfl, fresh⟩ := insertOutbox_ok insert
    · exact .inl rfl
    · exact .inr ⟨_, rfl, fresh, by omega, flag, insert⟩

end Enqueue

/-! ## Lease -/

section Lease

variable {db next : AlertDb} {request : LeaseRequest} {locked : Int → Bool}
  {batch : List LeasedDelivery}

/-- The rows a lease claims. -/
def claims (request : LeaseRequest) (locked : Int → Bool) (db : AlertDb) (row : OutboxRow) :
    Bool :=
  (leaseCandidates request locked db).contains row.outboxId

theorem mem_leaseCandidates {id : Int} (member : id ∈ leaseCandidates request locked db) :
    ∃ row ∈ db.outbox, row.outboxId = id ∧ leasable request.now row = true := by
  obtain ⟨row, taken, rfl⟩ := List.mem_map.mp member
  have scanned := (List.mem_insertionSort leaseOrder).mp (List.mem_of_mem_take taken)
  simp only [List.mem_filter, Bool.and_eq_true] at scanned
  exact ⟨row, scanned.1, rfl, scanned.2.1⟩

theorem leasable_of_claims (unique : (db.outbox.map (·.outboxId)).Nodup) {row : OutboxRow}
    (member : row ∈ db.outbox) (claimed : claims request locked db row = true) :
    leasable request.now row = true := by
  obtain ⟨other, otherMember, same, due⟩ := mem_leaseCandidates (List.contains_iff_mem.mp claimed)
  exact eq_of_outboxId_eq unique otherMember member same ▸ due

/-- What a committed lease did: it rewrote the claimed rows, each of which passed
the trigger and the constraints, and handed out exactly those. -/
structure LeaseCommit (request : LeaseRequest) (locked : Int → Bool) (db : AlertDb)
    (batch : List LeasedDelivery) (next : AlertDb) : Prop where
  tables : next = { db with
    outbox := db.outbox.map (rewriteOutbox (claims request locked db) (leaseProgress request)) }
  accepted : ∀ row ∈ db.outbox, claims request locked db row = true →
    guardAlertOutboxUpdate db row (row.set (leaseProgress request row)) = .ok () ∧
      checkAll (row.set (leaseProgress request row)).checks = .ok ()
  handedOut : ((db.outbox.filter (claims request locked db)).map
    (fun row => leasedDelivery request (row.set (leaseProgress request row)))).Perm batch

/-- The rows an UPDATE returns are the rewritten ones. -/
private theorem filter_rewrite {where_ : OutboxRow → Bool} {set : OutboxRow → OutboxProgress}
    (stable : ∀ row, where_ (rewriteOutbox where_ set row) = where_ row)
    (rows : List OutboxRow) :
    (rows.map (rewriteOutbox where_ set)).filter where_ =
      (rows.filter where_).map (fun row => row.set (set row)) := by
  rw [List.filter_map]
  have same : where_ ∘ rewriteOutbox where_ set = where_ := funext stable
  rw [same]
  refine List.map_congr_left (fun row member => ?_)
  exact rewriteOutbox_of_selected (List.mem_filter.mp member).2

theorem lease_ok (accepted : lease request locked db = .ok (batch, next)) :
    LeaseCommit request locked db batch next := by
  simp only [lease] at accepted
  split at accepted
  case isTrue => cases accepted
  split at accepted
  case isTrue => cases accepted
  split at accepted
  case isTrue empty =>
    -- No candidate: nothing is claimed.
    have noClaim : ∀ row, claims request locked db row = false := by
      intro row
      simp [claims, List.isEmpty_iff.mp empty]
    obtain ⟨rfl, rfl⟩ := Prod.mk.inj (Except.ok.inj accepted)
    refine ⟨?_, fun row _ claimed => ?_, ?_⟩
    · have unchanged : rewriteOutbox (claims request locked db) (leaseProgress request) = id :=
        funext fun row => rewriteOutbox_of_other (noClaim row)
      rw [unchanged, List.map_id]
    · rw [noClaim row] at claimed
      cases claimed
    · simp [noClaim]
  case isFalse =>
    simp only [bind_eq_ok, liftSql_eq_ok, updateOutbox_eq_ok, Except.ok.injEq] at accepted
    obtain ⟨result, ⟨tables, updates⟩, returned⟩ := accepted
    obtain ⟨rfl, rfl⟩ := Prod.mk.inj returned
    refine ⟨tables, updates, ?_⟩
    have rows : result.outbox.filter (claims request locked db) =
        (db.outbox.filter (claims request locked db)).map
          (fun row => row.set (leaseProgress request row)) := by
      rw [tables]
      exact filter_rewrite (fun row => by simp [claims]) db.outbox
    have sorted := List.perm_insertionSort
      (fun left right : OutboxRow => left.outboxId ≤ right.outboxId)
      (result.outbox.filter (claims request locked db))
    refine List.Perm.trans ?_ (sorted.symm.map (leasedDelivery request))
    rw [rows, List.map_map]
    exact List.Perm.refl _

/-- `sorted(..., key=outbox_id)` -/
theorem lease_sorted (accepted : lease request locked db = .ok (batch, next)) :
    batch.Pairwise (fun left right => left.outboxId ≤ right.outboxId) := by
  simp only [lease] at accepted
  split at accepted
  case isTrue => cases accepted
  split at accepted
  case isTrue => cases accepted
  split at accepted
  case isTrue =>
    obtain ⟨rfl, -⟩ := Prod.mk.inj (Except.ok.inj accepted)
    exact List.Pairwise.nil
  case isFalse =>
    simp only [bind_eq_ok, Except.ok.injEq] at accepted
    obtain ⟨result, -, returned⟩ := accepted
    obtain ⟨rfl, -⟩ := Prod.mk.inj returned
    have total : Std.Total fun left right : OutboxRow => left.outboxId ≤ right.outboxId :=
      ⟨fun left right => Int.le_total left.outboxId right.outboxId⟩
    have transitive : IsTrans OutboxRow fun left right => left.outboxId ≤ right.outboxId :=
      ⟨fun _ _ _ => Int.le_trans⟩
    exact List.pairwise_map.mpr (List.pairwise_insertionSort _ _)

theorem LeaseCommit.mem_batch (commit : LeaseCommit request locked db batch next)
    {leased : LeasedDelivery} : leased ∈ batch ↔
      ∃ row ∈ db.outbox, claims request locked db row = true ∧
        leased = leasedDelivery request (row.set (leaseProgress request row)) := by
  rw [← commit.handedOut.mem_iff, List.mem_map]
  constructor
  · rintro ⟨row, member, rfl⟩
    exact ⟨row, (List.mem_filter.mp member).1, (List.mem_filter.mp member).2, rfl⟩
  · rintro ⟨row, member, claimed, rfl⟩
    exact ⟨row, List.mem_filter.mpr ⟨member, claimed⟩, rfl⟩

theorem LeaseCommit.batch_nodup (commit : LeaseCommit request locked db batch next)
    (unique : (db.outbox.map (·.outboxId)).Nodup) : (batch.map (·.outboxId)).Nodup := by
  rw [← (commit.handedOut.map (·.outboxId)).nodup_iff, List.map_map]
  exact (List.filter_sublist.map _).nodup unique

end Lease

/-! ## Outcomes

The three record operations check their arguments and then run one transaction,
which differs only in the ledger status and the target of the transition. -/

/-- What an operation raises before it opens a transaction. -/
def RecordCall.argumentError (leased : LeasedDelivery) : RecordCall → Option Failure
  | .delivered httpStatus _ _ =>
      if ¬ (200 ≤ httpStatus ∧ httpStatus < 300) then
        some (.valueError "record_delivered requires a 2xx status")
      else none
  | .retry outcome _ _ _ _ _ =>
      if outcome ≠ .retryableFailure ∧ outcome ≠ .ambiguous then
        some (.valueError "record_retry accepts only retryable or ambiguous outcomes")
      else if leased.isFinalAttempt then some retryBudgetExhausted
      else if leased.attemptNumber < 1 then some (.valueError "attempt_count must be >= 1")
      else none
  | .deadLetter outcome _ _ _ _ =>
      if outcome = .delivered then
        some (.valueError "record_dead_letter requires a failure or ambiguous outcome")
      else none

/-- The terminal ledger status, for the operations that end the delivery. -/
def RecordCall.ledgerStatus : RecordCall → Option DeliveryStatus
  | .delivered .. => some .delivered
  | .retry .. => none
  | .deadLetter .. => some .failed

def RecordCall.target (leased : LeasedDelivery) : RecordCall → TransitionTarget
  | .delivered httpStatus _ completedAt =>
      ⟨.delivered, none, some httpStatus, none, some completedAt, completedAt⟩
  | .retry _ httpStatus errorClass _ completedAt backoffBaseSeconds =>
      ⟨.pending,
        some (completedAt + min (backoffBaseSeconds * 2 ^ (min (leased.attemptNumber - 1) 16).toNat)
          defaultBackoffCapSeconds),
        httpStatus, some errorClass, none, completedAt⟩
  | .deadLetter _ httpStatus errorClass _ completedAt =>
      ⟨.deadLetter, none, httpStatus, some errorClass, some completedAt, completedAt⟩

/-- The ledger part of a record operation. -/
def writeOutcomeLedger (leased : LeasedDelivery) (record : AttemptRecord) (candidateId : Int)
    (db : AlertDb) : Option DeliveryStatus → Except Failure AlertDb
  | none => .ok db
  | some status => writeTerminalLedger leased status record candidateId db

/-- The transaction of a record operation. -/
def commitOutcome (leased : LeasedDelivery) (record : AttemptRecord)
    (ledgerStatus : Option DeliveryStatus) (target : TransitionTarget) (ids : SequenceValues)
    (db : AlertDb) : Except Failure AlertDb := do
  let db ← appendAttemptEvent leased record ids.attemptEventId db
  let db ← writeOutcomeLedger leased record ids.deliveryAttemptId db ledgerStatus
  transition leased target db

section Record

variable {db next : AlertDb} {leased : LeasedDelivery} {ids : SequenceValues}

private theorem bind_ok_self (first : Except Failure AlertDb) :
    (first >>= fun db => .ok db) = first := by
  cases first <;> rfl

theorem RecordCall.run_eq (call : RecordCall) :
    call.run leased ids db =
      match call.argumentError leased with
      | some error => .error error
      | none => commitOutcome leased call.record call.ledgerStatus (call.target leased) ids db := by
  cases call with
  | delivered httpStatus startedAt completedAt =>
      simp only [run, recordDelivered, argumentError]
      split
      · rfl
      · simp only [map_bind, Except.map_ok, bind_ok_self]
        rfl
  | retry outcome httpStatus errorClass startedAt completedAt backoffBaseSeconds =>
      simp only [run, recordRetry, argumentError, backoffDelaySeconds]
      split
      · rfl
      split
      · rfl
      split
      · rfl
      · simp only [map_bind, Except.map_ok, bind_ok_self]
        rfl
  | deadLetter outcome httpStatus errorClass startedAt completedAt =>
      simp only [run, recordDeadLetter, argumentError]
      split
      · rfl
      · simp only [map_bind, Except.map_ok, bind_ok_self]
        rfl

theorem appendAttemptEvent_ok {record : AttemptRecord} {candidateId : Int}
    (accepted : appendAttemptEvent leased record candidateId db = .ok next) :
    (∃ row ∈ db.outbox, activeLease leased row = true) ∧
      ∃ id, insertAttemptEvent true db (attemptEventRow leased record id) = .ok next := by
  unfold appendAttemptEvent at accepted
  split at accepted
  case isTrue active => exact ⟨List.any_eq_true.mp active, _, liftSql_eq_ok.mp accepted⟩
  case isFalse => cases accepted

theorem transition_ok {target : TransitionTarget}
    (accepted : transition leased target db = .ok next) :
    updateOutbox (holdsLease leased) target.progress db = .ok next ∧
      ∃ row ∈ db.outbox, holdsLease leased row = true := by
  simp only [transition, bind_eq_ok, liftSql_eq_ok] at accepted
  obtain ⟨result, update, accepted⟩ := accepted
  split at accepted
  case isTrue held => exact ⟨Except.ok.inj accepted ▸ update, List.any_eq_true.mp held⟩
  case isFalse => cases accepted

/-- The ledger row a terminal outcome leaves when the evaluation had none. -/
def terminalLedgerRow (leased : LeasedDelivery) (status : DeliveryStatus)
    (record : AttemptRecord) (deliveryAttemptId : Int) : LedgerRow :=
  (ledgerRow leased record.completedAt deliveryAttemptId).set
    ⟨status, leased.attemptNumber, record.httpStatus, record.errorClass, some record.completedAt⟩

/-- Without a CLAIMED row from elsewhere, the ledger of the evaluation is written
once and then left alone. -/
theorem writeTerminalLedger_ok {status : DeliveryStatus} {record : AttemptRecord}
    {candidateId : Int} (noClaim : ∀ entry ∈ db.ledger, entry.status ≠ .claimed)
    (accepted : writeTerminalLedger leased status record candidateId db = .ok next) :
    (next = db ∧ (db.ledgerRow? leased.tenantId leased.evaluationId).isSome) ∨
      (∃ id, next =
        { db with ledger := db.ledger ++ [terminalLedgerRow leased status record id] }) ∧
        db.ledgerRow? leased.tenantId leased.evaluationId = none := by
  simp only [writeTerminalLedger, bind_eq_ok, liftSql_eq_ok, updateLedger_eq_ok] at accepted
  obtain ⟨result, insert, tables, -⟩ := accepted
  have untouched : db.ledger.map (fun row : LedgerRow =>
      if (row.tenantId == leased.tenantId && row.evaluationId == leased.evaluationId &&
        row.status == .claimed) then
        row.set ⟨status, leased.attemptNumber, record.httpStatus, record.errorClass,
          some record.completedAt⟩
      else row) = db.ledger := by
    refine (List.map_congr_left fun row member => if_neg ?_).trans (List.map_id db.ledger)
    simp [noClaim row member]
  obtain ⟨rfl, present⟩ | ⟨rfl, missing⟩ := insertLedger_ok insert
  · exact .inl ⟨by rw [tables, untouched], present⟩
  · refine .inr ⟨⟨identityValue candidateId (db.ledger.map (·.deliveryAttemptId)), ?_⟩, missing⟩
    rw [tables, List.map_append, untouched]
    simp [ledgerRow, terminalLedgerRow]

/-- What the ledger part of an outcome does. -/
def LedgerWritten (leased : LeasedDelivery) (record : AttemptRecord) (db next : AlertDb) :
    Option DeliveryStatus → Prop
  | none => next.ledger = db.ledger
  | some status =>
      (next.ledger = db.ledger ∧ (db.ledgerRow? leased.tenantId leased.evaluationId).isSome) ∨
        (∃ id, next.ledger = db.ledger ++ [terminalLedgerRow leased status record id]) ∧
          db.ledgerRow? leased.tenantId leased.evaluationId = none

theorem writeOutcomeLedger_ok {record : AttemptRecord} {candidateId : Int}
    {ledgerStatus : Option DeliveryStatus}
    (accepted : writeOutcomeLedger leased record candidateId db ledgerStatus = .ok next) :
    (∃ ledger, next = { db with ledger := ledger }) ∧
      ((∀ entry ∈ db.ledger, entry.status ≠ .claimed) →
        LedgerWritten leased record db next ledgerStatus) := by
  cases ledgerStatus with
  | none =>
      obtain rfl : db = next := Except.ok.inj accepted
      exact ⟨⟨db.ledger, rfl⟩, fun _ => rfl⟩
  | some status =>
      simp only [writeOutcomeLedger] at accepted
      refine ⟨?_, fun noClaim => ?_⟩
      · simp only [writeTerminalLedger, bind_eq_ok, liftSql_eq_ok, updateLedger_eq_ok] at accepted
        obtain ⟨result, insert, rfl, -⟩ := accepted
        obtain ⟨rfl, -⟩ | ⟨rfl, -⟩ := insertLedger_ok insert <;> exact ⟨_, rfl⟩
      · obtain ⟨rfl, present⟩ | ⟨⟨id, rfl⟩, missing⟩ := writeTerminalLedger_ok noClaim accepted
        · exact .inl ⟨rfl, present⟩
        · exact .inr ⟨⟨id, rfl⟩, missing⟩

/-- What a committed outcome did. -/
structure OutcomeCommit (leased : LeasedDelivery) (record : AttemptRecord)
    (ledgerStatus : Option DeliveryStatus) (target : TransitionTarget) (db next : AlertDb) :
    Prop where
  active : ∃ row ∈ db.outbox, activeLease leased row = true
  outbox : next.outbox = db.outbox.map (rewriteOutbox (holdsLease leased) target.progress)
  evaluations : next.evaluations = db.evaluations
  attemptEvents : (next.attemptEvents = db.attemptEvents ∧
      (db.attemptEvent? leased.outboxId leased.attemptNumber).isSome) ∨
    ∃ id, next.attemptEvents = db.attemptEvents ++ [attemptEventRow leased record id]
  ledger : (∀ entry ∈ db.ledger, entry.status ≠ .claimed) →
    LedgerWritten leased record db next ledgerStatus

theorem commitOutcome_ok {record : AttemptRecord} {ledgerStatus : Option DeliveryStatus}
    {target : TransitionTarget}
    (accepted : commitOutcome leased record ledgerStatus target ids db = .ok next) :
    OutcomeCommit leased record ledgerStatus target db next := by
  simp only [commitOutcome, bind_eq_ok] at accepted
  obtain ⟨recorded, append, ledgered, ledger, move⟩ := accepted
  obtain ⟨active, id, insert⟩ := appendAttemptEvent_ok append
  obtain ⟨⟨entries, rfl⟩, written⟩ := writeOutcomeLedger_ok ledger
  obtain ⟨rfl, -⟩ := updateOutbox_eq_ok.mp (transition_ok move).1
  obtain ⟨-, -, ⟨rfl, present⟩ | ⟨rfl, -⟩⟩ := insertAttemptEvent_ok insert
  · exact ⟨active, rfl, rfl, .inl ⟨rfl, present⟩, written⟩
  · exact ⟨active, rfl, rfl, .inr ⟨id, rfl⟩, written⟩

end Record

/-! ## Re-drive -/

/-- The WHERE clause of the re-drive. -/
def redriveTarget (request : RedriveRequest) (row : OutboxRow) : Bool :=
  row.tenantId == request.tenantId && row.outboxId == request.outboxId && row.state == .deadLetter

/-- What a committed re-drive did: the selected rows are pending again, under a
ceiling above their attempt count. -/
structure RedriveCommit (request : RedriveRequest) (db next : AlertDb) (ceiling : Int) :
    Prop where
  update : updateOutbox (redriveTarget request) (redriveProgress request ceiling) db = .ok next
  selected : ∃ row ∈ db.outbox, redriveTarget request row = true ∧
    ceiling = min (row.attemptCount + request.additionalAttempts) maxAttemptCeiling ∧
    row.attemptCount < ceiling

theorem redrive_ok {db next : AlertDb} {request : RedriveRequest} {done : Unit}
    (accepted : redrive request db = .ok (done, next)) :
    ∃ ceiling, RedriveCommit request db next ceiling := by
  simp only [redrive] at accepted
  split at accepted
  case isTrue => cases accepted
  split at accepted
  case h_1 => cases accepted
  case h_2 row found =>
    split at accepted
    case isTrue => cases accepted
    case isFalse dead =>
      split at accepted
      case isTrue => cases accepted
      case isFalse ceiling =>
        simp only [bind_eq_ok, liftSql_eq_ok, Except.ok.injEq, Prod.mk.injEq] at accepted
        obtain ⟨result, update, -, rfl⟩ := accepted
        have selected := List.find?_some found
        simp only [Bool.and_eq_true, beq_iff_eq] at selected
        refine ⟨_, update, row, List.mem_of_find?_eq_some found, ?_, rfl, by omega⟩
        simp [redriveTarget, selected, not_not.mp dead]

/-! ## Repository transactions issue only statements of the role -/

theorem evidenceInvariant_lease {db next : AlertDb} {request : LeaseRequest}
    {locked : Int → Bool} {batch : List LeasedDelivery} (invariant : EvidenceInvariant db)
    (accepted : lease request locked db = .ok (batch, next)) : EvidenceInvariant next := by
  have commit := lease_ok accepted
  exact evidenceInvariant_updateOutbox invariant
    (updateOutbox_eq_ok.mpr ⟨commit.tables, commit.accepted⟩)

theorem evidenceInvariant_enqueue {db next : AlertDb} {request : EnqueueRequest}
    {candidateId : Int} {inserted : Option Int} (invariant : EvidenceInvariant db)
    (accepted : enqueueInTransaction request candidateId db = .ok (inserted, next)) :
    EvidenceInvariant next := by
  obtain rfl | ⟨id, -, -, -, flag, insert⟩ := enqueueInTransaction_ok accepted
  · exact invariant
  · exact evidenceInvariant_insertOutbox invariant insert

theorem evidenceInvariant_commitOutcome {db next : AlertDb} {leased : LeasedDelivery}
    {record : AttemptRecord} {ledgerStatus : Option DeliveryStatus} {target : TransitionTarget}
    {ids : SequenceValues} (invariant : EvidenceInvariant db)
    (accepted : commitOutcome leased record ledgerStatus target ids db = .ok next) :
    EvidenceInvariant next := by
  simp only [commitOutcome, bind_eq_ok] at accepted
  obtain ⟨recorded, append, ledgered, ledger, move⟩ := accepted
  obtain ⟨-, id, insert⟩ := appendAttemptEvent_ok append
  have afterEvent := evidenceInvariant_insertAttemptEvent invariant insert
  have afterLedger : EvidenceInvariant ledgered := by
    cases ledgerStatus with
    | none => exact Except.ok.inj ledger ▸ afterEvent
    | some status =>
        simp only [writeOutcomeLedger, writeTerminalLedger, bind_eq_ok, liftSql_eq_ok] at ledger
        obtain ⟨claimed, claim, complete⟩ := ledger
        exact evidenceInvariant_updateLedger (evidenceInvariant_insertLedger afterEvent claim)
          complete
  exact evidenceInvariant_updateOutbox afterLedger (transition_ok move).1

theorem evidenceInvariant_redrive {db next : AlertDb} {request : RedriveRequest} {ceiling : Int}
    (invariant : EvidenceInvariant db) (commit : RedriveCommit request db next ceiling) :
    EvidenceInvariant next :=
  evidenceInvariant_updateOutbox invariant commit.update

end StockoutOps.Alerting
