import StockoutOps.Alerting.OutboxRuns

/-!
Contract: which transactions the database accepts.

Owns: the CHECK constraints of an outbox row as one structure, and the
conditions under which a lease and a re-drive commit.

Does not own: when those conditions hold.
-/

namespace StockoutOps.Alerting

open StockoutOps.Sql

/-- The constraints on the columns fixed at insert. -/
structure IdentityChecks (row : OutboxIdentity) : Prop where
  tenantId : 0 < row.tenantId.length
  alertFingerprint : isHex64 row.alertFingerprint = true
  transition : row.transition = .fired ∨ row.transition = .resolved
  destinationHost : lengthBetween 1 253 row.destinationHost = true
  payloadHash : isHex64 row.payloadHash = true
  idempotencyKey : lengthBetween 1 500 row.idempotencyKey = true

/-- The constraints on the columns an UPDATE may set. -/
structure ProgressChecks (row : OutboxProgress) : Prop where
  attemptCount : 0 ≤ row.attemptCount ∧ row.attemptCount ≤ 100
  maxAttempts : 1 ≤ row.maxAttempts ∧ row.maxAttempts ≤ 100
  redriveCount : 0 ≤ row.redriveCount ∧ row.redriveCount ≤ 100
  leaseOwner : nullOr (lengthBetween 1 200) row.leaseOwner = true
  lastErrorClass : nullOr (lengthBetween 1 100) row.lastErrorClass = true
  lastHttpStatus : nullOr httpStatusInRange row.lastHttpStatus = true
  lease : (row.state = .inFlight ∧ row.leaseOwner.isSome ∧ row.leaseExpiresAt.isSome) ∨
    (row.state ≠ .inFlight ∧ row.leaseOwner = none ∧ row.leaseExpiresAt = none)
  terminal : ((row.state = .delivered ∨ row.state = .deadLetter) ∧ row.completedAt.isSome) ∨
    ((row.state = .pending ∨ row.state = .inFlight) ∧ row.completedAt = none)
  deliveredEvidence : row.state ≠ .delivered ∨
    (1 ≤ row.attemptCount ∧ row.lastHttpStatus.any isSuccessStatus ∧ row.lastErrorClass = none)
  deadLetterEvidence : row.state ≠ .deadLetter ∨
    (1 ≤ row.attemptCount ∧ row.lastErrorClass.any notBlank)

theorem outboxChecks_iff {row : OutboxRow} : (∀ check ∈ row.checks, check.2 = true) ↔
    IdentityChecks row.toOutboxIdentity ∧ ProgressChecks row.toOutboxProgress := by
  simp only [OutboxRow.checks, List.forall_mem_cons, List.not_mem_nil, false_implies,
    implies_true, and_true, decide_eq_true_eq]
  constructor
  · rintro ⟨c1, c2, c3, c4, c5, c6, c7, c8, c9, c10, c11, c12, c13, c14, c15, c16⟩
    exact ⟨⟨c1, c2, c3, c4, c5, c6⟩, ⟨c7, c8, c9, c10, c11, c12, c13, c14, c15, c16⟩⟩
  · rintro ⟨⟨c1, c2, c3, c4, c5, c6⟩, ⟨c7, c8, c9, c10, c11, c12, c13, c14, c15, c16⟩⟩
    exact ⟨c1, c2, c3, c4, c5, c6, c7, c8, c9, c10, c11, c12, c13, c14, c15, c16⟩

section Acceptance

variable {db : AlertDb} {row : OutboxRow}

theorem progressChecks (invariant : EvidenceInvariant db) (member : row ∈ db.outbox) :
    ProgressChecks row.toOutboxProgress :=
  (outboxChecks_iff.mp (invariant.rowChecks row member)).2

theorem identityChecks (invariant : EvidenceInvariant db) (member : row ∈ db.outbox) :
    IdentityChecks row.toOutboxIdentity :=
  (outboxChecks_iff.mp (invariant.rowChecks row member)).1

/-! ## Lease -/

/-- A worker id the lease column takes, a lease that lasts and a batch to fill. -/
structure LeaseRequest.Valid (request : LeaseRequest) : Prop where
  workerId : lengthBetween 1 200 request.workerId = true
  leaseSeconds : 0 < request.leaseSeconds
  batchSize : 1 ≤ request.batchSize

theorem progressChecks_lease {request : LeaseRequest} (valid : request.Valid)
    (checks : ProgressChecks row.toOutboxProgress) (due : leasable request.now row = true) :
    ProgressChecks (leaseProgress request row) := by
  simp only [leasable, Bool.and_eq_true, decide_eq_true_eq, Bool.or_eq_true] at due
  obtain ⟨⟨-, claimable⟩, budget⟩ := due
  have active : row.state = .pending ∨ row.state = .inFlight := claimable.imp id (·.1)
  have attempts := checks.attemptCount
  have ceiling := checks.maxAttempts
  have incomplete : row.completedAt = none := by
    rcases checks.terminal with ⟨final, -⟩ | ⟨-, none⟩
    · rcases active with state | state <;> simp [state] at final
    · exact none
  refine ⟨?_, checks.maxAttempts, checks.redriveCount, valid.workerId, checks.lastErrorClass,
    checks.lastHttpStatus, .inl ⟨rfl, rfl, rfl⟩, .inr ⟨.inr rfl, incomplete⟩,
    .inl (fun same => by cases same), .inl fun same => by cases same⟩
  show 0 ≤ row.attemptCount + 1 ∧ row.attemptCount + 1 ≤ 100
  omega

theorem guard_lease {request : LeaseRequest} (valid : request.Valid)
    (due : leasable request.now row = true) :
    guardAlertOutboxUpdate db row (row.set (leaseProgress request row)) = .ok () := by
  simp only [leasable, Bool.and_eq_true, decide_eq_true_eq, Bool.or_eq_true] at due
  obtain ⟨⟨dueAt, claimable⟩, -⟩ := due
  have expiry : ∀ expiry, some (request.now + request.leaseSeconds) = some expiry →
      request.now < expiry := by
    intro expiry same
    obtain rfl := Option.some.inj same
    exact Int.lt_add_of_pos_right _ valid.leaseSeconds
  simp only [guardAlertOutboxUpdate, guard_bind_eq_ok, guardOutboxShape_eq_ok,
    guardOutboxLease_eq_ok, guardOutboxRedrive_eq_ok]
  refine ⟨⟨rfl, ?_, ?_, ?_, Int.le_refl _⟩, ⟨fun _ _ => ⟨rfl, dueAt, expiry⟩, fun inFlight _ =>
    ⟨rfl, fun old found => ?_, expiry⟩⟩, ?_, fun changed => absurd rfl changed,
      fun _ same => by cases same⟩
  · rcases claimable with state | ⟨state, -⟩ <;> simp [state]
  · show permittedTransition row.state .inFlight = true
    rcases claimable with state | ⟨state, -⟩ <;> simp [state, permittedTransition]
  · show row.attemptCount ≤ row.attemptCount + 1
    omega
  · rcases claimable with state | ⟨-, expired⟩
    · simp [inFlight] at state
    · rw [found] at expired
      exact of_decide_eq_true expired
  · exact if_neg (fun leaves => leaves.2 rfl)

/-- A valid lease commits. -/
theorem lease_accepted {request : LeaseRequest} (locked : Int → Bool)
    (invariant : EvidenceInvariant db) (valid : request.Valid) :
    ∃ batch next, lease request locked db = .ok (batch, next) := by
  have named : request.workerId.isEmpty = false := by
    have length := valid.workerId
    simp only [lengthBetween, Bool.and_eq_true, decide_eq_true_eq] at length
    rw [Bool.eq_false_iff]
    intro empty
    rw [String.isEmpty_iff] at empty
    simp [empty] at length
  have batch : ¬ request.batchSize < 1 := by
    have size := valid.batchSize
    omega
  unfold lease
  rw [named]
  simp only [Bool.false_eq_true, if_false, if_neg batch]
  split
  · exact ⟨_, _, rfl⟩
  · have update : updateOutbox
        (fun row => (leaseCandidates request locked db).contains row.outboxId)
        (leaseProgress request) db = .ok _ :=
      updateOutbox_eq_ok.mpr ⟨rfl, fun row member claimed => ?_⟩
    · rw [update]
      exact ⟨_, _, rfl⟩
    · have due := leasable_of_claims invariant.uniqueIds member claimed
      refine ⟨guard_lease valid due, checkAll_eq_ok.mpr (outboxChecks_iff.mpr
        ⟨(identityChecks invariant member :), ?_⟩)⟩
      exact progressChecks_lease valid (progressChecks invariant member) due

/-! ## Re-drive -/

theorem progressChecks_redrive {request : RedriveRequest} {ceiling : Int}
    (checks : ProgressChecks row.toOutboxProgress) (counters : Counters row.toOutboxProgress)
    (dead : row.state = .deadLetter) (raised : row.attemptCount < ceiling)
    (bounded : ceiling ≤ 100) : ProgressChecks (redriveProgress request ceiling row) := by
  have attempts := checks.attemptCount
  have used := counters.used (by simp [dead])
  have nonneg := counters.nonneg
  refine ⟨checks.attemptCount, ?_, ?_, rfl, checks.lastErrorClass, checks.lastHttpStatus,
    .inr ⟨nofun, rfl, rfl⟩, .inr ⟨.inl rfl, rfl⟩, .inl nofun, .inl nofun⟩
  · show 1 ≤ ceiling ∧ ceiling ≤ 100
    omega
  · show 0 ≤ row.redriveCount + 1 ∧ row.redriveCount + 1 ≤ 100
    omega

theorem guard_redrive {request : RedriveRequest} {ceiling : Int} (dead : row.state = .deadLetter) :
    guardAlertOutboxUpdate db row (row.set (redriveProgress request ceiling row)) = .ok () := by
  simp only [guardAlertOutboxUpdate, guard_bind_eq_ok, guardOutboxShape_eq_ok,
    guardOutboxLease_eq_ok, guardOutboxRedrive_eq_ok]
  refine ⟨⟨rfl, by simp [dead], ?_, Int.le_refl _, ?_⟩,
    ⟨fun pending => absurd pending (by simp [dead]),
      fun inFlight => absurd inFlight (by simp [dead])⟩,
    if_neg (fun leaves => absurd leaves.1 (by simp [dead])), fun _ => ⟨dead, rfl⟩, fun _ _ => rfl⟩
  · show permittedTransition row.state .pending = true
    simp [dead, permittedTransition]
  · show row.redriveCount ≤ row.redriveCount + 1
    omega

/-- The row of a re-drive is found by its tenant and id. -/
theorem find?_redriveRow {request : RedriveRequest} (unique : (db.outbox.map (·.outboxId)).Nodup)
    (member : row ∈ db.outbox) (tenant : request.tenantId = row.tenantId)
    (id : request.outboxId = row.outboxId) :
    db.outbox.find? (fun row =>
      row.tenantId == request.tenantId && row.outboxId == request.outboxId) = some row := by
  cases lookup : db.outbox.find? (fun row =>
      row.tenantId == request.tenantId && row.outboxId == request.outboxId) with
  | none =>
      have missing := List.find?_eq_none.mp lookup row member
      simp [tenant, id] at missing
  | some other =>
      have selected := List.find?_some lookup
      simp only [Bool.and_eq_true, beq_iff_eq] at selected
      rw [eq_of_outboxId_eq unique (List.mem_of_find?_eq_some lookup) member
        (selected.2.trans id)]

/-- A dead-lettered row below the attempt ceiling can be re-driven. -/
theorem redrive_accepted (request : RedriveRequest) (invariant : EvidenceInvariant db)
    (member : row ∈ db.outbox) (counters : Counters row.toOutboxProgress)
    (dead : row.state = .deadLetter) (below : row.attemptCount < 100)
    (tenant : request.tenantId = row.tenantId) (id : request.outboxId = row.outboxId)
    (additional : 1 ≤ request.additionalAttempts) :
    ∃ next, redrive request db = .ok ((), next) := by
  have found := find?_redriveRow invariant.uniqueIds member tenant id
  have ceiling : row.attemptCount <
      min (row.attemptCount + request.additionalAttempts) maxAttemptCeiling := by
    unfold maxAttemptCeiling
    omega
  have update : updateOutbox (redriveTarget request)
      (redriveProgress request
        (min (row.attemptCount + request.additionalAttempts) maxAttemptCeiling)) db = .ok _ :=
    updateOutbox_eq_ok.mpr ⟨rfl, fun other otherMember selected => ?_⟩
  · unfold redriveTarget at update
    simp only [redrive, found, dead, ne_eq, not_true_eq_false, if_false, update, liftSql]
    rw [if_neg (by omega), if_neg (by omega)]
    exact ⟨_, rfl⟩
  · simp only [redriveTarget, Bool.and_eq_true, beq_iff_eq] at selected
    obtain rfl := eq_of_outboxId_eq invariant.uniqueIds otherMember member
      (selected.1.2.trans id)
    refine ⟨guard_redrive dead, checkAll_eq_ok.mpr (outboxChecks_iff.mpr
      ⟨(identityChecks invariant member :), ?_⟩)⟩
    refine progressChecks_redrive (progressChecks invariant member) counters dead ceiling ?_
    unfold maxAttemptCeiling
    omega

end Acceptance

/-! ## Outcomes -/

/-- What the tables require of the evidence of one attempt. -/
structure AttemptRecord.Storable (record : AttemptRecord) : Prop where
  httpStatus : nullOr httpStatusInRange record.httpStatus = true
  errorClass :
    nullOr (fun text => lengthBetween 1 100 text && notBlank text) record.errorClass = true
  evidence :
    (record.outcome = .delivered ∧ record.httpStatus.any isSuccessStatus ∧
      record.errorClass = none) ∨
    (record.outcome = .ambiguous ∧ record.httpStatus = none ∧ record.errorClass.isSome) ∨
    ((record.outcome = .retryableFailure ∨ record.outcome = .permanentFailure) ∧
      record.errorClass.isSome ∧ nullOr (fun status => !isSuccessStatus status) record.httpStatus)

/-- What the trigger requires of the choice between the three outcomes. -/
structure RecordCall.Fits (leased : LeasedDelivery) (call : RecordCall) : Prop where
  arguments : call.argumentError leased = none
  exhausted : (call.target leased).state = .deadLetter →
    call.record.outcome = .retryableFailure ∨ call.record.outcome = .ambiguous →
      leased.maxAttempts ≤ leased.attemptNumber

section Outcome

variable {state : OutboxSystem} {leased : LeasedDelivery} {row : OutboxRow}

theorem AttemptRecord.Storable.errorClass_length {record : AttemptRecord}
    (storable : record.Storable) : nullOr (lengthBetween 1 100) record.errorClass = true := by
  have class_ := storable.errorClass
  cases text : record.errorClass with
  | none => rfl
  | some text' =>
      rw [text] at class_
      exact (Bool.and_eq_true_iff.mp class_).1

/-- The event of the active attempt is accepted and is the first of its number. -/
theorem insertAttemptEvent_accepted {record : AttemptRecord} {id : Int}
    (invariant : OutboxInvariant state) (handedOut : leased ∈ state.handedOut)
    (member : row ∈ state.db.outbox) (active : activeLease leased row = true)
    (storable : record.Storable) (fresh : id ∉ state.db.attemptEvents.map (·.attemptEventId)) :
    insertAttemptEvent true state.db (attemptEventRow leased record id) =
        .ok { state.db with
          attemptEvents := state.db.attemptEvents ++ [attemptEventRow leased record id] } ∧
      state.db.attemptEvent? row.outboxId row.attemptCount = none := by
  obtain ⟨identity, inFlight, number, owner, -⟩ := active_row invariant handedOut member active
  have rowInvariant := invariant.rows row member
  have progress := progressChecks invariant.evidence member
  have fixed := identityChecks invariant.evidence member
  have lookup := (outboxRow?_eq_some_iff invariant.evidence.uniqueIds).mpr ⟨member, rfl⟩
  have first : state.db.attemptEvent? row.outboxId row.attemptCount = none := by
    refine List.find?_eq_none.mpr fun event recorded selected => ?_
    simp only [Bool.and_eq_true, beq_iff_eq] at selected
    have below := (rowInvariant.events event recorded selected.1).2 inFlight
    omega
  have guard : guardAlertDeliveryAttemptEventInsert state.db (attemptEventRow leased record id) =
      .ok () := by
    simp only [guardAlertDeliveryAttemptEventInsert, attemptEventRow, identity.outboxId, lookup]
    simp [identity.tenantId, identity.evaluationId, identity.idempotencyKey, inFlight, number,
      owner]
  have checks : checkAll (attemptEventRow leased record id).checks = .ok () := by
    have leaseOwner := progress.leaseOwner
    rw [owner] at leaseOwner
    have used := rowInvariant.counters.used (by simp [inFlight])
    have nonneg := rowInvariant.counters.nonneg
    have attempts := progress.attemptCount
    have numbers : 1 ≤ leased.attemptNumber ∧ leased.attemptNumber ≤ 100 := by omega
    refine checkAll_eq_ok.mpr ?_
    simp only [AttemptEventRow.checks, List.forall_mem_cons, List.not_mem_nil, false_implies,
      implies_true, and_true, decide_eq_true_eq]
    have tenant : 0 < leased.tenantId.length := identity.tenantId ▸ fixed.tenantId
    have key : lengthBetween 1 500 leased.idempotencyKey = true :=
      identity.idempotencyKey ▸ fixed.idempotencyKey
    exact ⟨tenant, numbers, storable.httpStatus, storable.errorClass_length, leaseOwner, key,
      storable.evidence⟩
  obtain ⟨evaluation, found, -⟩ := rowInvariant.evaluation
  refine ⟨insertAttemptEvent_eq_ok guard checks ?_ (fun event recorded same => ?_) ?_, first⟩
  · show state.db.attemptEvent? leased.outboxId leased.attemptNumber = none
    rw [identity.outboxId, ← number]
    exact first
  · exact fresh (List.mem_map.mpr ⟨event, recorded, same⟩)
  · show (state.db.evaluation? leased.evaluationId).isSome = true
    rw [identity.evaluationId, found]
    rfl

/-- A ledger row of the delivery, claimed or completed, has the outbox row's columns. -/
theorem ledgerIdentity_checks {row : OutboxIdentity} (identity : LeasedFrom leased row)
    (fixed : IdentityChecks row) :
    0 < leased.tenantId.length ∧ isHex64 leased.alertFingerprint = true ∧
      (leased.transition = .fired ∨ leased.transition = .resolved) ∧
      lengthBetween 1 253 leased.destinationHost = true ∧ isHex64 leased.payloadHash = true := by
  rw [identity.tenantId, identity.alertFingerprint, identity.transition,
    identity.destinationHost, identity.payloadHash]
  exact ⟨fixed.tenantId, fixed.alertFingerprint, fixed.transition, fixed.destinationHost,
    fixed.payloadHash⟩

/-- The evidence a terminal ledger row needs beside its identity. -/
structure TerminalRecord (status : DeliveryStatus) (record : AttemptRecord) : Prop where
  storable : record.Storable
  evidence :
    (status = .delivered ∧ record.httpStatus.any isSuccessStatus ∧ record.errorClass = none) ∨
    (status = .failed ∧ record.errorClass.any notBlank ∧
      nullOr (fun code => !isSuccessStatus code) record.httpStatus)

/-- The ledger of a terminal outcome is accepted: a first outcome adds its row, a
later one leaves the row of the earlier dead letter. -/
theorem writeTerminalLedger_accepted {db : AlertDb} {status : DeliveryStatus}
    {record : AttemptRecord} {candidateId : Int} {evaluation : EvaluationRow}
    (identity : LeasedFrom leased row.toOutboxIdentity)
    (fixed : IdentityChecks row.toOutboxIdentity)
    (number : 1 ≤ leased.attemptNumber ∧ leased.attemptNumber ≤ 100)
    (found : db.evaluation? row.evaluationId = some evaluation)
    (reported : EvaluationOf evaluation row.toOutboxIdentity)
    (noClaim : ∀ entry ∈ db.ledger, entry.status ≠ .claimed)
    (terminal : TerminalRecord status record) :
    ∃ next, writeTerminalLedger leased status record candidateId db = .ok next := by
  obtain ⟨tenant, fingerprint, transition, host, payload⟩ := ledgerIdentity_checks identity fixed
  have guard : guardAlertDeliveryAttemptInsert db (ledgerRow leased record.completedAt
      (identityValue candidateId (db.ledger.map (·.deliveryAttemptId)))) = .ok () := by
    simp only [guardAlertDeliveryAttemptInsert, guard_bind_eq_ok, raiseIf_eq_ok, ledgerRow,
      identity.evaluationId, found]
    simp [identity.tenantId, identity.alertFingerprint, identity.transition, reported.tenantId,
      reported.alertFingerprint, reported.transition]
  have claimedChecks : checkAll (ledgerRow leased record.completedAt
      (identityValue candidateId (db.ledger.map (·.deliveryAttemptId)))).checks = .ok () := by
    refine checkAll_eq_ok.mpr ?_
    simp only [LedgerRow.checks, List.forall_mem_cons, List.not_mem_nil, false_implies,
      implies_true, and_true, decide_eq_true_eq]
    have unattempted : (0 : Int) ≤ 0 ∧ (0 : Int) ≤ 100 := by decide
    exact ⟨tenant, fingerprint, transition, host, unattempted, rfl, rfl, payload, .inl rfl⟩
  have insert := insertLedger_eq_ok guard claimedChecks (fun entry member same =>
    identityValue_not_mem candidateId (db.ledger.map (·.deliveryAttemptId))
      (List.mem_map.mpr ⟨entry, member, same⟩))
  simp only [writeTerminalLedger, insert, liftSql, bind, Except.bind]
  refine ⟨_, liftSql_eq_ok.mpr (updateLedger_eq_ok.mpr ⟨rfl, fun entry member selected => ?_⟩)⟩
  simp only [Bool.and_eq_true, beq_iff_eq] at selected
  -- The only CLAIMED row is the one just inserted.
  have entry_eq : entry = ledgerRow leased record.completedAt
      (identityValue candidateId (db.ledger.map (·.deliveryAttemptId))) := by
    split at member
    case isTrue => exact absurd selected.2 (noClaim entry member)
    case isFalse =>
      rcases List.mem_append.mp member with old | fresh
      · exact absurd selected.2 (noClaim entry old)
      · exact List.mem_singleton.mp fresh
  subst entry_eq
  have statuses : status = .delivered ∨ status = .failed :=
    terminal.evidence.imp (·.1) (·.1)
  refine ⟨?_, checkAll_eq_ok.mpr ?_⟩
  · simp only [guardAlertDeliveryAttemptUpdate, guard_bind_eq_ok, raiseIf_eq_ok]
    refine ⟨by simp [ledgerRow], ?_, fun changed => changed rfl⟩
    rcases statuses with rfl | rfl <;> simp [ledgerRow, LedgerRow.set]
  · simp only [LedgerRow.checks, List.forall_mem_cons, List.not_mem_nil, false_implies,
      implies_true, and_true, decide_eq_true_eq]
    exact ⟨tenant, fingerprint, transition, host,
      ⟨by show 0 ≤ leased.attemptNumber; omega, number.2⟩,
      terminal.storable.httpStatus, terminal.storable.errorClass_length, payload,
      .inr ⟨number.1, number.2, rfl, terminal.evidence⟩⟩

/-- The columns an outcome writes are those of its evidence. -/
theorem RecordCall.target_evidence (call : RecordCall) (leased : LeasedDelivery) :
    (call.target leased).lastHttpStatus = call.record.httpStatus ∧
      (call.target leased).lastErrorClass = call.record.errorClass ∧
      (call.target leased).now = call.record.completedAt ∧
      (call.target leased).completedAt =
        if call.ledgerStatus.isSome then some call.record.completedAt else none := by
  cases call <;> exact ⟨rfl, rfl, rfl, rfl⟩

/-- The outcome of a call whose arguments were accepted. -/
theorem RecordCall.outcome_of_arguments {call : RecordCall} {leased : LeasedDelivery}
    (arguments : call.argumentError leased = none) :
    (call.ledgerStatus = some .delivered ∧ call.record.outcome = .delivered) ∨
      (call.ledgerStatus = none ∧
        (call.record.outcome = .retryableFailure ∨ call.record.outcome = .ambiguous)) ∨
      (call.ledgerStatus = some .failed ∧ call.record.outcome ≠ .delivered) := by
  cases call with
  | delivered => exact .inl ⟨rfl, rfl⟩
  | retry outcome =>
      refine .inr (.inl ⟨rfl, ?_⟩)
      simp only [argumentError] at arguments
      split at arguments
      case isTrue => cases arguments
      case isFalse accepted =>
        show outcome = .retryableFailure ∨ outcome = .ambiguous
        tauto
  | deadLetter outcome =>
      refine .inr (.inr ⟨rfl, ?_⟩)
      simp only [argumentError] at arguments
      split at arguments
      case isTrue => cases arguments
      case isFalse accepted => exact accepted

theorem terminalRecord_of_call {call : RecordCall} {status : DeliveryStatus}
    (arguments : call.argumentError leased = none) (storable : call.record.Storable)
    (terminal : call.ledgerStatus = some status) : TerminalRecord status call.record := by
  refine ⟨storable, ?_⟩
  have nonblank : call.record.errorClass.isSome → call.record.errorClass.any notBlank = true := by
    intro present
    obtain ⟨text, found⟩ := Option.isSome_iff_exists.mp present
    have class_ := storable.errorClass
    rw [found] at class_ ⊢
    exact (Bool.and_eq_true_iff.mp class_).2
  rcases RecordCall.outcome_of_arguments arguments with
    ⟨delivered, outcome⟩ | ⟨retry, -⟩ | ⟨failed, outcome⟩
  · obtain rfl : status = .delivered := Option.some.inj (terminal.symm.trans delivered)
    have evidence := storable.evidence
    simp only [outcome, reduceCtorEq, false_and, or_false, true_and] at evidence
    exact .inl ⟨rfl, evidence⟩
  · rw [retry] at terminal
    cases terminal
  · obtain rfl : status = .failed := Option.some.inj (terminal.symm.trans failed)
    refine .inr ⟨rfl, ?_⟩
    rcases storable.evidence with ⟨delivered, -⟩ | ⟨-, noStatus, present⟩ | ⟨-, present, status⟩
    · exact absurd delivered outcome
    · exact ⟨nonblank present, by rw [noStatus]; rfl⟩
    · exact ⟨nonblank present, status⟩

/-- The columns an outcome sets satisfy the constraints. -/
theorem progressChecks_outcome {call : RecordCall}
    (checks : ProgressChecks row.toOutboxProgress) (number : 1 ≤ row.attemptCount)
    (arguments : call.argumentError leased = none)
    (storable : call.record.Storable) :
    ProgressChecks ((call.target leased).progress row) := by
  obtain ⟨status, class_, -, completed⟩ := call.target_evidence leased
  have state := call.target_state leased
  have terminal := fun status => @terminalRecord_of_call leased call status arguments storable
  refine ⟨checks.attemptCount, checks.maxAttempts, checks.redriveCount, rfl, ?_, ?_,
    .inr ⟨?_, rfl, rfl⟩, ?_, ?_, ?_⟩
  · show nullOr (lengthBetween 1 100) (call.target leased).lastErrorClass = true
    rw [class_]
    exact storable.errorClass_length
  · show nullOr httpStatusInRange (call.target leased).lastHttpStatus = true
    rw [status]
    exact storable.httpStatus
  · show (call.target leased).state ≠ .inFlight
    rw [state]
    cases call <;> simp [RecordCall.ledgerStatus, outcomeState]
  · show (((call.target leased).state = .delivered ∨ (call.target leased).state = .deadLetter) ∧
        (call.target leased).completedAt.isSome) ∨
      (((call.target leased).state = .pending ∨ (call.target leased).state = .inFlight) ∧
        (call.target leased).completedAt = none)
    rw [state, completed]
    cases call <;> simp [RecordCall.ledgerStatus, outcomeState]
  · show (call.target leased).state ≠ .delivered ∨ (1 ≤ row.attemptCount ∧
      (call.target leased).lastHttpStatus.any isSuccessStatus ∧
        (call.target leased).lastErrorClass = none)
    rw [state, status, class_]
    cases call with
    | delivered =>
        rcases (terminal .delivered rfl).evidence with ⟨-, evidence⟩ | ⟨other, -⟩
        · exact .inr ⟨number, evidence⟩
        · cases other
    | retry | deadLetter => exact .inl fun same => by cases same
  · show (call.target leased).state ≠ .deadLetter ∨ (1 ≤ row.attemptCount ∧
      (call.target leased).lastErrorClass.any notBlank)
    rw [state, class_]
    cases call with
    | deadLetter =>
        rcases (terminal .failed rfl).evidence with ⟨other, -⟩ | ⟨-, evidence, -⟩
        · cases other
        · exact .inr ⟨number, evidence⟩
    | delivered | retry => exact .inl fun same => by cases same

/-- The event just recorded is the evidence the trigger asks for. -/
theorem guardOutcomeEvidence_accepted {call : RecordCall} {id : Int}
    (number : row.attemptCount = leased.attemptNumber)
    (owner : row.leaseOwner = some leased.leaseOwner)
    (budget : row.maxAttempts = leased.maxAttempts) (fits : call.Fits leased) :
    guardOutcomeEvidence (attemptEventRow leased call.record id) row
      (row.set ((call.target leased).progress row)) = .ok () := by
  obtain ⟨status, class_, now, -⟩ := call.target_evidence leased
  have outcome := RecordCall.outcome_of_arguments fits.arguments
  have state := call.target_state leased
  refine guardOutcomeEvidence_eq_ok.mpr ⟨⟨owner.symm, status.symm, class_.symm, now.symm⟩,
    fun delivered => ?_, fun pending => ?_, fun dead => ⟨?_, fun retryable => ?_⟩⟩
  · change (call.target leased).state = .delivered at delivered
    rw [state] at delivered
    rcases outcome with ⟨-, recorded⟩ | ⟨retry, -⟩ | ⟨failed, -⟩
    · exact recorded
    · simp [retry, outcomeState] at delivered
    · simp [failed, outcomeState] at delivered
  · change (call.target leased).state = .pending at pending
    have left := RecordCall.attempts_left fits.arguments pending
    rw [state] at pending
    rcases outcome with ⟨delivered, -⟩ | ⟨-, recorded⟩ | ⟨failed, -⟩
    · simp [delivered, outcomeState] at pending
    · refine ⟨recorded, ?_⟩
      show row.attemptCount < row.maxAttempts
      omega
    · simp [failed, outcomeState] at pending
  · change (call.target leased).state = .deadLetter at dead
    rw [state] at dead
    rcases outcome with ⟨delivered, -⟩ | ⟨retry, -⟩ | ⟨-, recorded⟩
    · simp [delivered, outcomeState] at dead
    · simp [retry, outcomeState] at dead
    · exact recorded
  · have exhausted := fits.exhausted dead retryable
    show row.maxAttempts ≤ row.attemptCount
    omega

/-- The ledger row the trigger selects for a terminal outcome fits it. -/
theorem guardOutcomeLedger_accepted {call : RecordCall} {status : DeliveryStatus}
    {db next : AlertDb} (agrees : LedgerAgrees row (db.ledgerRow? row.tenantId row.evaluationId))
    (inFlight : row.state = .inFlight) (number : row.attemptCount = leased.attemptNumber)
    (identity : LeasedFrom leased row.toOutboxIdentity) (terminal : call.ledgerStatus = some status)
    (written : LedgerWritten leased call.record db next (some status)) :
    ∃ entry, next.ledgerRow? row.tenantId row.evaluationId = some entry ∧
      guardOutcomeLedger entry row (row.set ((call.target leased).progress row)) = .ok () := by
  obtain ⟨httpStatus, class_, -, completed⟩ := call.target_evidence leased
  simp only [LedgerWritten, identity.tenantId, identity.evaluationId] at written
  obtain ⟨same, present⟩ | ⟨⟨id, appended⟩, missing⟩ := written
  · obtain ⟨entry, found⟩ := Option.isSome_iff_exists.mp present
    rw [found] at agrees
    obtain ⟨earlier, matches_, failed⟩ := agrees
    have redriven : 0 < row.redriveCount := by simpa [inFlight] using earlier
    refine ⟨entry, by rw [ledgerRow?_congr same, found], guardOutcomeLedger_eq_ok.mpr
      ⟨matches_, fun zero => ?_, fun _ => failed (.inl redriven)⟩⟩
    omega
  · rw [missing] at agrees
    refine ⟨terminalLedgerRow leased status call.record id, ?_, guardOutcomeLedger_eq_ok.mpr
      ⟨⟨identity.alertFingerprint, identity.transition, identity.destinationHost,
        identity.payloadHash⟩, fun _ => ⟨?_, number.symm, httpStatus.symm, class_.symm, ?_⟩,
        fun redriven => ?_⟩⟩
    · rw [ledgerRow?_append appended, missing, Option.none_or]
      exact if_pos ⟨identity.tenantId, identity.evaluationId⟩
    · show status = if (call.target leased).state = .delivered then .delivered else .failed
      rw [call.target_state leased, terminal]
      cases status with
      | claimed => exact absurd terminal call.ledgerStatus_ne_claimed
      | delivered => rfl
      | failed => rfl
    · show some call.record.completedAt = (call.target leased).completedAt
      rw [completed, terminal]
      rfl
    · have zero := agrees.1
      omega

theorem appendAttemptEvent_accepted {record : AttemptRecord} (candidateId : Int)
    (invariant : OutboxInvariant state) (handedOut : leased ∈ state.handedOut)
    (member : row ∈ state.db.outbox) (active : activeLease leased row = true)
    (storable : record.Storable) :
    ∃ id next, appendAttemptEvent leased record candidateId state.db = .ok next ∧
      next = { state.db with
        attemptEvents := state.db.attemptEvents ++ [attemptEventRow leased record id] } ∧
      next.attemptEvent? row.outboxId row.attemptCount =
        some (attemptEventRow leased record id) := by
  obtain ⟨identity, -, number, -, -⟩ := active_row invariant handedOut member active
  have fresh := identityValue_not_mem candidateId
    (state.db.attemptEvents.map (·.attemptEventId))
  obtain ⟨insert, first⟩ :=
    insertAttemptEvent_accepted invariant handedOut member active storable fresh
  have anyActive : state.db.outbox.any (activeLease leased) = true :=
    List.any_eq_true.mpr ⟨row, member, active⟩
  refine ⟨identityValue candidateId (state.db.attemptEvents.map (·.attemptEventId)), _, ?_, rfl, ?_⟩
  · unfold appendAttemptEvent
    rw [if_pos anyActive, insert]
    rfl
  · unfold AlertDb.attemptEvent? at first ⊢
    rw [List.find?_append, first, Option.none_or, List.find?_singleton, if_pos]
    simp [attemptEventRow, identity.outboxId, number]

/-- The UPDATE of an outcome is accepted once its event and its ledger row are
there. -/
theorem transition_accepted {call : RecordCall} (db : AlertDb) {id : Int}
    (invariant : OutboxInvariant state) (handedOut : leased ∈ state.handedOut)
    (member : row ∈ state.db.outbox) (active : activeLease leased row = true)
    (fits : call.Fits leased) (storable : call.record.Storable)
    (outbox : db.outbox = state.db.outbox)
    (event : db.attemptEvent? row.outboxId row.attemptCount =
      some (attemptEventRow leased call.record id))
    (ledger : ∀ status, call.ledgerStatus = some status →
      ∃ entry, db.ledgerRow? row.tenantId row.evaluationId = some entry ∧
        guardOutcomeLedger entry row (row.set ((call.target leased).progress row)) = .ok ()) :
    ∃ next, transition leased (call.target leased) db = .ok next := by
  obtain ⟨-, inFlight, number, owner, budget⟩ := active_row invariant handedOut member active
  have counters := (invariant.rows row member).counters
  have used := counters.used (by simp [inFlight])
  have nonneg := counters.nonneg
  have anyHeld : db.outbox.any (holdsLease leased) = true := by
    rw [outbox]
    exact List.any_eq_true.mpr
      ⟨row, member, (holdsLease_iff invariant handedOut member active member).mpr rfl⟩
  have leaves : (call.target leased).state ≠ .inFlight := by
    rw [call.target_state leased]
    cases call <;> simp [RecordCall.ledgerStatus, outcomeState]
  have update : ∃ next,
      updateOutbox (holdsLease leased) (call.target leased).progress db = .ok next := by
    refine ⟨_, updateOutbox_eq_ok.mpr ⟨rfl, fun other otherMember held => ?_⟩⟩
    rw [outbox] at otherMember
    obtain rfl := (holdsLease_iff invariant handedOut member active otherMember).mp held
    refine ⟨?_, checkAll_eq_ok.mpr (outboxChecks_iff.mpr
      ⟨(identityChecks invariant.evidence member :),
        progressChecks_outcome (progressChecks invariant.evidence member) (by omega)
          fits.arguments storable⟩)⟩
    simp only [guardAlertOutboxUpdate, guard_bind_eq_ok, guardOutboxShape_eq_ok,
      guardOutboxLease_eq_ok, guardOutboxRedrive_eq_ok]
    refine ⟨⟨rfl, by simp [inFlight], by rw [inFlight]; rfl, Int.le_refl _, Int.le_refl _⟩,
      ⟨fun pending => absurd pending (by simp [inFlight]), fun _ stays => absurd stays leaves⟩,
      (guardOutboxOutcome_eq_ok inFlight leaves).mpr
        ⟨rfl, ⟨_, event, guardOutcomeEvidence_accepted number owner budget fits⟩,
          fun terminal => ?_⟩,
      fun changed => absurd rfl changed, fun dead => absurd dead (by simp [inFlight])⟩
    change (call.target leased).state = .delivered ∨ (call.target leased).state = .deadLetter
      at terminal
    rw [call.target_state leased] at terminal
    cases status : call.ledgerStatus with
    | none => simp [status, outcomeState] at terminal
    | some terminalStatus => exact ledger terminalStatus status
  obtain ⟨next, update⟩ := update
  refine ⟨next, ?_⟩
  unfold transition
  rw [update]
  simp only [liftSql, bind, Except.bind]
  rw [if_pos anyHeld]

/-- An outcome that fits the delivery, with evidence the tables can hold, commits
while the lease is active. -/
theorem commitOutcome_accepted {call : RecordCall} (ids : SequenceValues)
    (invariant : OutboxInvariant state) (handedOut : leased ∈ state.handedOut)
    (member : row ∈ state.db.outbox) (active : activeLease leased row = true)
    (fits : call.Fits leased) (storable : call.record.Storable) :
    ∃ next, commitOutcome leased call.record call.ledgerStatus (call.target leased) ids state.db =
      .ok next := by
  obtain ⟨identity, inFlight, number, -, -⟩ := active_row invariant handedOut member active
  have rowInvariant := invariant.rows row member
  have used := rowInvariant.counters.used (by simp [inFlight])
  have nonneg := rowInvariant.counters.nonneg
  have attempts := (progressChecks invariant.evidence member).attemptCount
  obtain ⟨evaluation, found, reported⟩ := rowInvariant.evaluation
  obtain ⟨id, recorded, append, tables, event⟩ := appendAttemptEvent_accepted ids.attemptEventId
    invariant handedOut member active storable
  have ledgerKept : recorded.ledger = state.db.ledger := by rw [tables]
  have evaluationsKept : recorded.evaluations = state.db.evaluations := by rw [tables]
  have outboxKept : recorded.outbox = state.db.outbox := by rw [tables]
  have noClaim : ∀ entry ∈ recorded.ledger, entry.status ≠ .claimed := by
    rw [ledgerKept]
    exact invariant.noClaim
  have agrees : LedgerAgrees row (recorded.ledgerRow? row.tenantId row.evaluationId) := by
    rw [ledgerRow?_congr ledgerKept]
    exact rowInvariant.ledger
  have ledger : ∃ ledgered, writeOutcomeLedger leased call.record ids.deliveryAttemptId recorded
      call.ledgerStatus = .ok ledgered := by
    cases terminal : call.ledgerStatus with
    | none => exact ⟨_, rfl⟩
    | some status =>
        exact writeTerminalLedger_accepted identity (identityChecks invariant.evidence member)
          (by omega) ((evaluation?_congr evaluationsKept _).trans found) reported noClaim
          (terminalRecord_of_call fits.arguments storable terminal)
  obtain ⟨ledgered, ledger⟩ := ledger
  obtain ⟨⟨entries, rfl⟩, written⟩ := writeOutcomeLedger_ok ledger
  have terminalLedger : ∀ status, call.ledgerStatus = some status →
      ∃ entry, AlertDb.ledgerRow? { recorded with ledger := entries } row.tenantId
          row.evaluationId = some entry ∧
        guardOutcomeLedger entry row (row.set ((call.target leased).progress row)) = .ok () := by
    intro status terminal
    have written := written noClaim
    rw [terminal] at written
    exact guardOutcomeLedger_accepted agrees inFlight number identity terminal written
  obtain ⟨next, moved⟩ := transition_accepted { recorded with ledger := entries } invariant
    handedOut member active fits storable outboxKept event terminalLedger
  refine ⟨next, ?_⟩
  simp only [commitOutcome, append, ledger, bind, Except.bind]
  exact moved

end Outcome

end StockoutOps.Alerting
