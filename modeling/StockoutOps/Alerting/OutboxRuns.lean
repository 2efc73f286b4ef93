import StockoutOps.Alerting.OutboxSpec

/-!
Contract: the outbox under any number of workers.

Owns: the operations of writers, workers and operators in any order, the
deliveries handed out and the outcomes committed so far, and the invariant of
every reachable state (`OutboxInvariant`).

Does not own: what a single worker does between its lease and its outcome; a
crashed, paused or duplicated worker is a list of operations in which its next
one comes late, never, or more than once.
-/

namespace StockoutOps.Alerting

open StockoutOps.Sql

/-- The tables, with the deliveries handed out and the outcomes committed. -/
structure OutboxSystem where
  db : AlertDb
  handedOut : List LeasedDelivery
  recorded : List (Int × Int)

def OutboxSystem.initial : OutboxSystem := ⟨AlertDb.empty, [], []⟩

inductive OutboxOp where
  | appendEvaluation (row : EvaluationRow)
  | enqueue (request : EnqueueRequest) (candidateId : Int)
  | lease (request : LeaseRequest) (locked : Int → Bool)
  | record (leased : LeasedDelivery) (call : RecordCall) (ids : SequenceValues)
  | redrive (request : RedriveRequest)

/-- One transaction. An outcome can be recorded only for a delivery that was
handed out; a transaction that raises leaves no trace. -/
def OutboxSystem.step (state : OutboxSystem) : OutboxOp → OutboxSystem
  | .appendEvaluation row =>
      match insertEvaluation state.db row with
      | .ok db => { state with db := db }
      | .error _ => state
  | .enqueue request candidateId =>
      match enqueueInTransaction request candidateId state.db with
      | .ok (_, db) => { state with db := db }
      | .error _ => state
  | .lease request locked =>
      match lease request locked state.db with
      | .ok (batch, db) => { state with db := db, handedOut := state.handedOut ++ batch }
      | .error _ => state
  | .record leased call ids =>
      if leased ∈ state.handedOut then
        match call.run leased ids state.db with
        | .ok db =>
            { state with
              db := db
              recorded := state.recorded ++ [(leased.outboxId, leased.attemptNumber)] }
        | .error _ => state
      else state
  | .redrive request =>
      match redrive request state.db with
      | .ok (_, db) => { state with db := db }
      | .error _ => state

def OutboxSystem.run (state : OutboxSystem) (ops : List OutboxOp) : OutboxSystem :=
  ops.foldl OutboxSystem.step state

theorem run_append (state : OutboxSystem) (before after : List OutboxOp) :
    state.run (before ++ after) = (state.run before).run after :=
  List.foldl_append

/-- The states of the outbox that some operations lead to. -/
def OutboxSystem.Reachable (state : OutboxSystem) : Prop :=
  ∃ ops, state = OutboxSystem.initial.run ops

/-- What each operation can have done. -/
inductive OutboxStep (state : OutboxSystem) : OutboxOp → OutboxSystem → Prop where
  | rejected {op : OutboxOp} : OutboxStep state op state
  | appendEvaluation {row : EvaluationRow} {db : AlertDb}
      (accepted : insertEvaluation state.db row = .ok db) :
      OutboxStep state (.appendEvaluation row) { state with db := db }
  | enqueue {request : EnqueueRequest} {candidateId : Int} {inserted : Option Int} {db : AlertDb}
      (accepted : enqueueInTransaction request candidateId state.db = .ok (inserted, db)) :
      OutboxStep state (.enqueue request candidateId) { state with db := db }
  | lease {request : LeaseRequest} {locked : Int → Bool} {batch : List LeasedDelivery}
      {db : AlertDb} (accepted : lease request locked state.db = .ok (batch, db)) :
      OutboxStep state (.lease request locked)
        { state with db := db, handedOut := state.handedOut ++ batch }
  | record {leased : LeasedDelivery} {call : RecordCall} {ids : SequenceValues} {db : AlertDb}
      (handedOut : leased ∈ state.handedOut) (arguments : call.argumentError leased = none)
      (accepted : commitOutcome leased call.record call.ledgerStatus (call.target leased) ids
        state.db = .ok db) :
      OutboxStep state (.record leased call ids)
        { state with
          db := db
          recorded := state.recorded ++ [(leased.outboxId, leased.attemptNumber)] }
  | redrive {request : RedriveRequest} {ceiling : Int} {db : AlertDb}
      (commit : RedriveCommit request state.db db ceiling) :
      OutboxStep state (.redrive request) { state with db := db }

/-- A record operation that commits had acceptable arguments. -/
theorem RecordCall.run_ok {call : RecordCall} {leased : LeasedDelivery} {ids : SequenceValues}
    {db next : AlertDb} (accepted : call.run leased ids db = .ok next) :
    call.argumentError leased = none ∧
      commitOutcome leased call.record call.ledgerStatus (call.target leased) ids db =
        .ok next := by
  rw [RecordCall.run_eq] at accepted
  split at accepted
  case h_1 => cases accepted
  case h_2 arguments => exact ⟨arguments, accepted⟩

theorem outboxStep_step (state : OutboxSystem) (op : OutboxOp) :
    OutboxStep state op (state.step op) := by
  cases op with
  | appendEvaluation row =>
      simp only [OutboxSystem.step]
      split
      case h_1 accepted => exact .appendEvaluation accepted
      case h_2 => exact .rejected
  | enqueue request candidateId =>
      simp only [OutboxSystem.step]
      split
      case h_1 accepted => exact .enqueue accepted
      case h_2 => exact .rejected
  | lease request locked =>
      simp only [OutboxSystem.step]
      split
      case h_1 accepted => exact .lease accepted
      case h_2 => exact .rejected
  | record leased call ids =>
      simp only [OutboxSystem.step]
      split
      case isFalse => exact .rejected
      case isTrue handedOut =>
        split
        case h_1 accepted =>
          obtain ⟨arguments, committed⟩ := RecordCall.run_ok accepted
          exact .record handedOut arguments committed
        case h_2 => exact .rejected
  | redrive request =>
      simp only [OutboxSystem.step]
      split
      case h_1 accepted =>
        obtain ⟨ceiling, commit⟩ := redrive_ok accepted
        exact .redrive commit
      case h_2 => exact .rejected

/-! ## The invariant -/

/-- The attempt budget of a row, and the re-drives it has consumed. -/
structure Counters (row : OutboxProgress) : Prop where
  budget : row.attemptCount ≤ row.maxAttempts
  pending : row.state = .pending → row.attemptCount < row.maxAttempts
  nonneg : 0 ≤ row.redriveCount
  redrives : row.redriveCount ≤ row.attemptCount
  used : row.state ≠ .pending → row.redriveCount < row.attemptCount

/-- The evaluation the row reports. -/
structure EvaluationOf (evaluation : EvaluationRow) (row : OutboxIdentity) : Prop where
  tenantId : evaluation.tenantId = row.tenantId
  alertFingerprint : evaluation.alertFingerprint = row.alertFingerprint
  transition : evaluation.transition = row.transition

/-- The ledger has a row for the evaluation from the first terminal outcome on,
and a re-driven or dead-lettered row has a FAILED one. -/
def LedgerAgrees (row : OutboxRow) : Option LedgerRow → Prop
  | none => row.redriveCount = 0 ∧ (row.state = .pending ∨ row.state = .inFlight)
  | some entry =>
      (0 < row.redriveCount ∨ row.state = .delivered ∨ row.state = .deadLetter) ∧
        (entry.alertFingerprint = row.alertFingerprint ∧ entry.transition = row.transition ∧
          entry.destinationHost = row.destinationHost ∧ entry.payloadHash = row.payloadHash) ∧
        (0 < row.redriveCount ∨ row.state = .deadLetter → entry.status = .failed)

structure RowInvariant (db : AlertDb) (row : OutboxRow) : Prop where
  counters : Counters row.toOutboxProgress
  evaluation : ∃ evaluation, db.evaluation? row.evaluationId = some evaluation ∧
    EvaluationOf evaluation row.toOutboxIdentity
  /-- The active attempt has no event yet. -/
  events : ∀ event ∈ db.attemptEvents, event.outboxId = row.outboxId →
    event.attemptNumber ≤ row.attemptCount ∧
      (row.state = .inFlight → event.attemptNumber < row.attemptCount)
  ledger : LedgerAgrees row (db.ledgerRow? row.tenantId row.evaluationId)

/-- The columns a delivery copies from its row. -/
structure LeasedFrom (leased : LeasedDelivery) (row : OutboxIdentity) : Prop where
  outboxId : leased.outboxId = row.outboxId
  tenantId : leased.tenantId = row.tenantId
  evaluationId : leased.evaluationId = row.evaluationId
  alertFingerprint : leased.alertFingerprint = row.alertFingerprint
  transition : leased.transition = row.transition
  destinationHost : leased.destinationHost = row.destinationHost
  payload : leased.payload = row.payload
  payloadHash : leased.payloadHash = row.payloadHash
  idempotencyKey : leased.idempotencyKey = row.idempotencyKey

/-- The row a handed-out delivery came from. While the row is in flight at the
delivery's number, its lease is the delivery's own. -/
structure HandedOut (leased : LeasedDelivery) (row : OutboxRow) : Prop where
  identity : LeasedFrom leased row.toOutboxIdentity
  positive : 1 ≤ leased.attemptNumber
  bound : leased.attemptNumber ≤ row.attemptCount
  lease : row.state = .inFlight → row.attemptCount = leased.attemptNumber →
    row.leaseOwner = some leased.leaseOwner ∧ row.maxAttempts = leased.maxAttempts

structure OutboxInvariant (state : OutboxSystem) : Prop where
  evidence : EvidenceInvariant state.db
  rows : ∀ row ∈ state.db.outbox, RowInvariant state.db row
  intents : ∀ row ∈ state.db.outbox, ∀ other ∈ state.db.outbox, row.tenantId = other.tenantId →
    row.evaluationId = other.evaluationId → row = other
  noClaim : ∀ entry ∈ state.db.ledger, entry.status ≠ .claimed
  ledgerOwner : ∀ entry ∈ state.db.ledger, ∃ row ∈ state.db.outbox,
    row.tenantId = entry.tenantId ∧ row.evaluationId = entry.evaluationId
  handedOut : ∀ leased ∈ state.handedOut, ∃ row ∈ state.db.outbox, HandedOut leased row

theorem outboxInvariant_initial : OutboxInvariant OutboxSystem.initial where
  evidence := evidenceInvariant_empty
  rows := by simp [OutboxSystem.initial, AlertDb.empty]
  intents := by simp [OutboxSystem.initial, AlertDb.empty]
  noClaim := by simp [OutboxSystem.initial, AlertDb.empty]
  ledgerOwner := by simp [OutboxSystem.initial, AlertDb.empty]
  handedOut := by simp [OutboxSystem.initial]

/-! ### Appends to the other tables -/

section Appends

variable {db next : AlertDb}

theorem evaluation?_append {evaluations : List EvaluationRow}
    (appended : next.evaluations = db.evaluations ++ evaluations) {id : Int}
    {evaluation : EvaluationRow} (found : db.evaluation? id = some evaluation) :
    next.evaluation? id = some evaluation := by
  unfold AlertDb.evaluation? at found ⊢
  rw [appended, List.find?_append, found]
  rfl

theorem ledgerRow?_append {entry : LedgerRow} (appended : next.ledger = db.ledger ++ [entry])
    (tenantId : String) (evaluationId : Int) :
    next.ledgerRow? tenantId evaluationId =
      (db.ledgerRow? tenantId evaluationId).or
        (if entry.tenantId = tenantId ∧ entry.evaluationId = evaluationId then some entry
        else none) := by
  unfold AlertDb.ledgerRow?
  rw [appended, List.find?_append]
  congr 1
  simp [List.find?_singleton]

theorem ledgerRow?_congr (same : next.ledger = db.ledger) (tenantId : String)
    (evaluationId : Int) :
    next.ledgerRow? tenantId evaluationId = db.ledgerRow? tenantId evaluationId := by
  unfold AlertDb.ledgerRow?
  rw [same]

theorem evaluation?_congr (same : next.evaluations = db.evaluations) (id : Int) :
    next.evaluation? id = db.evaluation? id := by
  unfold AlertDb.evaluation?
  rw [same]

end Appends

/-! ### One row -/

section Row

variable {db : AlertDb} {row : OutboxRow}

/-- A claim raises the attempt number, so no event of the new number exists. -/
theorem rowInvariant_lease {request : LeaseRequest} (invariant : RowInvariant db row)
    (due : leasable request.now row = true) :
    RowInvariant db (row.set (leaseProgress request row)) := by
  simp only [leasable, Bool.and_eq_true, decide_eq_true_eq, Bool.or_eq_true] at due
  obtain ⟨⟨-, claimable⟩, budget⟩ := due
  have active : row.state = .pending ∨ row.state = .inFlight := claimable.imp id (·.1)
  obtain ⟨-, -, nonneg, redrives, -⟩ := invariant.counters
  refine ⟨⟨?_, nofun, nonneg, ?_, fun _ => ?_⟩, invariant.evaluation,
    fun event member owner => ?_, ?_⟩
  · show row.attemptCount + 1 ≤ row.maxAttempts
    omega
  · show row.redriveCount ≤ row.attemptCount + 1
    omega
  · show row.redriveCount < row.attemptCount + 1
    omega
  · have bound := (invariant.events event member owner).1
    show event.attemptNumber ≤ row.attemptCount + 1 ∧
      (OutboxState.inFlight = .inFlight → event.attemptNumber < row.attemptCount + 1)
    exact ⟨by omega, fun _ => by omega⟩
  · have agrees := invariant.ledger
    show LedgerAgrees (row.set (leaseProgress request row))
      (db.ledgerRow? row.tenantId row.evaluationId)
    cases entry : db.ledgerRow? row.tenantId row.evaluationId with
    | none =>
        rw [entry] at agrees
        exact ⟨agrees.1, .inr rfl⟩
    | some found =>
        rw [entry] at agrees
        obtain ⟨written, identity, failed⟩ := agrees
        have redriven : 0 < row.redriveCount := by
          rcases active with state | state <;> simpa [state] using written
        exact ⟨.inl redriven, identity, fun _ => failed (.inl redriven)⟩

/-- A re-drive leaves the FAILED ledger row of the dead letter behind. -/
theorem rowInvariant_redrive {request : RedriveRequest} {ceiling : Int}
    (invariant : RowInvariant db row) (dead : row.state = .deadLetter)
    (raised : row.attemptCount < ceiling) :
    RowInvariant db (row.set (redriveProgress request ceiling row)) := by
  have used := invariant.counters.used (by simp [dead])
  have nonneg := invariant.counters.nonneg
  refine ⟨⟨?_, fun _ => raised, ?_, ?_, fun other => absurd rfl other⟩, invariant.evaluation,
    fun event member owner => ⟨(invariant.events event member owner).1, nofun⟩, ?_⟩
  · show row.attemptCount ≤ ceiling
    omega
  · show 0 ≤ row.redriveCount + 1
    omega
  · show row.redriveCount + 1 ≤ row.attemptCount
    omega
  · have agrees := invariant.ledger
    show LedgerAgrees (row.set (redriveProgress request ceiling row))
      (db.ledgerRow? row.tenantId row.evaluationId)
    cases entry : db.ledgerRow? row.tenantId row.evaluationId with
    | none =>
        rw [entry] at agrees
        rcases agrees.2 with state | state <;> simp [dead] at state
    | some found =>
        rw [entry] at agrees
        obtain ⟨-, identity, failed⟩ := agrees
        have redriven : 0 < row.redriveCount + 1 := by omega
        exact ⟨.inl redriven, identity, fun _ => failed (.inr dead)⟩

/-- The state an outcome leads to. -/
def outcomeState : Option DeliveryStatus → OutboxState
  | none => .pending
  | some .delivered => .delivered
  | some _ => .deadLetter

/-- The first terminal outcome of an evaluation writes its ledger row; a later one,
after a re-drive, meets the FAILED row. -/
theorem ledgerAgrees_outcome {leased : LeasedDelivery} {record : AttemptRecord}
    {ledgerStatus : Option DeliveryStatus} {progress : OutboxProgress} {next : AlertDb}
    (agrees : LedgerAgrees row (db.ledgerRow? row.tenantId row.evaluationId))
    (active : row.state = .inFlight) (identity : LeasedFrom leased row.toOutboxIdentity)
    (written : LedgerWritten leased record db next ledgerStatus)
    (status : ledgerStatus ≠ some .claimed) (state : progress.state = outcomeState ledgerStatus)
    (redrives : progress.redriveCount = row.redriveCount) :
    LedgerAgrees (row.set progress) (next.ledgerRow? row.tenantId row.evaluationId) := by
  -- While the row is in flight, a ledger row comes from an earlier dead letter.
  have present : ∀ found, db.ledgerRow? row.tenantId row.evaluationId = some found →
      LedgerAgrees (row.set progress) (some found) := by
    intro found lookup
    rw [lookup] at agrees
    obtain ⟨earlier, same, failed⟩ := agrees
    have redriven : 0 < row.redriveCount := by simpa [active] using earlier
    refine ⟨.inl ?_, same, fun _ => failed (.inl redriven)⟩
    show 0 < progress.redriveCount
    rw [redrives]
    exact redriven
  have absent : db.ledgerRow? row.tenantId row.evaluationId = none →
      progress.redriveCount = 0 := by
    intro lookup
    rw [lookup] at agrees
    rw [redrives]
    exact agrees.1
  cases ledgerStatus with
  | none =>
      rw [ledgerRow?_congr written]
      cases lookup : db.ledgerRow? row.tenantId row.evaluationId with
      | none => exact ⟨absent lookup, .inl state⟩
      | some found => exact present found lookup
  | some terminal =>
      simp only [LedgerWritten, identity.tenantId, identity.evaluationId] at written
      obtain ⟨same, kept⟩ | ⟨⟨id, appended⟩, missing⟩ := written
      · rw [ledgerRow?_congr same]
        obtain ⟨found, lookup⟩ := Option.isSome_iff_exists.mp kept
        rw [lookup]
        exact present found lookup
      · have fresh : next.ledgerRow? row.tenantId row.evaluationId =
            some (terminalLedgerRow leased terminal record id) := by
          rw [ledgerRow?_append appended, missing, Option.none_or]
          exact if_pos ⟨identity.tenantId, identity.evaluationId⟩
        rw [fresh]
        refine ⟨?_, ⟨identity.alertFingerprint, identity.transition, identity.destinationHost,
          identity.payloadHash⟩, fun failed => ?_⟩
        · show _ ∨ progress.state = .delivered ∨ progress.state = .deadLetter
          rw [state]
          cases terminal <;> simp [outcomeState]
        · change 0 < progress.redriveCount ∨ progress.state = .deadLetter at failed
          rw [absent missing, state] at failed
          cases terminal with
          | claimed => exact absurd rfl status
          | delivered => simp [outcomeState] at failed
          | failed => rfl

/-- The active row after an outcome: its event is recorded and its ledger row
written, and a retry leaves attempts to spend. -/
theorem rowInvariant_outcome {leased : LeasedDelivery} {record : AttemptRecord}
    {ledgerStatus : Option DeliveryStatus} {target : TransitionTarget} {next : AlertDb}
    (invariant : RowInvariant db row) (active : row.state = .inFlight)
    (number : row.attemptCount = leased.attemptNumber)
    (identity : LeasedFrom leased row.toOutboxIdentity)
    (commit : OutcomeCommit leased record ledgerStatus target db next)
    (noClaim : ∀ entry ∈ db.ledger, entry.status ≠ .claimed)
    (status : ledgerStatus ≠ some .claimed)
    (state : target.state = outcomeState ledgerStatus)
    (retry : target.state = .pending → row.attemptCount < row.maxAttempts) :
    RowInvariant next (row.set (target.progress row)) := by
  have used := invariant.counters.used (by simp [active])
  refine ⟨⟨invariant.counters.budget, retry, invariant.counters.nonneg,
    invariant.counters.redrives, fun _ => used⟩, ?_, fun event member owner => ?_, ?_⟩
  · obtain ⟨evaluation, found, identity⟩ := invariant.evaluation
    exact ⟨evaluation, by rw [evaluation?_congr commit.evaluations]; exact found, identity⟩
  · have leaves : target.state ≠ .inFlight := by
      rw [state]
      rcases ledgerStatus with - | - | - | - <;> simp [outcomeState]
    refine ⟨?_, fun inFlight => absurd inFlight leaves⟩
    show event.attemptNumber ≤ row.attemptCount
    rcases commit.attemptEvents with ⟨same, -⟩ | ⟨id, appended⟩
    · exact (invariant.events event (same ▸ member) owner).1
    · rw [appended] at member
      rcases List.mem_append.mp member with old | fresh
      · exact (invariant.events event old owner).1
      · rw [List.mem_singleton.mp fresh, number]
        exact Int.le_refl _
  · exact ledgerAgrees_outcome invariant.ledger active identity (commit.ledger noClaim) status
      state rfl

/-- An update that never shortens the attempt count, and raises it whenever the
row is in flight afterwards, leaves no earlier delivery active. -/
theorem HandedOut.set {leased : LeasedDelivery} {progress : OutboxProgress}
    (handedOut : HandedOut leased row) (number : row.attemptCount ≤ progress.attemptCount)
    (raised : progress.state = .inFlight → row.attemptCount < progress.attemptCount) :
    HandedOut leased (row.set progress) where
  identity := handedOut.identity
  positive := handedOut.positive
  bound := Int.le_trans handedOut.bound number
  lease := by
    intro inFlight same
    have above := raised inFlight
    have bound := handedOut.bound
    change progress.attemptCount = leased.attemptNumber at same
    omega

end Row

/-! ### Every operation keeps the invariant -/

section Operations

variable {state next : OutboxSystem}

/-- The parts of the invariant that an UPDATE of the outbox keeps, given what it
does to each row. -/
theorem outboxInvariant_rewrite {where_ : OutboxRow → Bool} {set : OutboxRow → OutboxProgress}
    (invariant : OutboxInvariant state) (evidence : EvidenceInvariant next.db)
    (outbox : next.db.outbox = state.db.outbox.map (rewriteOutbox where_ set))
    (rows : ∀ row ∈ state.db.outbox, RowInvariant next.db (rewriteOutbox where_ set row))
    (noClaim : ∀ entry ∈ next.db.ledger, entry.status ≠ .claimed)
    (ledgerOwner : ∀ entry ∈ next.db.ledger, ∃ row ∈ state.db.outbox,
      row.tenantId = entry.tenantId ∧ row.evaluationId = entry.evaluationId)
    (moves : ∀ row ∈ state.db.outbox, where_ row = true →
      row.attemptCount ≤ (set row).attemptCount ∧
        ((set row).state = .inFlight → row.attemptCount < (set row).attemptCount))
    (handedOut : ∀ leased ∈ next.handedOut, leased ∈ state.handedOut ∨
      ∃ row ∈ next.db.outbox, HandedOut leased row) :
    OutboxInvariant next where
  evidence := evidence
  rows := by
    intro row member
    rw [outbox] at member
    obtain ⟨old, oldMember, rfl⟩ := List.mem_map.mp member
    exact rows old oldMember
  intents := by
    intro row member other otherMember tenant evaluation
    rw [outbox] at member otherMember
    obtain ⟨old, oldMember, rfl⟩ := List.mem_map.mp member
    obtain ⟨otherOld, otherOldMember, rfl⟩ := List.mem_map.mp otherMember
    simp only [rewriteOutbox_identity] at tenant evaluation
    rw [invariant.intents old oldMember otherOld otherOldMember tenant evaluation]
  noClaim := noClaim
  ledgerOwner := by
    intro entry member
    obtain ⟨row, rowMember, owner⟩ := ledgerOwner entry member
    refine ⟨rewriteOutbox where_ set row, ?_, by simpa using owner⟩
    rw [outbox]
    exact List.mem_map_of_mem rowMember
  handedOut := by
    intro leased member
    rcases handedOut leased member with old | fresh
    · obtain ⟨row, rowMember, from_⟩ := invariant.handedOut leased old
      refine ⟨rewriteOutbox where_ set row, by rw [outbox]; exact List.mem_map_of_mem rowMember, ?_⟩
      cases selected : where_ row with
      | false =>
          rw [rewriteOutbox_of_other selected]
          exact from_
      | true =>
          obtain ⟨number, raised⟩ := moves row rowMember selected
          rw [rewriteOutbox_of_selected selected]
          exact from_.set number raised
    · exact fresh

theorem outboxInvariant_appendEvaluation {row : EvaluationRow} {db : AlertDb}
    (invariant : OutboxInvariant state) (accepted : insertEvaluation state.db row = .ok db) :
    OutboxInvariant { state with db := db } := by
  have evidence := evidenceInvariant_insertEvaluation invariant.evidence accepted
  obtain ⟨rfl, -⟩ := insertEvaluation_ok accepted
  refine ⟨evidence, fun row member => ?_, invariant.intents, invariant.noClaim,
    invariant.ledgerOwner, invariant.handedOut⟩
  obtain ⟨counters, ⟨evaluation, found, identity⟩, events, ledger⟩ := invariant.rows row member
  exact ⟨counters, ⟨evaluation, evaluation?_append rfl found, identity⟩, events, ledger⟩

/-- The row an INSERT of a fresh intent adds. -/
theorem rowInvariant_enqueue {request : EnqueueRequest} {id : Int}
    (invariant : OutboxInvariant state) (insert : OutboxInsert state.db (request.row id))
    (budget : 1 ≤ request.maxAttempts) : RowInvariant state.db (request.row id) := by
  refine ⟨⟨?_, fun _ => ?_, Int.le_refl _, Int.le_refl _, fun other => absurd rfl other⟩, ?_,
    fun event member owner => ?_, ?_⟩
  · show 0 ≤ request.maxAttempts
    omega
  · show 0 < request.maxAttempts
    omega
  · have guard := insert.guard
    simp only [guardAlertOutboxInsert, guard_bind_eq_ok] at guard
    obtain ⟨-, guard⟩ := guard
    split at guard
    case h_1 => cases guard
    case h_2 evaluation found =>
      simp only [raiseIf_eq_ok, not_or, not_not] at guard
      exact ⟨evaluation, found, guard.1.symm, guard.2.1.symm, guard.2.2.symm⟩
  · -- Every event has its owner among the rows that were there before.
    obtain ⟨row, rowMember, same, -⟩ := invariant.evidence.eventOwner event member
    exact absurd (same.trans owner) (insert.freshId row rowMember)
  · cases lookup : state.db.ledgerRow? (request.row id).tenantId (request.row id).evaluationId with
    | none => exact ⟨rfl, .inl rfl⟩
    | some entry =>
        have selected := List.find?_some lookup
        simp only [Bool.and_eq_true, beq_iff_eq] at selected
        obtain ⟨row, rowMember, tenant, evaluation⟩ :=
          invariant.ledgerOwner entry (List.mem_of_find?_eq_some lookup)
        have conflict := insert.freshEvaluation
        simp only [outboxConflict, List.any_eq_false, Bool.and_eq_true, beq_iff_eq] at conflict
        exact absurd ⟨tenant.trans selected.1, evaluation.trans selected.2⟩
          (conflict row rowMember)

theorem outboxInvariant_enqueue {request : EnqueueRequest} {candidateId : Int}
    {inserted : Option Int} {db : AlertDb} (invariant : OutboxInvariant state)
    (accepted : enqueueInTransaction request candidateId state.db = .ok (inserted, db)) :
    OutboxInvariant { state with db := db } := by
  have evidence := evidenceInvariant_enqueue invariant.evidence accepted
  obtain rfl | ⟨id, rfl, insert, budget, -⟩ := enqueueInTransaction_ok accepted
  · exact invariant
  have fresh := rowInvariant_enqueue invariant insert budget
  have conflict := insert.freshEvaluation
  simp only [outboxConflict, List.any_eq_false, Bool.and_eq_true, beq_iff_eq] at conflict
  refine ⟨evidence, fun row member => ?_, ?_, invariant.noClaim, fun entry member => ?_,
    fun leased member => ?_⟩
  · rcases List.mem_append.mp member with old | new
    · obtain ⟨counters, evaluation, events, ledger⟩ := invariant.rows row old
      exact ⟨counters, evaluation, events, ledger⟩
    · rw [List.mem_singleton.mp new]
      exact ⟨fresh.counters, fresh.evaluation, fresh.events, fresh.ledger⟩
  · intro row member other otherMember tenant evaluation
    rcases List.mem_append.mp member with old | new <;>
      rcases List.mem_append.mp otherMember with otherOld | otherNew
    · exact invariant.intents row old other otherOld tenant evaluation
    · rw [List.mem_singleton.mp otherNew] at tenant evaluation
      exact absurd ⟨tenant, evaluation⟩ (conflict row old)
    · rw [List.mem_singleton.mp new] at tenant evaluation
      exact absurd ⟨tenant.symm, evaluation.symm⟩ (conflict other otherOld)
    · rw [List.mem_singleton.mp new, List.mem_singleton.mp otherNew]
  · obtain ⟨row, rowMember, owner⟩ := invariant.ledgerOwner entry member
    exact ⟨row, List.mem_append_left _ rowMember, owner⟩
  · obtain ⟨row, rowMember, from_⟩ := invariant.handedOut leased member
    exact ⟨row, List.mem_append_left _ rowMember, from_⟩

/-- A claimed row is the one its delivery came from. -/
theorem handedOut_leasedDelivery {request : LeaseRequest} {row : OutboxRow}
    (counters : Counters row.toOutboxProgress) :
    HandedOut (leasedDelivery request (row.set (leaseProgress request row)))
      (row.set (leaseProgress request row)) where
  identity := ⟨rfl, rfl, rfl, rfl, rfl, rfl, rfl, rfl, rfl⟩
  positive := by
    have nonneg := counters.nonneg
    have redrives := counters.redrives
    show 1 ≤ row.attemptCount + 1
    omega
  bound := Int.le_refl _
  lease := fun _ _ => ⟨rfl, rfl⟩

theorem outboxInvariant_lease {request : LeaseRequest} {locked : Int → Bool}
    {batch : List LeasedDelivery} {db : AlertDb} (invariant : OutboxInvariant state)
    (accepted : lease request locked state.db = .ok (batch, db)) :
    OutboxInvariant { state with db := db, handedOut := state.handedOut ++ batch } := by
  have evidence := evidenceInvariant_lease invariant.evidence accepted
  have commit := lease_ok accepted
  obtain rfl := commit.tables
  refine outboxInvariant_rewrite invariant
    evidence rfl (fun row member => ?_) invariant.noClaim invariant.ledgerOwner
    (fun row _ _ => ?_) (fun leased member => ?_)
  · have kept : RowInvariant state.db
        (rewriteOutbox (claims request locked state.db) (leaseProgress request) row) := by
      cases claimed : claims request locked state.db row with
      | false =>
          rw [rewriteOutbox_of_other claimed]
          exact invariant.rows row member
      | true =>
          rw [rewriteOutbox_of_selected claimed]
          exact rowInvariant_lease (invariant.rows row member)
            (leasable_of_claims invariant.evidence.uniqueIds member claimed)
    exact ⟨kept.counters, kept.evaluation, kept.events, kept.ledger⟩
  · show row.attemptCount ≤ row.attemptCount + 1 ∧ (_ → row.attemptCount < row.attemptCount + 1)
    exact ⟨by omega, fun _ => by omega⟩
  · refine (List.mem_append.mp member).imp_right (fun fresh => ?_)
    obtain ⟨row, rowMember, claimed, rfl⟩ := commit.mem_batch.mp fresh
    refine ⟨_, List.mem_map_of_mem rowMember, ?_⟩
    rw [rewriteOutbox_of_selected claimed]
    exact handedOut_leasedDelivery (invariant.rows row rowMember).counters

theorem outboxInvariant_redrive {request : RedriveRequest} {ceiling : Int} {db : AlertDb}
    (invariant : OutboxInvariant state) (commit : RedriveCommit request state.db db ceiling) :
    OutboxInvariant { state with db := db } := by
  have evidence := evidenceInvariant_redrive invariant.evidence commit
  obtain ⟨rfl, -⟩ := updateOutbox_eq_ok.mp commit.update
  obtain ⟨target, targetMember, targetSelected, -, raised⟩ := commit.selected
  refine outboxInvariant_rewrite invariant
    evidence rfl (fun row member => ?_) invariant.noClaim invariant.ledgerOwner
    (fun row _ _ => ⟨Int.le_refl _, nofun⟩) (fun _ => .inl)
  have kept : RowInvariant state.db
      (rewriteOutbox (redriveTarget request) (redriveProgress request ceiling) row) := by
    cases selected : redriveTarget request row with
    | false =>
        rw [rewriteOutbox_of_other selected]
        exact invariant.rows row member
    | true =>
        rw [rewriteOutbox_of_selected selected]
        simp only [redriveTarget, Bool.and_eq_true, beq_iff_eq] at selected targetSelected
        -- The id names one row, the one whose ceiling was raised.
        obtain rfl := eq_of_outboxId_eq invariant.evidence.uniqueIds member targetMember
          (selected.1.2.trans targetSelected.1.2.symm)
        exact rowInvariant_redrive (invariant.rows row member) selected.2 raised
  exact ⟨kept.counters, kept.evaluation, kept.events, kept.ledger⟩

/-- The state an operation's target names, and its ledger status. -/
theorem RecordCall.target_state (call : RecordCall) (leased : LeasedDelivery) :
    (call.target leased).state = outcomeState call.ledgerStatus := by
  cases call <;> rfl

theorem RecordCall.ledgerStatus_ne_claimed (call : RecordCall) :
    call.ledgerStatus ≠ some .claimed := by
  cases call <;> simp [ledgerStatus]

/-- Only a retry returns to PENDING, and it is refused on the final attempt. -/
theorem RecordCall.attempts_left {call : RecordCall} {leased : LeasedDelivery}
    (arguments : call.argumentError leased = none)
    (pending : (call.target leased).state = .pending) :
    leased.attemptNumber < leased.maxAttempts := by
  cases call with
  | delivered => simp [target] at pending
  | deadLetter => simp [target] at pending
  | retry outcome =>
      simp only [argumentError, LeasedDelivery.isFinalAttempt] at arguments
      split at arguments
      case isTrue => cases arguments
      case isFalse =>
        by_cases final : leased.attemptNumber ≥ leased.maxAttempts
        · simp [final] at arguments
        · omega

/-- The row an outcome is recorded for. -/
theorem active_row (invariant : OutboxInvariant state) {leased : LeasedDelivery}
    (handedOut : leased ∈ state.handedOut) {row : OutboxRow} (member : row ∈ state.db.outbox)
    (active : activeLease leased row = true) :
    LeasedFrom leased row.toOutboxIdentity ∧ row.state = .inFlight ∧
      row.attemptCount = leased.attemptNumber ∧ row.leaseOwner = some leased.leaseOwner ∧
      row.maxAttempts = leased.maxAttempts := by
  simp only [activeLease, Bool.and_eq_true, beq_iff_eq] at active
  obtain ⟨⟨⟨sameId, inFlight⟩, number⟩, owner⟩ := active
  obtain ⟨other, otherMember, from_⟩ := invariant.handedOut leased handedOut
  obtain rfl := eq_of_outboxId_eq invariant.evidence.uniqueIds otherMember member
    (from_.identity.outboxId.symm.trans sameId.symm)
  exact ⟨from_.identity, inFlight, number, owner, (from_.lease inFlight number).2⟩

/-- The lease condition of the outcome's UPDATE selects the active row alone. -/
theorem holdsLease_iff (invariant : OutboxInvariant state) {leased : LeasedDelivery}
    (handedOut : leased ∈ state.handedOut) {row : OutboxRow} (member : row ∈ state.db.outbox)
    (active : activeLease leased row = true) {other : OutboxRow}
    (otherMember : other ∈ state.db.outbox) : holdsLease leased other = true ↔ other = row := by
  obtain ⟨identity, inFlight, -, owner, -⟩ := active_row invariant handedOut member active
  constructor
  · intro held
    simp only [holdsLease, Bool.and_eq_true, beq_iff_eq] at held
    exact eq_of_outboxId_eq invariant.evidence.uniqueIds otherMember member
      (held.1.1.1.trans identity.outboxId)
  · rintro rfl
    simp [holdsLease, identity.outboxId, identity.tenantId, inFlight, owner]

/-- A row that the outcome does not touch. -/
theorem rowInvariant_other {leased : LeasedDelivery} {record : AttemptRecord}
    {ledgerStatus : Option DeliveryStatus} {target : TransitionTarget} {db : AlertDb}
    {row active : OutboxRow} (invariant : OutboxInvariant state) (member : row ∈ state.db.outbox)
    (activeMember : active ∈ state.db.outbox) (other : row ≠ active)
    (identity : LeasedFrom leased active.toOutboxIdentity)
    (commit : OutcomeCommit leased record ledgerStatus target state.db db) :
    RowInvariant db row := by
  obtain ⟨counters, ⟨evaluation, found, same⟩, events, ledger⟩ := invariant.rows row member
  refine ⟨counters, ⟨evaluation, by rw [evaluation?_congr commit.evaluations]; exact found, same⟩,
    fun event recorded owner => ?_, ?_⟩
  · rcases commit.attemptEvents with ⟨unchanged, -⟩ | ⟨id, appended⟩
    · exact events event (unchanged ▸ recorded) owner
    · rw [appended] at recorded
      rcases List.mem_append.mp recorded with old | fresh
      · exact events event old owner
      · rw [List.mem_singleton.mp fresh] at owner
        exact absurd (eq_of_outboxId_eq invariant.evidence.uniqueIds member activeMember
          (owner.symm.trans identity.outboxId)) other
  · have written := commit.ledger invariant.noClaim
    have untouched : db.ledgerRow? row.tenantId row.evaluationId =
        state.db.ledgerRow? row.tenantId row.evaluationId := by
      cases ledgerStatus with
      | none => exact ledgerRow?_congr written _ _
      | some status =>
          obtain ⟨same, -⟩ | ⟨⟨id, appended⟩, -⟩ := written
          · exact ledgerRow?_congr same _ _
          · rw [ledgerRow?_append appended, if_neg, Option.or_none]
            rintro ⟨tenant, evaluation⟩
            exact other (invariant.intents row member active activeMember
              (tenant.symm.trans identity.tenantId)
              (evaluation.symm.trans identity.evaluationId))
    rw [untouched]
    exact ledger

theorem outboxInvariant_record {leased : LeasedDelivery} {call : RecordCall}
    {ids : SequenceValues} {db : AlertDb} {recorded : List (Int × Int)}
    (invariant : OutboxInvariant state) (handedOut : leased ∈ state.handedOut)
    (arguments : call.argumentError leased = none)
    (accepted : commitOutcome leased call.record call.ledgerStatus (call.target leased) ids
      state.db = .ok db) :
    OutboxInvariant ⟨db, state.handedOut, recorded⟩ := by
  have evidence := evidenceInvariant_commitOutcome invariant.evidence accepted
  have commit := commitOutcome_ok accepted
  obtain ⟨row, member, active⟩ := commit.active
  obtain ⟨identity, inFlight, number, -, budget⟩ := active_row invariant handedOut member active
  have written := commit.ledger invariant.noClaim
  have appended : ∀ entry ∈ db.ledger, entry ∈ state.db.ledger ∨
      entry.status ≠ .claimed ∧ entry.tenantId = row.tenantId ∧
        entry.evaluationId = row.evaluationId := by
    intro entry entryMember
    cases status : call.ledgerStatus with
    | none =>
        rw [status] at written
        exact .inl (written ▸ entryMember)
    | some terminal =>
        rw [status] at written
        obtain ⟨same, -⟩ | ⟨⟨id, appended⟩, -⟩ := written
        · exact .inl (same ▸ entryMember)
        · rw [appended] at entryMember
          refine (List.mem_append.mp entryMember).imp_right (fun fresh => ?_)
          rw [List.mem_singleton.mp fresh]
          refine ⟨?_, identity.tenantId, identity.evaluationId⟩
          show terminal ≠ .claimed
          exact fun claimed => call.ledgerStatus_ne_claimed (claimed ▸ status)
  refine outboxInvariant_rewrite invariant evidence commit.outbox (fun other otherMember => ?_)
    (fun entry entryMember => ?_) (fun entry entryMember => ?_) (fun other otherMember held => ?_)
    (fun _ => .inl)
  · cases held : holdsLease leased other with
    | true =>
        rw [rewriteOutbox_of_selected held]
        obtain rfl := (holdsLease_iff invariant handedOut member active otherMember).mp held
        refine rowInvariant_outcome (invariant.rows other member) inFlight number identity commit
          invariant.noClaim call.ledgerStatus_ne_claimed (call.target_state leased)
          (fun pending => ?_)
        have left := RecordCall.attempts_left arguments pending
        omega
    | false =>
        rw [rewriteOutbox_of_other held]
        refine rowInvariant_other invariant otherMember member (fun same => ?_) identity commit
        rw [(holdsLease_iff invariant handedOut member active otherMember).mpr same] at held
        cases held
  · rcases appended entry entryMember with old | fresh
    · exact invariant.noClaim entry old
    · exact fresh.1
  · rcases appended entry entryMember with old | fresh
    · exact invariant.ledgerOwner entry old
    · exact ⟨row, member, fresh.2.1.symm, fresh.2.2.symm⟩
  · refine ⟨Int.le_refl _, fun stays => ?_⟩
    change (call.target leased).state = .inFlight at stays
    rw [call.target_state leased] at stays
    cases call <;> simp [RecordCall.ledgerStatus, outcomeState] at stays

theorem outboxInvariant_step {op : OutboxOp} (invariant : OutboxInvariant state)
    (step : OutboxStep state op next) : OutboxInvariant next := by
  cases step with
  | rejected => exact invariant
  | appendEvaluation accepted => exact outboxInvariant_appendEvaluation invariant accepted
  | enqueue accepted => exact outboxInvariant_enqueue invariant accepted
  | lease accepted => exact outboxInvariant_lease invariant accepted
  | record handedOut arguments accepted =>
      exact outboxInvariant_record invariant handedOut arguments accepted
  | redrive commit => exact outboxInvariant_redrive invariant commit

end Operations

/-- Every operation keeps the invariant, so every run does. -/
theorem outboxInvariant_run {state : OutboxSystem} (ops : List OutboxOp)
    (invariant : OutboxInvariant state) : OutboxInvariant (state.run ops) := by
  induction ops generalizing state with
  | nil => exact invariant
  | cons op rest inductionHypothesis =>
      exact inductionHypothesis (outboxInvariant_step invariant (outboxStep_step state op))

end StockoutOps.Alerting
