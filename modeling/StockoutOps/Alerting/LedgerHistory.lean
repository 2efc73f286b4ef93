import Mathlib.Data.List.Induction
import StockoutOps.Alerting.OutboxAcceptance

/-!
Contract: the terminal ledger over the history of a run.

Owns: the states a run passes through, the first terminal outcome of an
evaluation, and the agreement of ledger, outbox and attempt events with them.

Does not own: the evidence a single terminal row carries.

The history is a ghost: no operation reads it. A row becomes terminal in one
kind of step only, the record operation that also writes the ledger.
-/

namespace StockoutOps.Alerting

open StockoutOps.Sql

/-- DELIVERED or DEAD_LETTER. -/
def OutboxProgress.Terminal (row : OutboxProgress) : Prop :=
  row.state = .delivered ∨ row.state = .deadLetter

instance (row : OutboxProgress) : Decidable row.Terminal := by
  unfold OutboxProgress.Terminal
  infer_instance

/-- The outbox row of an evaluation, if it is terminal. -/
def AlertDb.terminalRow? (db : AlertDb) (tenantId : String) (evaluationId : Int) :
    Option OutboxRow :=
  db.outbox.find? (fun row =>
    row.tenantId = tenantId ∧ row.evaluationId = evaluationId ∧ row.Terminal)

/-- The states a run passes through, the first and the last included. -/
def OutboxSystem.states (state : OutboxSystem) : List OutboxOp → List OutboxSystem
  | [] => [state]
  | op :: rest => state :: (state.step op).states rest

/-- The outbox row of an evaluation when it first was terminal. -/
def firstTerminal (tenantId : String) (evaluationId : Int) (states : List OutboxSystem) :
    Option OutboxRow :=
  states.findSome? (fun state => state.db.terminalRow? tenantId evaluationId)

/-- The ledger columns that report a terminal row. -/
def terminalOutcome (row : OutboxProgress) : LedgerOutcome where
  status := if row.state = .delivered then .delivered else .failed
  attemptCount := row.attemptCount
  httpStatus := row.lastHttpStatus
  errorClass := row.lastErrorClass
  completedAt := row.completedAt

/-! ## Histories -/

theorem states_append_singleton (state : OutboxSystem) (ops : List OutboxOp) (op : OutboxOp) :
    state.states (ops ++ [op]) = state.states ops ++ [(state.run ops).step op] := by
  induction ops generalizing state with
  | nil => rfl
  | cons head rest inductionHypothesis =>
      show state :: (state.step head).states (rest ++ [op]) = _
      rw [inductionHypothesis]
      rfl

theorem run_append_singleton (state : OutboxSystem) (ops : List OutboxOp) (op : OutboxOp) :
    state.run (ops ++ [op]) = (state.run ops).step op := by
  simp [OutboxSystem.run]

section FirstTerminal

variable {tenantId : String} {evaluationId : Int} {seen : List OutboxSystem}
  {state next : OutboxSystem}

theorem firstTerminal_append_singleton :
    firstTerminal tenantId evaluationId (seen ++ [next]) =
      (firstTerminal tenantId evaluationId seen).or
        (next.db.terminalRow? tenantId evaluationId) := by
  simp [firstTerminal, List.findSome?_append]

theorem terminalRow?_isSome_iff {db : AlertDb} :
    (db.terminalRow? tenantId evaluationId).isSome ↔
      ∃ row ∈ db.outbox, row.tenantId = tenantId ∧ row.evaluationId = evaluationId ∧
        row.Terminal := by
  simp [AlertDb.terminalRow?, List.find?_isSome]

/-- A row that is terminal now has a first terminal outcome. -/
theorem firstTerminal_isSome (visited : state ∈ seen) {row : OutboxRow}
    (member : row ∈ state.db.outbox) (terminal : row.Terminal) :
    (firstTerminal row.tenantId row.evaluationId seen).isSome := by
  rw [firstTerminal, List.findSome?_isSome_iff]
  exact ⟨state, visited, terminalRow?_isSome_iff.mpr ⟨row, member, rfl, rfl, terminal⟩⟩

/-- A step after which no new row is terminal adds nothing to the history. -/
theorem firstTerminal_of_earlier (visited : state ∈ seen)
    (earlier : ∀ row ∈ next.db.outbox, row.tenantId = tenantId → row.evaluationId = evaluationId →
      row.Terminal → row ∈ state.db.outbox) :
    firstTerminal tenantId evaluationId (seen ++ [next]) =
      firstTerminal tenantId evaluationId seen := by
  rw [firstTerminal_append_singleton]
  cases now : next.db.terminalRow? tenantId evaluationId with
  | none => exact Option.or_none
  | some row =>
      obtain ⟨found, member, rfl, rfl, terminal⟩ :=
        terminalRow?_isSome_iff.mp (Option.isSome_of_eq_some now)
      obtain ⟨first, same⟩ := Option.isSome_iff_exists.mp
        (firstTerminal_isSome visited (earlier found member rfl rfl terminal) terminal)
      rw [same, Option.some_or]

end FirstTerminal

/-! ## The invariant -/

/-- How the ledger and the attempt events follow the history of the outbox. -/
structure LedgerHistory (seen : List OutboxSystem) (state : OutboxSystem) : Prop where
  visited : state ∈ seen
  outcome : ∀ tenantId evaluationId,
    (state.db.ledgerRow? tenantId evaluationId).map (·.toLedgerOutcome) =
      (firstTerminal tenantId evaluationId seen).map (terminalOutcome ·.toOutboxProgress)
  /-- Before any re-drive, the ledger reports the row as it is. -/
  exact_ : ∀ row ∈ state.db.outbox, row.redriveCount = 0 → row.Terminal →
    (state.db.ledgerRow? row.tenantId row.evaluationId).map (·.toLedgerOutcome) =
      some (terminalOutcome row.toOutboxProgress)
  uniqueLedger : (state.db.ledger.map (fun entry => (entry.tenantId, entry.evaluationId))).Nodup
  uniqueEvents :
    (state.db.attemptEvents.map (fun event => (event.outboxId, event.attemptNumber))).Nodup
  current : ∀ row ∈ state.db.outbox, 1 ≤ row.attemptCount → row.state ≠ .inFlight →
    ∃ event ∈ state.db.attemptEvents, event.outboxId = row.outboxId ∧
      event.attemptNumber = row.attemptCount

theorem ledgerHistory_initial : LedgerHistory [OutboxSystem.initial] OutboxSystem.initial := by
  constructor <;> simp [OutboxSystem.initial, AlertDb.empty, AlertDb.ledgerRow?, firstTerminal,
    AlertDb.terminalRow?]

section Steps

variable {seen : List OutboxSystem} {state next : OutboxSystem}

/-- A step that touches neither ledger nor events and makes no row terminal. -/
theorem ledgerHistory_quiet (history : LedgerHistory seen state)
    (ledger : next.db.ledger = state.db.ledger)
    (events : next.db.attemptEvents = state.db.attemptEvents)
    (terminal : ∀ row ∈ next.db.outbox, row.Terminal → row ∈ state.db.outbox)
    (current : ∀ row ∈ next.db.outbox, 1 ≤ row.attemptCount → row.state ≠ .inFlight →
      ∃ old ∈ state.db.outbox, old.outboxId = row.outboxId ∧
        old.attemptCount = row.attemptCount ∧ old.state ≠ .inFlight) :
    LedgerHistory (seen ++ [next]) next where
  visited := List.mem_append_right _ (List.mem_singleton_self next)
  outcome := fun tenantId evaluationId => by
    rw [ledgerRow?_congr ledger, history.outcome, firstTerminal_of_earlier history.visited
      (fun row member _ _ => terminal row member)]
  exact_ := fun row member redrives isTerminal => by
    rw [ledgerRow?_congr ledger]
    exact history.exact_ row (terminal row member isTerminal) redrives isTerminal
  uniqueLedger := by
    rw [ledger]
    exact history.uniqueLedger
  uniqueEvents := by
    rw [events]
    exact history.uniqueEvents
  current := fun row member attempted leaves => by
    obtain ⟨old, oldMember, sameId, sameNumber, oldLeaves⟩ := current row member attempted leaves
    rw [events, ← sameId, ← sameNumber]
    exact history.current old oldMember (sameNumber ▸ attempted) oldLeaves

/-- Rows that an UPDATE moves to a state that is not terminal. -/
theorem ledgerHistory_rewrite {where_ : OutboxRow → Bool} {set : OutboxRow → OutboxProgress}
    (history : LedgerHistory seen state) (ledger : next.db.ledger = state.db.ledger)
    (events : next.db.attemptEvents = state.db.attemptEvents)
    (outbox : next.db.outbox = state.db.outbox.map (rewriteOutbox where_ set))
    (active : ∀ row ∈ state.db.outbox, where_ row = true → ¬ (set row).Terminal)
    (attempts : ∀ row ∈ state.db.outbox, where_ row = true → (set row).state ≠ .inFlight →
      (set row).attemptCount = row.attemptCount ∧ row.state ≠ .inFlight) :
    LedgerHistory (seen ++ [next]) next := by
  refine ledgerHistory_quiet history ledger events (fun row member terminal => ?_)
    (fun row member attempted leaves => ?_)
  · rw [outbox] at member
    obtain ⟨old, oldMember, rfl⟩ := List.mem_map.mp member
    cases selected : where_ old with
    | false =>
        rw [rewriteOutbox_of_other selected]
        exact oldMember
    | true =>
        rw [rewriteOutbox_of_selected selected] at terminal
        exact absurd terminal (active old oldMember selected)
  · rw [outbox] at member
    obtain ⟨old, oldMember, rfl⟩ := List.mem_map.mp member
    cases selected : where_ old with
    | false =>
        rw [rewriteOutbox_of_other selected] at leaves ⊢
        exact ⟨old, oldMember, rfl, rfl, leaves⟩
    | true =>
        rw [rewriteOutbox_of_selected selected] at leaves ⊢
        obtain ⟨sameNumber, oldLeaves⟩ := attempts old oldMember selected leaves
        exact ⟨old, oldMember, rfl, sameNumber.symm, oldLeaves⟩

theorem ledgerHistory_appendEvaluation {row : EvaluationRow} {db : AlertDb}
    (history : LedgerHistory seen state) (accepted : insertEvaluation state.db row = .ok db) :
    LedgerHistory (seen ++ [{ state with db := db }]) { state with db := db } := by
  obtain ⟨rfl, -⟩ := insertEvaluation_ok accepted
  exact ledgerHistory_quiet history rfl rfl (fun row member _ => member)
    (fun row member _ leaves => ⟨row, member, rfl, rfl, leaves⟩)

theorem ledgerHistory_enqueue {request : EnqueueRequest} {candidateId : Int}
    {inserted : Option Int} {db : AlertDb} (history : LedgerHistory seen state)
    (accepted : enqueueInTransaction request candidateId state.db = .ok (inserted, db)) :
    LedgerHistory (seen ++ [{ state with db := db }]) { state with db := db } := by
  obtain rfl | ⟨id, rfl, -⟩ := enqueueInTransaction_ok accepted
  · exact ledgerHistory_quiet history rfl rfl (fun row member _ => member)
      (fun row member _ leaves => ⟨row, member, rfl, rfl, leaves⟩)
  · refine ledgerHistory_quiet history rfl rfl (fun row member terminal => ?_)
      (fun row member attempted leaves => ?_)
    · rcases List.mem_append.mp member with old | fresh
      · exact old
      · rw [List.mem_singleton.mp fresh] at terminal
        simp [OutboxProgress.Terminal, EnqueueRequest.row] at terminal
    · rcases List.mem_append.mp member with old | fresh
      · exact ⟨row, old, rfl, rfl, leaves⟩
      · rw [List.mem_singleton.mp fresh] at attempted
        exact absurd attempted (show ¬ (1 : Int) ≤ 0 by decide)

theorem ledgerHistory_lease {request : LeaseRequest} {locked : Int → Bool}
    {batch : List LeasedDelivery} {db : AlertDb} (history : LedgerHistory seen state)
    (accepted : lease request locked state.db = .ok (batch, db)) :
    LedgerHistory (seen ++ [{ state with db := db, handedOut := state.handedOut ++ batch }])
      { state with db := db, handedOut := state.handedOut ++ batch } := by
  obtain rfl := (lease_ok accepted).tables
  refine ledgerHistory_rewrite history rfl rfl rfl (fun row _ _ => ?_)
    (fun row _ _ leaves => absurd rfl leaves)
  simp [OutboxProgress.Terminal, leaseProgress]

theorem ledgerHistory_redrive {request : RedriveRequest} {ceiling : Int} {db : AlertDb}
    (history : LedgerHistory seen state) (commit : RedriveCommit request state.db db ceiling) :
    LedgerHistory (seen ++ [{ state with db := db }]) { state with db := db } := by
  obtain ⟨rfl, -⟩ := updateOutbox_eq_ok.mp commit.update
  refine ledgerHistory_rewrite history rfl rfl rfl (fun row _ _ => ?_)
    (fun row _ selected _ => ⟨rfl, ?_⟩)
  · simp [OutboxProgress.Terminal, redriveProgress]
  · simp only [redriveTarget, Bool.and_eq_true, beq_iff_eq] at selected
    simp [selected.2]

/-! ### An outcome -/

/-- An outcome is stored for the row that is in flight under a lease of the run. -/
structure OutcomeStored (leased : LeasedDelivery) (call : RecordCall) (row : OutboxRow)
    (state next : OutboxSystem) : Prop where
  before : OutboxInvariant state
  after : OutboxInvariant next
  handedOut : leased ∈ state.handedOut
  member : row ∈ state.db.outbox
  active : activeLease leased row = true
  commit : OutcomeCommit leased call.record call.ledgerStatus (call.target leased) state.db next.db

section Outcome

variable {leased : LeasedDelivery} {call : RecordCall} {row : OutboxRow} {tenantId : String}
  {evaluationId : Int}

namespace OutcomeStored

theorem identity (stored : OutcomeStored leased call row state next) :
    LeasedFrom leased row.toOutboxIdentity :=
  (active_row stored.before stored.handedOut stored.member stored.active).1

theorem inFlight (stored : OutcomeStored leased call row state next) : row.state = .inFlight :=
  (active_row stored.before stored.handedOut stored.member stored.active).2.1

theorem number (stored : OutcomeStored leased call row state next) :
    row.attemptCount = leased.attemptNumber :=
  (active_row stored.before stored.handedOut stored.member stored.active).2.2.1

theorem holdsLease_iff (stored : OutcomeStored leased call row state next) {other : OutboxRow}
    (otherMember : other ∈ state.db.outbox) : holdsLease leased other = true ↔ other = row :=
  Alerting.holdsLease_iff stored.before stored.handedOut stored.member stored.active otherMember

/-- The active row is there, as the outcome leaves it. -/
theorem moved (stored : OutcomeStored leased call row state next) :
    row.set ((call.target leased).progress row) ∈ next.db.outbox := by
  rw [stored.commit.outbox,
    ← rewriteOutbox_of_selected ((stored.holdsLease_iff stored.member).mpr rfl)]
  exact List.mem_map_of_mem stored.member

/-- Every other row is as it was. -/
theorem mem_outbox (stored : OutcomeStored leased call row state next) {other : OutboxRow}
    (otherMember : other ∈ next.db.outbox) :
    (other ∈ state.db.outbox ∧ other.outboxId ≠ row.outboxId) ∨
      other = row.set ((call.target leased).progress row) := by
  rw [stored.commit.outbox] at otherMember
  obtain ⟨old, oldMember, rfl⟩ := List.mem_map.mp otherMember
  cases held : holdsLease leased old with
  | true =>
      obtain rfl := (stored.holdsLease_iff oldMember).mp held
      exact .inr (rewriteOutbox_of_selected held)
  | false =>
      rw [rewriteOutbox_of_other held]
      refine .inl ⟨oldMember, fun same => ?_⟩
      obtain rfl := eq_of_outboxId_eq stored.before.evidence.uniqueIds oldMember stored.member same
      rw [(stored.holdsLease_iff stored.member).mpr rfl] at held
      cases held

/-- The event of an active attempt is the first of its number. -/
theorem attemptEvents (stored : OutcomeStored leased call row state next) :
    (∃ id, next.db.attemptEvents =
        state.db.attemptEvents ++ [attemptEventRow leased call.record id]) ∧
      ∀ event ∈ state.db.attemptEvents,
        (event.outboxId, event.attemptNumber) ≠ (leased.outboxId, leased.attemptNumber) := by
  have fresh : ∀ event ∈ state.db.attemptEvents,
      (event.outboxId, event.attemptNumber) ≠ (leased.outboxId, leased.attemptNumber) := by
    intro event recorded same
    obtain ⟨sameId, sameNumber⟩ := Prod.mk.inj same
    have below := ((stored.before.rows row stored.member).events event recorded
      (sameId.trans stored.identity.outboxId)).2 stored.inFlight
    have number := stored.number
    omega
  refine ⟨?_, fresh⟩
  obtain ⟨-, present⟩ | appended := stored.commit.attemptEvents
  · obtain ⟨event, found⟩ := Option.isSome_iff_exists.mp present
    have selected := List.find?_some found
    simp only [Bool.and_eq_true, beq_iff_eq] at selected
    exact absurd (Prod.ext selected.1 selected.2) (fresh event (List.mem_of_find?_eq_some found))
  · exact appended

/-- The row a terminal outcome leaves is reported by the ledger row it writes. -/
theorem terminalOutcome_eq (stored : OutcomeStored leased call row state next)
    {status : DeliveryStatus} {id : Int} (terminal : call.ledgerStatus = some status) :
    (terminalLedgerRow leased status call.record id).toLedgerOutcome =
      terminalOutcome ((call.target leased).progress row) := by
  obtain ⟨httpStatus, errorClass, -, completedAt⟩ := call.target_evidence leased
  have state := call.target_state leased
  have notClaimed := call.ledgerStatus_ne_claimed
  rw [terminal] at completedAt state notClaimed
  simp only [terminalLedgerRow, terminalOutcome, TransitionTarget.progress,
    httpStatus, errorClass, completedAt, state, stored.number, Option.isSome_some, if_true]
  cases status with
  | claimed => exact absurd rfl notClaimed
  | delivered => rfl
  | failed => rfl

/-- An outcome that is not terminal writes no ledger row. -/
theorem ledgerStatus_eq_none_iff :
    call.ledgerStatus = none ↔ ¬ ((call.target leased).progress row).Terminal := by
  have target := call.target_state leased
  cases status : call.ledgerStatus with
  | none =>
      rw [status] at target
      simp [OutboxProgress.Terminal, TransitionTarget.progress, target, outcomeState]
  | some final =>
      rw [status] at target
      cases final <;>
        simp [OutboxProgress.Terminal, TransitionTarget.progress, target, outcomeState]

/-- An outcome writes the ledger row of its own evaluation only, and only a terminal one. -/
theorem ledgerRow?_of_other (stored : OutcomeStored leased call row state next)
    (other : ¬ ((row.tenantId = tenantId ∧ row.evaluationId = evaluationId) ∧
      ((call.target leased).progress row).Terminal)) :
    next.db.ledgerRow? tenantId evaluationId = state.db.ledgerRow? tenantId evaluationId := by
  have written := stored.commit.ledger stored.before.noClaim
  cases status : call.ledgerStatus with
  | none =>
      rw [status] at written
      exact ledgerRow?_congr written _ _
  | some terminal =>
      rw [status] at written
      obtain ⟨same, -⟩ | ⟨⟨id, appended⟩, -⟩ := written
      · exact ledgerRow?_congr same _ _
      · rw [ledgerRow?_append appended, if_neg, Option.or_none]
        rintro ⟨tenant, evaluation⟩
        have ends : ((call.target leased).progress row).Terminal := by
          by_contra pending
          rw [ledgerStatus_eq_none_iff.mpr pending] at status
          cases status
        exact other ⟨⟨stored.identity.tenantId.symm.trans tenant,
          stored.identity.evaluationId.symm.trans evaluation⟩, ends⟩

/-- The ledger row of the evaluation after a terminal outcome: the one that was there, or
the first one, which reports the row. -/
theorem ledgerRow? (stored : OutcomeStored leased call row state next)
    (terminal : ((call.target leased).progress row).Terminal) :
    (next.db.ledgerRow? row.tenantId row.evaluationId =
        state.db.ledgerRow? row.tenantId row.evaluationId ∧
        (state.db.ledgerRow? row.tenantId row.evaluationId).isSome) ∨
      (state.db.ledgerRow? row.tenantId row.evaluationId = none ∧
        (next.db.ledgerRow? row.tenantId row.evaluationId).map (·.toLedgerOutcome) =
          some (terminalOutcome ((call.target leased).progress row))) := by
  have identity := stored.identity
  have written := stored.commit.ledger stored.before.noClaim
  cases status : call.ledgerStatus with
  | none => exact absurd terminal (ledgerStatus_eq_none_iff.mp status)
  | some final =>
      rw [status] at written
      simp only [LedgerWritten, identity.tenantId, identity.evaluationId] at written
      obtain ⟨same, present⟩ | ⟨⟨id, appended⟩, missing⟩ := written
      · exact .inl ⟨ledgerRow?_congr same _ _, present⟩
      · refine .inr ⟨missing, ?_⟩
        rw [ledgerRow?_append appended, missing, Option.none_or,
          if_pos ⟨identity.tenantId, identity.evaluationId⟩, Option.map_some,
          stored.terminalOutcome_eq status]

/-- The first terminal outcome of an evaluation that had none. -/
theorem firstTerminal_eq (stored : OutcomeStored leased call row state next)
    (history : LedgerHistory seen state)
    (terminal : ((call.target leased).progress row).Terminal)
    (missing : state.db.ledgerRow? row.tenantId row.evaluationId = none) :
    firstTerminal row.tenantId row.evaluationId (seen ++ [next]) =
      some (row.set ((call.target leased).progress row)) := by
  have none_ : firstTerminal row.tenantId row.evaluationId seen = none := by
    have outcome := history.outcome row.tenantId row.evaluationId
    rw [missing] at outcome
    simpa using outcome.symm
  rw [firstTerminal_append_singleton, none_, Option.none_or]
  cases found : next.db.terminalRow? row.tenantId row.evaluationId with
  | none =>
      have present : (next.db.terminalRow? row.tenantId row.evaluationId).isSome :=
        terminalRow?_isSome_iff.mpr ⟨row.set ((call.target leased).progress row),
          stored.moved, rfl, rfl, terminal⟩
      rw [found] at present
      cases present
  | some other =>
      have selected := List.find?_some found
      simp only [decide_eq_true_eq] at selected
      rw [stored.after.intents other (List.mem_of_find?_eq_some found) _ stored.moved selected.1
        selected.2.1]

/-! The history gains an outcome of the active row's evaluation at most. -/

theorem outcome_own (stored : OutcomeStored leased call row state next)
    (history : LedgerHistory seen state)
    (terminal : ((call.target leased).progress row).Terminal) :
    (next.db.ledgerRow? row.tenantId row.evaluationId).map (·.toLedgerOutcome) =
      (firstTerminal row.tenantId row.evaluationId (seen ++ [next])).map
        (terminalOutcome ·.toOutboxProgress) := by
  obtain ⟨same, present⟩ | ⟨missing, written⟩ := stored.ledgerRow? terminal
  · have outcome := history.outcome row.tenantId row.evaluationId
    have earlier : (firstTerminal row.tenantId row.evaluationId seen).isSome := by
      rw [← Option.isSome_map, ← outcome, Option.isSome_map]
      exact present
    obtain ⟨first, found⟩ := Option.isSome_iff_exists.mp earlier
    rw [firstTerminal_append_singleton, found, Option.some_or, same, outcome, found]
  · rw [stored.firstTerminal_eq history terminal missing]
    exact written

theorem outcome_other (stored : OutcomeStored leased call row state next)
    (history : LedgerHistory seen state)
    (other : ¬ ((row.tenantId = tenantId ∧ row.evaluationId = evaluationId) ∧
      ((call.target leased).progress row).Terminal)) :
    (next.db.ledgerRow? tenantId evaluationId).map (·.toLedgerOutcome) =
      (firstTerminal tenantId evaluationId (seen ++ [next])).map
        (terminalOutcome ·.toOutboxProgress) := by
  rw [firstTerminal_of_earlier history.visited, ← history.outcome]
  · exact congrArg (Option.map _) (stored.ledgerRow?_of_other other)
  · rintro moved member rfl rfl terminal
    obtain ⟨old, -⟩ | rfl := stored.mem_outbox member
    · exact old
    · exact absurd ⟨⟨rfl, rfl⟩, terminal⟩ other

/-- The ledger reports every row that was not re-driven. -/
theorem exact_ (stored : OutcomeStored leased call row state next)
    (history : LedgerHistory seen state) {other : OutboxRow} (member : other ∈ next.db.outbox)
    (redrives : other.redriveCount = 0) (terminal : other.Terminal) :
    (next.db.ledgerRow? other.tenantId other.evaluationId).map (·.toLedgerOutcome) =
      some (terminalOutcome other.toOutboxProgress) := by
  obtain ⟨old, otherId⟩ | rfl := stored.mem_outbox member
  · have key : ¬ (row.tenantId = other.tenantId ∧ row.evaluationId = other.evaluationId) :=
      fun same => otherId (congrArg (·.outboxId)
        (stored.before.intents row stored.member other old same.1 same.2)).symm
    rw [← history.exact_ other old redrives terminal]
    exact congrArg (Option.map _) (stored.ledgerRow?_of_other fun own => key own.1)
  · obtain ⟨same, present⟩ | ⟨-, written⟩ := stored.ledgerRow? terminal
    · -- A ledger row of a row in flight is left by an earlier dead letter.
      obtain ⟨entry, found⟩ := Option.isSome_iff_exists.mp present
      have agrees := (stored.before.rows row stored.member).ledger
      rw [found] at agrees
      have unredriven : row.redriveCount = 0 := redrives
      have earlier := agrees.1
      simp [stored.inFlight, unredriven] at earlier
    · exact written

theorem uniqueLedger (stored : OutcomeStored leased call row state next)
    (history : LedgerHistory seen state) :
    (next.db.ledger.map (fun entry => (entry.tenantId, entry.evaluationId))).Nodup := by
  have written := stored.commit.ledger stored.before.noClaim
  cases status : call.ledgerStatus with
  | none =>
      rw [status] at written
      rw [written]
      exact history.uniqueLedger
  | some final =>
      rw [status] at written
      obtain ⟨same, -⟩ | ⟨⟨id, appended⟩, missing⟩ := written
      · rw [same]
        exact history.uniqueLedger
      · rw [appended, List.map_append, List.map_singleton]
        refine List.Nodup.append history.uniqueLedger (List.nodup_singleton _) ?_
        rw [List.disjoint_singleton]
        intro present
        obtain ⟨entry, entryMember, same⟩ := List.mem_map.mp present
        obtain ⟨tenant, evaluation⟩ := Prod.mk.inj same
        have absent := List.find?_eq_none.mp missing entry entryMember
        simp only [Bool.and_eq_true, beq_iff_eq] at absent
        exact absent ⟨tenant, evaluation⟩

theorem uniqueEvents (stored : OutcomeStored leased call row state next)
    (history : LedgerHistory seen state) :
    (next.db.attemptEvents.map (fun event => (event.outboxId, event.attemptNumber))).Nodup := by
  obtain ⟨⟨id, appended⟩, fresh⟩ := stored.attemptEvents
  rw [appended, List.map_append, List.map_singleton]
  refine List.Nodup.append history.uniqueEvents (List.nodup_singleton _) ?_
  rw [List.disjoint_singleton]
  intro present
  obtain ⟨event, eventMember, same⟩ := List.mem_map.mp present
  exact fresh event eventMember same

theorem current (stored : OutcomeStored leased call row state next)
    (history : LedgerHistory seen state) {other : OutboxRow} (member : other ∈ next.db.outbox)
    (attempted : 1 ≤ other.attemptCount) (leaves : other.state ≠ .inFlight) :
    ∃ event ∈ next.db.attemptEvents, event.outboxId = other.outboxId ∧
      event.attemptNumber = other.attemptCount := by
  obtain ⟨⟨id, appended⟩, -⟩ := stored.attemptEvents
  rw [appended]
  obtain ⟨old, otherId⟩ | rfl := stored.mem_outbox member
  · obtain ⟨event, eventMember, found⟩ := history.current other old attempted leaves
    exact ⟨event, List.mem_append_left _ eventMember, found⟩
  · exact ⟨_, List.mem_append_right _ (List.mem_singleton_self _), stored.identity.outboxId,
      stored.number.symm⟩

theorem ledgerHistory (stored : OutcomeStored leased call row state next)
    (history : LedgerHistory seen state) : LedgerHistory (seen ++ [next]) next where
  visited := List.mem_append_right _ (List.mem_singleton_self _)
  outcome := by
    intro tenantId evaluationId
    by_cases own : (row.tenantId = tenantId ∧ row.evaluationId = evaluationId) ∧
        ((call.target leased).progress row).Terminal
    · obtain ⟨⟨rfl, rfl⟩, terminal⟩ := own
      exact stored.outcome_own history terminal
    · exact stored.outcome_other history own
  exact_ := fun _ member => stored.exact_ history member
  uniqueLedger := stored.uniqueLedger history
  uniqueEvents := stored.uniqueEvents history
  current := fun _ member => stored.current history member

end OutcomeStored

theorem ledgerHistory_record {ids : SequenceValues} {db : AlertDb} {recorded : List (Int × Int)}
    (history : LedgerHistory seen state) (invariant : OutboxInvariant state)
    (handedOut : leased ∈ state.handedOut) (arguments : call.argumentError leased = none)
    (accepted : commitOutcome leased call.record call.ledgerStatus (call.target leased) ids
      state.db = .ok db) :
    LedgerHistory (seen ++ [⟨db, state.handedOut, recorded⟩]) ⟨db, state.handedOut, recorded⟩ := by
  have commit := commitOutcome_ok accepted
  obtain ⟨row, member, active⟩ := commit.active
  have stored : OutcomeStored leased call row state ⟨db, state.handedOut, recorded⟩ :=
    ⟨invariant, outboxInvariant_record invariant handedOut arguments accepted, handedOut, member,
      active, commit⟩
  exact stored.ledgerHistory history

end Outcome

theorem ledgerHistory_step {op : OutboxOp} (history : LedgerHistory seen state)
    (invariant : OutboxInvariant state) (step : OutboxStep state op next) :
    LedgerHistory (seen ++ [next]) next := by
  cases step with
  | rejected =>
      exact ledgerHistory_quiet history rfl rfl (fun row member _ => member)
        (fun row member _ leaves => ⟨row, member, rfl, rfl, leaves⟩)
  | appendEvaluation accepted => exact ledgerHistory_appendEvaluation history accepted
  | enqueue accepted => exact ledgerHistory_enqueue history accepted
  | lease accepted => exact ledgerHistory_lease history accepted
  | record handedOut arguments accepted =>
      exact ledgerHistory_record history invariant handedOut arguments accepted
  | redrive commit => exact ledgerHistory_redrive history commit

end Steps

/-! ## Every run -/

theorem ledgerHistory_run (ops : List OutboxOp) :
    LedgerHistory (OutboxSystem.initial.states ops) (OutboxSystem.initial.run ops) := by
  induction ops using List.reverseRecOn with
  | nil => exact ledgerHistory_initial
  | append_singleton before op inductionHypothesis =>
      rw [states_append_singleton, run_append_singleton]
      exact ledgerHistory_step inductionHypothesis
        (outboxInvariant_run before outboxInvariant_initial) (outboxStep_step _ op)

/-- A first terminal outcome stays the first. -/
theorem firstTerminal_append {tenantId : String} {evaluationId : Int} {row : OutboxRow}
    (ops later : List OutboxOp)
    (first : firstTerminal tenantId evaluationId (OutboxSystem.initial.states ops) = some row) :
    firstTerminal tenantId evaluationId (OutboxSystem.initial.states (ops ++ later)) =
      some row := by
  induction later using List.reverseRecOn with
  | nil => rwa [List.append_nil]
  | append_singleton before op inductionHypothesis =>
      rw [← List.append_assoc, states_append_singleton, firstTerminal_append_singleton,
        inductionHypothesis, Option.some_or]

/-- The ledger of a run in terms of its history. -/
structure LedgerIsFirstOutcome (states : List OutboxSystem) (db : AlertDb) : Prop where
  /-- An evaluation has a ledger row once its outbox row has been terminal, and the
  row reports the first such moment. -/
  first : ∀ tenantId evaluationId,
    (db.ledgerRow? tenantId evaluationId).map (·.toLedgerOutcome) =
      (firstTerminal tenantId evaluationId states).map (terminalOutcome ·.toOutboxProgress)
  unique : ∀ entry ∈ db.ledger, db.ledgerRow? entry.tenantId entry.evaluationId = some entry
  owner : ∀ entry ∈ db.ledger, ∃ row ∈ db.outbox,
    row.tenantId = entry.tenantId ∧ row.evaluationId = entry.evaluationId
  status : ∀ entry ∈ db.ledger, ∀ row ∈ db.outbox,
    row.tenantId = entry.tenantId → row.evaluationId = entry.evaluationId →
      entry.status =
        if row.state = .delivered ∧ row.redriveCount = 0 then .delivered else .failed

/-- The attempt events of an outbox row. -/
structure EventsOfRow (db : AlertDb) (row : OutboxRow) : Prop where
  distinct : ((db.attemptEvents.filter (·.outboxId = row.outboxId)).map (·.attemptNumber)).Nodup
  bounds : ∀ event ∈ db.attemptEvents, event.outboxId = row.outboxId →
    1 ≤ event.attemptNumber ∧ event.attemptNumber ≤ row.attemptCount
  current : (∃ event ∈ db.attemptEvents, event.outboxId = row.outboxId ∧
      event.attemptNumber = row.attemptCount) ↔
    row.state ≠ .inFlight ∧ 1 ≤ row.attemptCount

theorem eventsOfRow {seen : List OutboxSystem} {state : OutboxSystem} {row : OutboxRow}
    (history : LedgerHistory seen state) (invariant : OutboxInvariant state)
    (member : row ∈ state.db.outbox) : EventsOfRow state.db row := by
  have positive : ∀ event ∈ state.db.attemptEvents, 1 ≤ event.attemptNumber := by
    intro event recorded
    have check := invariant.evidence.eventChecks event recorded
      ("alert_delivery_attempt_event_attempt_number_check",
        1 ≤ event.attemptNumber ∧ event.attemptNumber ≤ 100) (by simp [AttemptEventRow.checks])
    exact (decide_eq_true_eq.mp check).1
  refine ⟨?_, fun event recorded owner =>
    ⟨positive event recorded, ((invariant.rows row member).events event recorded owner).1⟩, ?_⟩
  · refine List.Nodup.map_on (fun left leftMember right rightMember same => ?_)
      (history.uniqueEvents.of_map.filter _)
    simp only [List.mem_filter, decide_eq_true_eq] at leftMember rightMember
    exact List.inj_on_of_nodup_map history.uniqueEvents leftMember.1 rightMember.1
      (Prod.ext (leftMember.2.trans rightMember.2.symm) same)
  · constructor
    · rintro ⟨event, recorded, owner, number⟩
      have bound := (invariant.rows row member).events event recorded owner
      have atLeast := positive event recorded
      exact ⟨fun inFlight => by have := bound.2 inFlight; omega, by omega⟩
    · rintro ⟨leaves, attempted⟩
      exact history.current row member attempted leaves

theorem ledgerIsFirstOutcome {seen : List OutboxSystem} {state : OutboxSystem}
    (history : LedgerHistory seen state) (invariant : OutboxInvariant state) :
    LedgerIsFirstOutcome seen state.db := by
  have unique : ∀ entry ∈ state.db.ledger,
      state.db.ledgerRow? entry.tenantId entry.evaluationId = some entry := by
    intro entry member
    cases found : state.db.ledgerRow? entry.tenantId entry.evaluationId with
    | none =>
        have absent := List.find?_eq_none.mp found entry member
        simp at absent
    | some other =>
        have selected := List.find?_some found
        simp only [Bool.and_eq_true, beq_iff_eq] at selected
        rw [List.inj_on_of_nodup_map history.uniqueLedger (List.mem_of_find?_eq_some found) member
          (Prod.ext selected.1 selected.2)]
  refine ⟨history.outcome, unique, invariant.ledgerOwner,
    fun entry member row rowMember tenant evaluation => ?_⟩
  have found : state.db.ledgerRow? row.tenantId row.evaluationId = some entry := by
    rw [tenant, evaluation]
    exact unique entry member
  have agrees := (invariant.rows row rowMember).ledger
  rw [found] at agrees
  obtain ⟨written, -, failed⟩ := agrees
  have nonneg := (invariant.rows row rowMember).counters.nonneg
  split
  case isTrue delivered =>
    have exact_ := history.exact_ row rowMember delivered.2 (.inl delivered.1)
    rw [found] at exact_
    simpa [terminalOutcome, delivered.1] using congrArg (·.map LedgerOutcome.status) exact_
  case isFalse other =>
    refine failed ?_
    rcases written with redriven | state | state
    · exact .inl redriven
    · exact .inl (by have := mt (And.intro state) other; omega)
    · exact .inr state

/-- The terminal ledger is the first terminal outcome of every evaluation, whatever
happens to its outbox row afterwards, and the attempt events of a row are those of
its attempts that ended. -/
theorem ledger_is_first_terminal_outcome (ops later : List OutboxOp) :
    LedgerIsFirstOutcome (OutboxSystem.initial.states ops) (OutboxSystem.initial.run ops).db ∧
    (∀ tenantId evaluationId entry,
      (OutboxSystem.initial.run ops).db.ledgerRow? tenantId evaluationId = some entry →
      ((OutboxSystem.initial.run (ops ++ later)).db.ledgerRow? tenantId evaluationId).map
        (·.toLedgerOutcome) = some entry.toLedgerOutcome) ∧
    ∀ row ∈ (OutboxSystem.initial.run ops).db.outbox,
      EventsOfRow (OutboxSystem.initial.run ops).db row := by
  have history := ledgerHistory_run ops
  have invariant := outboxInvariant_run ops outboxInvariant_initial
  refine ⟨ledgerIsFirstOutcome history invariant, fun tenantId evaluationId entry found => ?_,
    fun row member => eventsOfRow history invariant member⟩
  have outcome := history.outcome tenantId evaluationId
  rw [found] at outcome
  obtain ⟨row, first, same⟩ := Option.map_eq_some_iff.mp outcome.symm
  rw [(ledgerHistory_run (ops ++ later)).outcome, firstTerminal_append ops later first,
    Option.map_some, same]

end StockoutOps.Alerting
