import StockoutOps.Alerting.OutboxRuns
import StockoutOps.Foundation.Fencing

/-!
Contract: the attempt number of an outbox row is a fencing token.

Owns: the reading of the outbox as a fencing protocol, the simulation, and what
it says about leases and record operations.

Does not own: the protocol's invariant.

Enqueue and re-drive leave every token as it is. A lease takes tokens and an
outcome settles one; the lease owner plays no part, so workers may share an id.
-/

namespace StockoutOps.Alerting

open StockoutOps.Foundation StockoutOps.Sql

/-- The pair a delivery was handed out for. -/
def LeasedDelivery.ticket (leased : LeasedDelivery) : Int × Int :=
  (leased.outboxId, leased.attemptNumber)

/-- The token of a row is its attempt count; it may be settled while in flight. -/
def slotOf : Option OutboxRow → Fencing.Slot
  | none => ⟨0, false⟩
  | some row => ⟨row.attemptCount, row.state == .inFlight⟩

def OutboxSystem.fencing (state : OutboxSystem) : Fencing.State Int where
  slot := fun id => slotOf (state.db.outboxRow? id)
  taken := state.handedOut.map LeasedDelivery.ticket
  settled := state.recorded

@[simp] theorem OutboxSystem.fencing_slot (state : OutboxSystem) (id : Int) :
    state.fencing.slot id = slotOf (state.db.outboxRow? id) := rfl

section Simulation

variable {state next : OutboxSystem}

/-- A new intent has the token its id had before. -/
theorem fencing_appendRow (row : OutboxRow)
    (unattempted : row.attemptCount = 0 ∧ row.state = .pending) :
    ({ state with db := { state.db with outbox := state.db.outbox ++ [row] } } :
      OutboxSystem).fencing = state.fencing := by
  unfold OutboxSystem.fencing
  congr 1
  funext id
  simp only [AlertDb.outboxRow?, List.find?_append]
  cases state.db.outbox.find? (fun row => row.outboxId == id) with
  | some found => rfl
  | none =>
      rw [Option.none_or, List.find?_singleton]
      split <;> simp [slotOf, unattempted]

/-- A lease takes the token of every row it claims. -/
theorem fencing_lease {request : LeaseRequest} {locked : Int → Bool}
    {batch : List LeasedDelivery} {db : AlertDb} (invariant : OutboxInvariant state)
    (accepted : lease request locked state.db = .ok (batch, db)) :
    Fencing.Step state.fencing
      { state with db := db, handedOut := state.handedOut ++ batch : OutboxSystem }.fencing := by
  have commit := lease_ok accepted
  have unique := invariant.evidence.uniqueIds
  have step := Fencing.Step.take state.fencing (batch.map (·.outboxId)) (commit.batch_nodup unique)
  have slots : Fencing.take (batch.map (·.outboxId)) state.fencing.slot =
      fun id => slotOf (db.outboxRow? id) := by
    funext id
    rw [outboxRow?_rewrite (by rw [commit.tables])]
    unfold Fencing.take
    rw [OutboxSystem.fencing_slot]
    cases lookup : state.db.outboxRow? id with
    | none =>
        rw [if_neg]
        · rfl
        · intro claimed
          obtain ⟨leased, member, rfl⟩ := List.mem_map.mp claimed
          obtain ⟨row, rowMember, -, rfl⟩ := commit.mem_batch.mp member
          exact outboxRow?_eq_none_iff.mp lookup row rowMember rfl
    | some row =>
        obtain ⟨rowMember, rfl⟩ := (outboxRow?_eq_some_iff unique).mp lookup
        cases claimed : claims request locked state.db row with
        | true =>
            rw [if_pos]
            · simp [slotOf, rewriteOutbox_of_selected claimed, leaseProgress]
            · exact List.mem_map.mpr
                ⟨_, commit.mem_batch.mpr ⟨row, rowMember, claimed, rfl⟩, rfl⟩
        | false =>
            rw [if_neg]
            · simp [rewriteOutbox_of_other claimed]
            · intro inBatch
              obtain ⟨leased, member, same⟩ := List.mem_map.mp inBatch
              obtain ⟨other, otherMember, otherClaimed, rfl⟩ := commit.mem_batch.mp member
              obtain rfl := eq_of_outboxId_eq unique otherMember rowMember same
              rw [claimed] at otherClaimed
              cases otherClaimed
  have taken : (batch.map (·.outboxId)).map (fun id => (id, (state.fencing.slot id).token + 1)) =
      batch.map LeasedDelivery.ticket := by
    rw [List.map_map]
    refine List.map_congr_left (fun leased member => ?_)
    obtain ⟨row, rowMember, -, rfl⟩ := commit.mem_batch.mp member
    have lookup := (outboxRow?_eq_some_iff unique).mpr ⟨rowMember, rfl⟩
    show (row.outboxId, (state.fencing.slot row.outboxId).token + 1) =
      (row.outboxId, row.attemptCount + 1)
    rw [OutboxSystem.fencing_slot, lookup]
    rfl
  rw [slots, taken] at step
  simpa [OutboxSystem.fencing] using step

/-- A committed outcome settles the token of its row. -/
theorem fencing_record {leased : LeasedDelivery} {call : RecordCall} {ids : SequenceValues}
    {db : AlertDb} (invariant : OutboxInvariant state) (handedOut : leased ∈ state.handedOut)
    (accepted : commitOutcome leased call.record call.ledgerStatus (call.target leased) ids
      state.db = .ok db) :
    Fencing.Step state.fencing
      (⟨db, state.handedOut, state.recorded ++ [leased.ticket]⟩ : OutboxSystem).fencing := by
  have commit := commitOutcome_ok accepted
  have unique := invariant.evidence.uniqueIds
  obtain ⟨row, member, active⟩ := commit.active
  obtain ⟨identity, inFlight, number, -, -⟩ := active_row invariant handedOut member active
  have lookup := (outboxRow?_eq_some_iff unique).mpr ⟨member, rfl⟩
  have slot : state.fencing.slot row.outboxId = ⟨leased.attemptNumber, true⟩ := by
    simp [lookup, slotOf, number, inFlight]
  have step := Fencing.Step.settle state.fencing row.outboxId (by rw [slot])
  have slots : Function.update state.fencing.slot row.outboxId
      ⟨(state.fencing.slot row.outboxId).token, false⟩ = fun id => slotOf (db.outboxRow? id) := by
    funext id
    rw [outboxRow?_rewrite commit.outbox]
    by_cases same : id = row.outboxId
    · subst same
      rw [Function.update_self, slot, lookup]
      have held := (holdsLease_iff invariant handedOut member active member).mpr rfl
      have leaves : (call.target leased).state ≠ .inFlight := by
        rw [call.target_state leased]
        cases call <;> simp [RecordCall.ledgerStatus, outcomeState]
      simp [slotOf, rewriteOutbox_of_selected held, TransitionTarget.progress, number, leaves]
    · rw [Function.update_of_ne same]
      cases found : state.db.outboxRow? id with
      | none => simp [found]
      | some other =>
          obtain ⟨otherMember, rfl⟩ := (outboxRow?_eq_some_iff unique).mp found
          have notHeld : holdsLease leased other = false := by
            cases held : holdsLease leased other with
            | false => rfl
            | true =>
                rw [holdsLease_iff invariant handedOut member active otherMember] at held
                exact absurd (congrArg (·.outboxId) held) same
          simp [found, rewriteOutbox_of_other notHeld]
  rw [slots, slot, ← identity.outboxId] at step
  exact step

theorem fencing_redrive {request : RedriveRequest} {ceiling : Int} {db : AlertDb}
    (commit : RedriveCommit request state.db db ceiling) :
    ({ state with db := db } : OutboxSystem).fencing = state.fencing := by
  have outbox : db.outbox = state.db.outbox.map
      (rewriteOutbox (redriveTarget request) (redriveProgress request ceiling)) := by
    rw [(updateOutbox_eq_ok.mp commit.update).1]
    rfl
  unfold OutboxSystem.fencing
  congr 1
  funext id
  rw [outboxRow?_rewrite outbox]
  cases state.db.outboxRow? id with
  | none => rfl
  | some row =>
      cases selected : redriveTarget request row with
      | false => simp [rewriteOutbox_of_other selected]
      | true =>
          rw [Option.map_some, rewriteOutbox_of_selected selected]
          simp only [redriveTarget, Bool.and_eq_true, beq_iff_eq] at selected
          simp [slotOf, redriveProgress, selected.2]

/-- The outbox simulates the fencing protocol. -/
theorem fencing_step {op : OutboxOp} (invariant : OutboxInvariant state)
    (step : OutboxStep state op next) :
    Relation.ReflTransGen Fencing.Step state.fencing next.fencing := by
  cases step with
  | rejected => exact .refl
  | appendEvaluation accepted =>
      obtain ⟨rfl, -⟩ := insertEvaluation_ok accepted
      exact .refl
  | @enqueue request _ _ _ accepted =>
      obtain rfl | ⟨id, rfl, -⟩ := enqueueInTransaction_ok accepted
      · exact .refl
      · rw [fencing_appendRow (request.row id) ⟨rfl, rfl⟩]
  | lease accepted => exact .single (fencing_lease invariant accepted)
  | record handedOut _ accepted => exact .single (fencing_record invariant handedOut accepted)
  | redrive commit =>
      rw [fencing_redrive commit]

theorem fencing_run (ops : List OutboxOp) (invariant : OutboxInvariant state) :
    Relation.ReflTransGen Fencing.Step state.fencing (state.run ops).fencing := by
  induction ops generalizing state with
  | nil => exact .refl
  | cons op rest inductionHypothesis =>
      have step := outboxStep_step state op
      exact (fencing_step invariant step).trans
        (inductionHypothesis (outboxInvariant_step invariant step))

theorem fencingInvariant_run (ops : List OutboxOp) :
    Fencing.Invariant (OutboxSystem.initial.run ops).fencing :=
  Fencing.invariant_reachable (Fencing.invariant_initial _)
    (fencing_run ops outboxInvariant_initial)

end Simulation

/-! ## What a record operation does for a stale delivery -/

/-- The row is in flight at exactly the delivery's attempt. -/
def InFlightAt (db : AlertDb) (leased : LeasedDelivery) : Prop :=
  ∃ row ∈ db.outbox, row.outboxId = leased.outboxId ∧ row.state = .inFlight ∧
    row.attemptCount = leased.attemptNumber

/-- The outcome is one the operation accepts; otherwise it raises ValueError
before it reads anything. -/
def RecordCall.wellFormed : RecordCall → Bool
  | .delivered httpStatus _ _ => 200 ≤ httpStatus && httpStatus < 300
  | .retry outcome _ _ _ _ _ => outcome == .retryableFailure || outcome == .ambiguous
  | .deadLetter outcome _ _ _ _ => outcome != .delivered

theorem inFlightAt_of_run {db next : AlertDb} {leased : LeasedDelivery} {call : RecordCall}
    {ids : SequenceValues} (accepted : call.run leased ids db = .ok next) :
    InFlightAt db leased := by
  obtain ⟨row, member, active⟩ := (commitOutcome_ok (RecordCall.run_ok accepted).2).active
  simp only [activeLease, Bool.and_eq_true, beq_iff_eq] at active
  exact ⟨row, member, active.1.1.1, active.1.1.2, active.1.2⟩

/-- A well-formed outcome is refused before the transaction only for its budget. -/
theorem RecordCall.argumentError_of_wellFormed {call : RecordCall} {leased : LeasedDelivery}
    (wellFormed : call.wellFormed = true) (positive : 1 ≤ leased.attemptNumber) :
    call.argumentError leased = none ∨ call.argumentError leased = some retryBudgetExhausted := by
  cases call with
  | delivered httpStatus =>
      simp only [RecordCall.wellFormed, Bool.and_eq_true, decide_eq_true_eq] at wellFormed
      exact .inl (if_neg (not_not.mpr wellFormed))
  | retry outcome =>
      have accepted : ¬ (outcome ≠ .retryableFailure ∧ outcome ≠ .ambiguous) := by
        simp only [RecordCall.wellFormed, Bool.or_eq_true, beq_iff_eq] at wellFormed
        tauto
      simp only [argumentError, if_neg accepted]
      by_cases final : leased.isFinalAttempt = true
      · exact .inr (if_pos final)
      · exact .inl (by rw [if_neg final, if_neg (by omega)])
  | deadLetter outcome =>
      simp only [RecordCall.wellFormed, bne_iff_ne, ne_eq] at wellFormed
      exact .inl (if_neg wellFormed)

theorem RecordCall.argumentError_of_not_wellFormed {call : RecordCall} (leased : LeasedDelivery)
    (rejected : call.wellFormed = false) :
    ∃ message, call.argumentError leased = some (.valueError message) := by
  cases call with
  | delivered httpStatus =>
      refine ⟨_, if_pos fun inRange => ?_⟩
      simp [RecordCall.wellFormed, inRange] at rejected
  | retry outcome =>
      refine ⟨_, if_pos ?_⟩
      simpa [RecordCall.wellFormed] using rejected
  | deadLetter outcome =>
      refine ⟨_, if_pos ?_⟩
      simpa [RecordCall.wellFormed] using rejected

theorem commitOutcome_of_stale {db : AlertDb} {leased : LeasedDelivery} {record : AttemptRecord}
    {ledgerStatus : Option DeliveryStatus} {target : TransitionTarget} {ids : SequenceValues}
    (stale : ¬ InFlightAt db leased) :
    commitOutcome leased record ledgerStatus target ids db = .error leaseLost := by
  have inactive : db.outbox.any (activeLease leased) = false := by
    rw [List.any_eq_false]
    intro row member active
    simp only [activeLease, Bool.and_eq_true, beq_iff_eq] at active
    exact stale ⟨row, member, active.1.1.1, active.1.1.2, active.1.2⟩
  simp [commitOutcome, appendAttemptEvent, inactive, bind, Except.bind]

/-- Lease fencing, after any operations of any number of workers: no two leases
hand out the same row and attempt number, no two outcomes commit for one, an
outcome commits only while the row is in flight at exactly that number, and a
stale one is refused with the lease-lost or the retry-budget conflict (with
ValueError when its own arguments are not acceptable). A refused operation
changes nothing. -/
theorem lease_fencing (ops : List OutboxOp) :
    let state := OutboxSystem.initial.run ops
    (state.handedOut.map LeasedDelivery.ticket).Nodup ∧ state.recorded.Nodup ∧
      ∀ leased ∈ state.handedOut, ∀ (call : RecordCall) (ids : SequenceValues),
        (∀ next, call.run leased ids state.db = .ok next → InFlightAt state.db leased) ∧
        (∀ error, call.run leased ids state.db = .error error →
          state.step (.record leased call ids) = state) ∧
        (¬ InFlightAt state.db leased → call.wellFormed = true →
          call.run leased ids state.db = .error leaseLost ∨
            call.run leased ids state.db = .error retryBudgetExhausted) ∧
        (call.wellFormed = false →
          ∃ message, call.run leased ids state.db = .error (.valueError message)) := by
  have invariant := outboxInvariant_run ops outboxInvariant_initial
  have fencing := fencingInvariant_run ops
  refine ⟨fencing.takenNodup, fencing.settledNodup, fun leased handedOut call ids =>
    ⟨fun next => inFlightAt_of_run, fun error refused => ?_, fun stale wellFormed => ?_,
      fun rejected => ?_⟩⟩
  · simp [OutboxSystem.step, refused]
  · obtain ⟨row, -, from_⟩ := invariant.handedOut leased handedOut
    rw [RecordCall.run_eq]
    rcases RecordCall.argumentError_of_wellFormed wellFormed from_.positive with none | budget
    · rw [none]
      exact .inl (commitOutcome_of_stale stale)
    · rw [budget]
      exact .inr rfl
  · obtain ⟨message, refused⟩ := RecordCall.argumentError_of_not_wellFormed leased rejected
    exact ⟨message, by rw [RecordCall.run_eq, refused]⟩

end StockoutOps.Alerting
