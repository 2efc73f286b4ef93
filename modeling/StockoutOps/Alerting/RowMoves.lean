import StockoutOps.Alerting.LedgerHistory

/-!
Contract: one transaction, seen from one row of the outbox.

Owns: the moves a row can make (`RowMove`), that every transaction moves every
row by one of them, and what a move keeps.

Does not own: the runs in which the moves follow each other.
-/

namespace StockoutOps.Alerting

open StockoutOps.Sql

/-- What an operation can do to a row. -/
inductive RowMove (state : OutboxSystem) : OutboxOp → OutboxRow → OutboxRow → Prop where
  | same {op : OutboxOp} {row : OutboxRow} : RowMove state op row row
  | claimed {request : LeaseRequest} {locked : Int → Bool} {row : OutboxRow}
      (claimed : claims request locked state.db row = true) :
      RowMove state (.lease request locked) row (row.set (leaseProgress request row))
  | recorded {leased : LeasedDelivery} {call : RecordCall} {ids : SequenceValues}
      {row : OutboxRow} (active : activeLease leased row = true) :
      RowMove state (.record leased call ids) row (row.set ((call.target leased).progress row))
  | redriven {request : RedriveRequest} {ceiling : Int} {row : OutboxRow}
      (selected : redriveTarget request row = true) :
      RowMove state (.redrive request) row (row.set (redriveProgress request ceiling row))

section Moves

variable {state next : OutboxSystem} {op : OutboxOp} {row after : OutboxRow}
  {leased : LeasedDelivery}

theorem RowMove.identity (move : RowMove state op row after) :
    after.toOutboxIdentity = row.toOutboxIdentity := by
  cases move <;> rfl

/-- A terminal row stays as it is until it is re-driven. -/
theorem RowMove.terminal (move : RowMove state op row after) (invariant : OutboxInvariant state)
    (member : row ∈ state.db.outbox) (terminal : row.Terminal) :
    after = row ∨ ∃ request, op = .redrive request ∧ redriveTarget request row = true := by
  cases move with
  | same => exact .inl rfl
  | claimed claimed =>
      have due := leasable_of_claims invariant.evidence.uniqueIds member claimed
      rcases terminal with final | final <;> simp [leasable, final] at due
  | recorded active =>
      simp only [activeLease, Bool.and_eq_true, beq_iff_eq] at active
      rcases terminal with final | final <;> simp [final] at active
  | redriven selected => exact .inr ⟨_, rfl, selected⟩

/-- A row in flight at the number of an earlier delivery has been so before. -/
theorem RowMove.inFlight (move : RowMove state op row after) (from_ : HandedOut leased row)
    (inFlight : after.state = .inFlight) (number : after.attemptCount = leased.attemptNumber) :
    after = row := by
  cases move with
  | same => rfl
  | claimed =>
      have raised : row.attemptCount + 1 = leased.attemptNumber := number
      have bound := from_.bound
      omega
  | @recorded other call ids =>
      have left : (call.target other).state = .inFlight := inFlight
      rw [RecordCall.target_state] at left
      cases call <;> simp [RecordCall.ledgerStatus, outcomeState] at left
  | redriven => cases inFlight

/-- Every transaction moves every row, or appends an intent. -/
theorem OutboxStep.rows (step : OutboxStep state op next) (invariant : OutboxInvariant state) :
    (∃ move, next.db.outbox = state.db.outbox.map move ∧
      ∀ row ∈ state.db.outbox, RowMove state op row (move row)) ∨
    ∃ request candidateId id, op = .enqueue request candidateId ∧
      next.db.outbox = state.db.outbox ++ [request.row id] := by
  cases step with
  | rejected => exact .inl ⟨id, (List.map_id _).symm, fun _ _ => .same⟩
  | appendEvaluation accepted =>
      obtain ⟨rfl, -⟩ := insertEvaluation_ok accepted
      exact .inl ⟨id, (List.map_id _).symm, fun _ _ => .same⟩
  | enqueue accepted =>
      obtain rfl | ⟨id, rfl, -⟩ := enqueueInTransaction_ok accepted
      · exact .inl ⟨_, (List.map_id _).symm, fun _ _ => .same⟩
      · exact .inr ⟨_, _, id, rfl, rfl⟩
  | @lease request locked batch db accepted =>
      obtain rfl := (lease_ok accepted).tables
      refine .inl ⟨_, rfl, fun row _ => ?_⟩
      cases claimed : claims request locked state.db row with
      | true => exact rewriteOutbox_of_selected claimed ▸ .claimed claimed
      | false => exact (rewriteOutbox_of_other claimed).symm ▸ .same
  | @record leased call ids db handedOut arguments accepted =>
      have commit := commitOutcome_ok accepted
      refine .inl ⟨_, commit.outbox, fun row member => ?_⟩
      obtain ⟨target, targetMember, active⟩ := commit.active
      cases held : holdsLease leased row with
      | true =>
          obtain rfl := (holdsLease_iff invariant handedOut targetMember active member).mp held
          exact rewriteOutbox_of_selected held ▸ .recorded active
      | false => exact (rewriteOutbox_of_other held).symm ▸ .same
  | @redrive request ceiling db commit =>
      obtain ⟨rfl, -⟩ := updateOutbox_eq_ok.mp commit.update
      refine .inl ⟨rewriteOutbox (redriveTarget request) (redriveProgress request ceiling), rfl,
        fun row _ => ?_⟩
      cases selected : redriveTarget request row with
      | true => exact rewriteOutbox_of_selected selected ▸ .redriven selected
      | false => exact (rewriteOutbox_of_other selected).symm ▸ .same

/-- Every transaction keeps every row, moved. -/
theorem OutboxStep.rowMove (step : OutboxStep state op next) (invariant : OutboxInvariant state)
    (member : row ∈ state.db.outbox) : ∃ later ∈ next.db.outbox, RowMove state op row later := by
  obtain ⟨move, outbox, moves⟩ | ⟨request, candidateId, id, -, outbox⟩ := step.rows invariant
  · exact ⟨move row, outbox ▸ List.mem_map_of_mem member, moves row member⟩
  · exact ⟨row, outbox ▸ List.mem_append_left _ member, .same⟩

/-- Only a writer adds evaluations. -/
theorem OutboxStep.evaluations (step : OutboxStep state op next)
    (other : ∀ row, op ≠ .appendEvaluation row) :
    next.db.evaluations = state.db.evaluations := by
  cases step with
  | rejected => rfl
  | appendEvaluation => exact absurd rfl (other _)
  | enqueue accepted =>
      obtain rfl | ⟨id, rfl, -⟩ := enqueueInTransaction_ok accepted <;> rfl
  | lease accepted =>
      obtain rfl := (lease_ok accepted).tables
      rfl
  | record _ _ accepted => exact (commitOutcome_ok accepted).evaluations
  | redrive commit =>
      obtain ⟨rfl, -⟩ := updateOutbox_eq_ok.mp commit.update
      rfl

/-- Only a record operation adds events. -/
theorem OutboxStep.attemptEvents (step : OutboxStep state op next)
    (other : ∀ leased call ids, op ≠ .record leased call ids) :
    next.db.attemptEvents = state.db.attemptEvents := by
  cases step with
  | rejected => rfl
  | appendEvaluation accepted =>
      obtain ⟨rfl, -⟩ := insertEvaluation_ok accepted
      rfl
  | enqueue accepted =>
      obtain rfl | ⟨id, rfl, -⟩ := enqueueInTransaction_ok accepted <;> rfl
  | lease accepted =>
      obtain rfl := (lease_ok accepted).tables
      rfl
  | record => exact absurd rfl (other _ _ _)
  | redrive commit =>
      obtain ⟨rfl, -⟩ := updateOutbox_eq_ok.mp commit.update
      rfl

end Moves

end StockoutOps.Alerting
