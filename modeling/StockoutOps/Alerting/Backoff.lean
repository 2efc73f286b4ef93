import Mathlib.Algebra.Order.Ring.Int
import StockoutOps.Alerting.RedriveCeiling
import StockoutOps.Alerting.Worker

/-!
Contract: the earliest time of each delivery attempt.

Owns: the delays under the default base and cap, what a recorded retry fixes
about the next attempt, and the operations that can lower a due time.

Does not own: whether a due row is ever leased.

A retried row is PENDING until it is leased, so its due time stands whatever the
other workers and the operators do. A due time can only be lowered while a row
is in flight; then it lies before the lease, and the lease before its outcome.
-/

namespace StockoutOps.Alerting

open StockoutOps.Sql

/-! ## The delay -/

/-- `min(2 * 2 ** (n - 1), 300)` seconds. -/
def retryDelay (attemptNumber : Int) : Int :=
  min (2 * second * 2 ^ (attemptNumber - 1).toNat) (300 * second)

section Delay

variable {attemptNumber later : Int}

theorem retryDelay_pos (attemptNumber : Int) : 0 < retryDelay attemptNumber := by
  have power : 0 < (2 : Int) ^ (attemptNumber - 1).toNat := Int.pow_pos (by decide)
  have base : 0 < 2 * second * 2 ^ (attemptNumber - 1).toNat :=
    Int.mul_pos (by decide) power
  exact lt_min base (by decide)

theorem retryDelay_le (attemptNumber : Int) : retryDelay attemptNumber ≤ 300 * second :=
  Int.min_le_right _ _

theorem retryDelay_mono (order : attemptNumber ≤ later) :
    retryDelay attemptNumber ≤ retryDelay later := by
  have exponent : (attemptNumber - 1).toNat ≤ (later - 1).toNat := by omega
  have power : (2 : Int) ^ (attemptNumber - 1).toNat ≤ 2 ^ (later - 1).toNat :=
    pow_le_pow_right₀ (by decide) exponent
  exact min_le_min_right _ (Int.mul_le_mul_of_nonneg_left power (by decide))

/-- The clamped exponent is past the cap already. -/
theorem clamped_retryDelay (attemptNumber : Int) :
    min (defaultBackoffBaseSeconds * 2 ^ (min (attemptNumber - 1) 16).toNat)
      defaultBackoffCapSeconds = retryDelay attemptNumber := by
  unfold retryDelay defaultBackoffBaseSeconds defaultBackoffCapSeconds
  rcases Int.le_total (attemptNumber - 1) 16 with small | large
  · rw [Int.min_eq_left small]
  · have exponent : 16 ≤ (attemptNumber - 1).toNat := by omega
    have power : (2 : Int) ^ 16 ≤ 2 ^ (attemptNumber - 1).toNat :=
      pow_le_pow_right₀ (by decide) exponent
    have clamped : 300 * second ≤ 2 * second * 2 ^ 16 := by decide
    have unclamped : 300 * second ≤ 2 * second * 2 ^ (attemptNumber - 1).toNat :=
      Int.le_trans clamped (Int.mul_le_mul_of_nonneg_left power (by decide))
    rw [Int.min_eq_right large, Int.min_eq_right unclamped]
    exact Int.min_eq_right clamped

theorem backoffDelaySeconds_default (positive : 1 ≤ attemptNumber) :
    backoffDelaySeconds attemptNumber defaultBackoffBaseSeconds defaultBackoffCapSeconds =
      .ok (retryDelay attemptNumber) := by
  rw [backoffDelaySeconds, if_neg (by omega), clamped_retryDelay]

end Delay

/-! ## A retried row -/

/-- The row waits for the attempt after `number`, due at `due`, or that attempt
has been handed out. -/
def AwaitsRetry (due : Timestamp) (number : Int) (row : OutboxRow) : Prop :=
  (row.state = .pending ∧ row.attemptCount = number ∧ row.nextAttemptAt = due) ∨
    number < row.attemptCount

section AwaitsRetry

variable {state next : OutboxSystem} {op : OutboxOp} {row after : OutboxRow}
  {due : Timestamp} {number : Int}

theorem AwaitsRetry.move (waiting : AwaitsRetry due number row)
    (move : RowMove state op row after) : AwaitsRetry due number after := by
  cases move with
  | same => exact waiting
  | claimed =>
      -- The attempt is handed out now, or was before.
      have counted : number ≤ row.attemptCount := by
        rcases waiting with ⟨-, same, -⟩ | above
        · exact Int.le_of_eq same.symm
        · exact Int.le_of_lt above
      exact .inr (Int.lt_add_one_of_le counted)
  | recorded active =>
      rcases waiting with ⟨pending, -, -⟩ | above
      · simp [activeLease, pending] at active
      · exact .inr above
  | redriven selected =>
      rcases waiting with ⟨pending, -, -⟩ | above
      · simp [redriveTarget, pending] at selected
      · exact .inr above

theorem awaitsRetry_run (ops : List OutboxOp) (invariant : OutboxInvariant state)
    (member : row ∈ state.db.outbox) (waiting : AwaitsRetry due number row) :
    ∃ later ∈ (state.run ops).db.outbox, later.outboxId = row.outboxId ∧
      AwaitsRetry due number later := by
  induction ops generalizing state row with
  | nil => exact ⟨row, member, rfl, waiting⟩
  | cons op rest inductionHypothesis =>
      have step := outboxStep_step state op
      obtain ⟨moved, movedMember, move⟩ := step.rowMove invariant member
      obtain ⟨later, laterMember, same, stays⟩ :=
        inductionHypothesis (outboxInvariant_step invariant step) movedMember (waiting.move move)
      exact ⟨later, laterMember, same.trans (congrArg OutboxIdentity.outboxId move.identity), stays⟩

/-- A delivery is handed out of a due row, for the attempt after its last. -/
theorem LeaseCommit.dueRow {request : LeaseRequest} {locked : Int → Bool} {db tables : AlertDb}
    {batch : List LeasedDelivery} (commit : LeaseCommit request locked db batch tables)
    (unique : (db.outbox.map (·.outboxId)).Nodup) {delivery : LeasedDelivery}
    (handedOut : delivery ∈ batch) : ∃ row ∈ db.outbox, delivery.outboxId = row.outboxId ∧
      delivery.attemptNumber = row.attemptCount + 1 ∧ row.nextAttemptAt ≤ request.now := by
  obtain ⟨row, member, claimed, rfl⟩ := commit.mem_batch.mp handedOut
  have claimable := leasable_of_claims unique member claimed
  simp only [leasable, Bool.and_eq_true, decide_eq_true_eq] at claimable
  exact ⟨row, member, rfl, rfl, claimable.1.1⟩

/-- The row that a committed retry leaves. -/
theorem awaitsRetry_retry {leased : LeasedDelivery} {outcome : AttemptOutcome}
    {httpStatus : Option Int} {errorClass : String} {startedAt completedAt dueAt : Timestamp}
    {ids : SequenceValues} {db : AlertDb} (invariant : OutboxInvariant state)
    (handedOut : leased ∈ state.handedOut)
    (accepted : recordRetry leased outcome httpStatus errorClass startedAt completedAt
      defaultBackoffBaseSeconds ids state.db = .ok (dueAt, db)) :
    ∃ row ∈ (state.step (.record leased (.retry outcome httpStatus errorClass startedAt
        completedAt defaultBackoffBaseSeconds) ids)).db.outbox,
      row.outboxId = leased.outboxId ∧
        AwaitsRetry (completedAt + retryDelay leased.attemptNumber) leased.attemptNumber row := by
  have ran : (RecordCall.retry outcome httpStatus errorClass startedAt completedAt
      defaultBackoffBaseSeconds).run leased ids state.db = .ok db := by
    rw [RecordCall.run, accepted]
    rfl
  have commit := commitOutcome_ok (RecordCall.run_ok ran).2
  obtain ⟨row, member, active⟩ := commit.active
  have held := (holdsLease_iff invariant handedOut member active member).mpr rfl
  have number := (active_row invariant handedOut member active).2.2.1
  have identity := (active_row invariant handedOut member active).1
  rw [OutboxSystem.step, if_pos handedOut, ran]
  refine ⟨_, commit.outbox ▸ List.mem_map_of_mem member, ?_⟩
  rw [rewriteOutbox_of_selected held]
  refine ⟨identity.outboxId.symm, .inl ⟨rfl, number, ?_⟩⟩
  rw [← clamped_retryDelay]
  rfl

end AwaitsRetry

/-! ## The due time of a row -/

/-- A row in flight was due when it was leased; its `updated_at` is the clock of
that lease. -/
def LeasedWhenDue (row : OutboxRow) : Prop :=
  row.state = .inFlight → row.nextAttemptAt ≤ row.updatedAt

/-- The operation is no `record_retry` with a base of its own. -/
def RecordCall.DefaultBackoff : RecordCall → Prop
  | .retry _ _ _ _ _ backoffBaseSeconds => backoffBaseSeconds = defaultBackoffBaseSeconds
  | _ => True

/-- An outcome is recorded with the default backoff, and was completed no earlier
than its row was leased. -/
def Punctual (state : OutboxSystem) : OutboxOp → Prop
  | .record leased call _ => call.DefaultBackoff ∧ ∀ row ∈ state.db.outbox,
      activeLease leased row = true → row.updatedAt ≤ call.record.completedAt
  | _ => True

/-- The operation is a re-drive of the row. -/
def Redrives (row : OutboxIdentity) : OutboxOp → Prop
  | .redrive request => request.tenantId = row.tenantId ∧ request.outboxId = row.outboxId
  | _ => False

/-- The worker leaves the base of its retries to the default. -/
theorem defaultBackoff_call (leased : LeasedDelivery) (attempt : Attempt) :
    (attempt.call leased).DefaultBackoff := by
  unfold Attempt.call
  dsimp only
  split
  · trivial
  · split
    · rfl
    · trivial

section DueTime

variable {state next : OutboxSystem} {op : OutboxOp} {row after : OutboxRow}

theorem LeasedWhenDue.move (due : LeasedWhenDue row) (move : RowMove state op row after)
    (invariant : OutboxInvariant state) (member : row ∈ state.db.outbox) :
    LeasedWhenDue after := by
  cases move with
  | same => exact due
  | claimed claimed =>
      have claimable := leasable_of_claims invariant.evidence.uniqueIds member claimed
      simp only [leasable, Bool.and_eq_true, decide_eq_true_eq] at claimable
      exact fun _ => claimable.1.1
  | @recorded leased call =>
      intro inFlight
      change (call.target leased).state = .inFlight at inFlight
      rw [RecordCall.target_state] at inFlight
      cases call <;> simp [RecordCall.ledgerStatus, outcomeState] at inFlight
  | redriven => exact fun inFlight => by cases inFlight

theorem leasedWhenDue_run (ops : List OutboxOp) :
    ∀ row ∈ (OutboxSystem.initial.run ops).db.outbox, LeasedWhenDue row := by
  suffices kept : ∀ state, OutboxInvariant state →
      (∀ row ∈ state.db.outbox, LeasedWhenDue row) →
      ∀ row ∈ (state.run ops).db.outbox, LeasedWhenDue row by
    exact kept _ outboxInvariant_initial (by simp [OutboxSystem.initial, AlertDb.empty])
  induction ops with
  | nil => exact fun _ _ due => due
  | cons op rest inductionHypothesis =>
      intro state invariant due
      have step := outboxStep_step state op
      refine inductionHypothesis _ (outboxInvariant_step invariant step) fun row member => ?_
      obtain ⟨move, outbox, moves⟩ | ⟨request, candidateId, id, -, outbox⟩ := step.rows invariant
      · rw [outbox] at member
        obtain ⟨old, oldMember, rfl⟩ := List.mem_map.mp member
        exact (due old oldMember).move (moves old oldMember) invariant oldMember
      · rw [outbox] at member
        rcases List.mem_append.mp member with old | new
        · exact due row old
        · rw [List.mem_singleton.mp new]
          exact fun inFlight => by cases inFlight

/-- A punctual operation that is no re-drive of the row does not lower its due time. -/
theorem RowMove.nextAttemptAt_le (move : RowMove state op row after) (due : LeasedWhenDue row)
    (member : row ∈ state.db.outbox) (punctual : Punctual state op)
    (other : ¬ Redrives row.toOutboxIdentity op) : row.nextAttemptAt ≤ after.nextAttemptAt := by
  cases move with
  | same => exact Int.le_refl _
  | claimed => exact Int.le_refl _
  | @recorded leased call ids _ active =>
      obtain ⟨base, late⟩ := punctual
      have leasedAt := late row member active
      have inFlight : row.state = .inFlight := by
        simp only [activeLease, Bool.and_eq_true, beq_iff_eq] at active
        exact active.1.1.2
      cases call with
      | delivered => exact Int.le_refl _
      | deadLetter => exact Int.le_refl _
      | retry outcome httpStatus errorClass startedAt completedAt backoffBaseSeconds =>
          obtain rfl : backoffBaseSeconds = defaultBackoffBaseSeconds := base
          have delay := retryDelay_pos leased.attemptNumber
          have dueBefore := due inFlight
          have completed : row.updatedAt ≤ completedAt := leasedAt
          show row.nextAttemptAt ≤ completedAt + min (defaultBackoffBaseSeconds *
            2 ^ (min (leased.attemptNumber - 1) 16).toNat) defaultBackoffCapSeconds
          rw [clamped_retryDelay]
          exact Int.le_trans (Int.le_trans dueBefore completed)
            (Int.le_add_of_nonneg_right (Int.le_of_lt delay))
  | redriven selected =>
      simp only [redriveTarget, Bool.and_eq_true, beq_iff_eq] at selected
      exact absurd ⟨selected.1.1.symm, selected.1.2.symm⟩ other

theorem nextAttemptAt_le_run {history : List OutboxOp} (ops : List OutboxOp)
    (member : row ∈ (OutboxSystem.initial.run history).db.outbox)
    (kept : ∀ before op after, ops = before ++ op :: after →
      Punctual (OutboxSystem.initial.run (history ++ before)) op ∧
        ¬ Redrives row.toOutboxIdentity op) :
    ∃ later ∈ (OutboxSystem.initial.run (history ++ ops)).db.outbox,
      later.outboxId = row.outboxId ∧ row.nextAttemptAt ≤ later.nextAttemptAt := by
  induction ops generalizing history row with
  | nil => exact ⟨row, by rwa [List.append_nil], rfl, Int.le_refl _⟩
  | cons op rest inductionHypothesis =>
      have invariant := outboxInvariant_run history outboxInvariant_initial
      have step := outboxStep_step (OutboxSystem.initial.run history) op
      obtain ⟨moved, movedMember, move⟩ := step.rowMove invariant member
      obtain ⟨punctual, other⟩ := kept [] op rest rfl
      rw [List.append_nil] at punctual
      have raised := move.nextAttemptAt_le (leasedWhenDue_run history row member) member punctual
        other
      have extended : history ++ op :: rest = (history ++ [op]) ++ rest := by simp
      have reached : (OutboxSystem.initial.run history).step op =
          OutboxSystem.initial.run (history ++ [op]) := by
        rw [run_append]
        rfl
      rw [reached] at movedMember
      obtain ⟨later, laterMember, same, above⟩ := inductionHypothesis movedMember
        (fun before following after split => by
          have inner := kept (op :: before) following after (by rw [split]; rfl)
          rw [move.identity]
          simpa using inner)
      rw [extended]
      exact ⟨later, laterMember, same.trans (congrArg OutboxIdentity.outboxId move.identity),
        Int.le_trans raised above⟩

end DueTime

/-! ## No attempt comes early -/

/-- What holds from the state that some operations lead to. -/
structure NoEarlyAttempt (history : List OutboxOp) : Prop where
  /-- After a retry of attempt `n`, attempt `n + 1` is handed out when it is due,
  whatever happens in between. -/
  retried : ∀ leased ∈ (OutboxSystem.initial.run history).handedOut,
    ∀ outcome httpStatus errorClass startedAt completedAt ids dueAt db,
      recordRetry leased outcome httpStatus errorClass startedAt completedAt
        defaultBackoffBaseSeconds ids (OutboxSystem.initial.run history).db = .ok (dueAt, db) →
      ∀ ops request locked batch after,
        lease request locked (OutboxSystem.initial.run (history ++
          .record leased (.retry outcome httpStatus errorClass startedAt completedAt
            defaultBackoffBaseSeconds) ids :: ops)).db = .ok (batch, after) →
        ∀ delivery ∈ batch, delivery.outboxId = leased.outboxId →
          delivery.attemptNumber = leased.attemptNumber + 1 →
            completedAt + retryDelay leased.attemptNumber ≤ request.now
  /-- Only a re-drive of a row lowers its due time. -/
  kept : ∀ row ∈ (OutboxSystem.initial.run history).db.outbox, ∀ ops,
    (∀ before op after, ops = before ++ op :: after →
      Punctual (OutboxSystem.initial.run (history ++ before)) op ∧
        ¬ Redrives row.toOutboxIdentity op) →
    ∃ later ∈ (OutboxSystem.initial.run (history ++ ops)).db.outbox,
      later.outboxId = row.outboxId ∧ row.nextAttemptAt ≤ later.nextAttemptAt
  /-- The claim scan compares it. -/
  query : ∀ request locked batch after,
    lease request locked (OutboxSystem.initial.run history).db = .ok (batch, after) →
    ∀ delivery ∈ batch, ∃ row ∈ (OutboxSystem.initial.run history).db.outbox,
      delivery.outboxId = row.outboxId ∧ delivery.attemptNumber = row.attemptCount + 1 ∧
        row.nextAttemptAt ≤ request.now
  /-- The trigger compares it, in any UPDATE of a row that waits. -/
  guard : ∀ row new : OutboxRow,
    guardAlertOutboxUpdate (OutboxSystem.initial.run history).db row new = .ok () →
    row.state = .pending → row.nextAttemptAt ≤ new.updatedAt

/-- The delay after an attempt: the unclamped one, within the bounds, and none
shorter than those before it. -/
structure BoundedDelay (attemptNumber : Int) : Prop where
  unclamped :
    backoffDelaySeconds attemptNumber defaultBackoffBaseSeconds defaultBackoffCapSeconds =
      .ok (min (2 * second * 2 ^ (attemptNumber - 1).toNat) (300 * second))
  positive : 0 < retryDelay attemptNumber
  bounded : retryDelay attemptNumber ≤ 300 * second
  nondecreasing : ∀ later, attemptNumber ≤ later → retryDelay attemptNumber ≤ retryDelay later

theorem guard_lease_due {db : AlertDb} {row new : OutboxRow}
    (accepted : guardAlertOutboxUpdate db row new = .ok ()) (pending : row.state = .pending) :
    row.nextAttemptAt ≤ new.updatedAt := by
  obtain ⟨-, -, move⟩ := outboxMove_of_guard accepted
  cases move with
  | lease source target number due => exact due
  | takeover source | outcome source | redrive source => simp [pending] at source

theorem retried_not_early (history : List OutboxOp) {leased : LeasedDelivery}
    (handedOut : leased ∈ (OutboxSystem.initial.run history).handedOut)
    {outcome : AttemptOutcome} {httpStatus : Option Int} {errorClass : String}
    {startedAt completedAt dueAt : Timestamp} {ids : SequenceValues} {db : AlertDb}
    (recorded : recordRetry leased outcome httpStatus errorClass startedAt completedAt
      defaultBackoffBaseSeconds ids (OutboxSystem.initial.run history).db = .ok (dueAt, db))
    {ops : List OutboxOp} {request : LeaseRequest} {locked : Int → Bool}
    {batch : List LeasedDelivery} {after : AlertDb}
    (accepted : lease request locked (OutboxSystem.initial.run (history ++
      .record leased (.retry outcome httpStatus errorClass startedAt completedAt
        defaultBackoffBaseSeconds) ids :: ops)).db = .ok (batch, after))
    {delivery : LeasedDelivery} (member : delivery ∈ batch)
    (sameRow : delivery.outboxId = leased.outboxId)
    (next : delivery.attemptNumber = leased.attemptNumber + 1) :
    completedAt + retryDelay leased.attemptNumber ≤ request.now := by
  have invariant := outboxInvariant_run history outboxInvariant_initial
  obtain ⟨row, rowMember, rowId, waiting⟩ := awaitsRetry_retry invariant handedOut recorded
  obtain ⟨later, laterMember, laterId, stays⟩ := awaitsRetry_run ops
    (outboxInvariant_step invariant (outboxStep_step _ _)) rowMember waiting
  have unique := (outboxInvariant_run (history ++ .record leased (.retry outcome httpStatus
    errorClass startedAt completedAt defaultBackoffBaseSeconds) ids :: ops)
    outboxInvariant_initial).evidence.uniqueIds
  obtain ⟨claimed, claimedMember, claimedId, number, due⟩ :=
    (lease_ok accepted).dueRow unique member
  rw [run_append] at unique claimedMember
  obtain rfl : claimed = later := eq_of_outboxId_eq unique claimedMember laterMember
    (by rw [laterId, rowId, ← claimedId, sameRow])
  rcases stays with ⟨-, -, same⟩ | above
  · exact same ▸ due
  · omega

/-- No attempt comes early, in any run; the delays grow up to their cap, and the worker
asks for no others. -/
theorem no_attempt_comes_early :
    (∀ history, NoEarlyAttempt history) ∧
      (∀ attemptNumber, 1 ≤ attemptNumber → BoundedDelay attemptNumber) ∧
      ∀ (leased : LeasedDelivery) (attempt : Attempt), (attempt.call leased).DefaultBackoff := by
  refine ⟨fun history => ⟨?_, ?_, ?_, ?_⟩, fun attemptNumber positive => ⟨?_, ?_, ?_, ?_⟩,
    defaultBackoff_call⟩
  · intro leased handedOut outcome httpStatus errorClass startedAt completedAt ids dueAt db
      recorded ops request locked batch after accepted delivery member sameRow next
    exact retried_not_early history handedOut recorded accepted member sameRow next
  · intro row member ops kept
    exact nextAttemptAt_le_run ops member kept
  · intro request locked batch after accepted delivery member
    exact (lease_ok accepted).dueRow
      (outboxInvariant_run history outboxInvariant_initial).evidence.uniqueIds member
  · intro row new accepted pending
    exact guard_lease_due accepted pending
  · exact backoffDelaySeconds_default positive
  · exact retryDelay_pos attemptNumber
  · exact retryDelay_le attemptNumber
  · intro later order
    exact retryDelay_mono order

/-- The first of five attempts, leased at 0. -/
def leasedOnce : List OutboxOp :=
  [.appendEvaluation firedEvaluation, .enqueue fiveAttemptIntent 1,
    .lease promptLease (fun _ => false)]

/-- The attempt timed out at 2. -/
def timeout : OutboxOp :=
  .record rejectedDelivery (.retry .ambiguous none "timeout" 1 2 defaultBackoffBaseSeconds) ⟨1, 1⟩

theorem timeout_recorded : ∃ dueAt db, recordRetry rejectedDelivery .ambiguous none "timeout" 1 2
    defaultBackoffBaseSeconds ⟨1, 1⟩ (OutboxSystem.initial.run leasedOnce).db =
      .ok (dueAt, db) := by
  have accepted : (recordRetry rejectedDelivery .ambiguous none "timeout" 1 2
      defaultBackoffBaseSeconds ⟨1, 1⟩ (OutboxSystem.initial.run leasedOnce).db).isOk = true := by
    decide +kernel
  cases recorded : recordRetry rejectedDelivery .ambiguous none "timeout" 1 2
      defaultBackoffBaseSeconds ⟨1, 1⟩ (OutboxSystem.initial.run leasedOnce).db with
  | error => simp [recorded, Except.isOk, Except.toBool] at accepted
  | ok result => exact ⟨result.1, result.2, rfl⟩

theorem timeout_waits_two_seconds : BoundedDelay 1 ∧
    ∀ ops request locked batch after,
      lease request locked (OutboxSystem.initial.run (leasedOnce ++ timeout :: ops)).db =
        .ok (batch, after) →
      ∀ delivery ∈ batch, delivery.outboxId = 1 → delivery.attemptNumber = 2 →
        2 + 2 * second ≤ request.now := by
  refine ⟨no_attempt_comes_early.2.1 1 (by decide), ?_⟩
  intro ops request locked batch after accepted delivery member sameRow next
  obtain ⟨dueAt, db, recorded⟩ := timeout_recorded
  have handedOut : rejectedDelivery ∈ (OutboxSystem.initial.run leasedOnce).handedOut := by
    decide +kernel
  exact (no_attempt_comes_early.1 leasedOnce).retried _ handedOut _ _ _ _ _ _ _ _ recorded ops
    request locked batch after accepted delivery member sameRow next

example : ∀ early ∈ [false, true],
    ((lease { promptLease with now := 2 + 2 * second - if early then 1 else 0 } (fun _ => false)
      (OutboxSystem.initial.run (leasedOnce ++ [timeout])).db).map
        (fun leased => leased.1.map (·.attemptNumber))).toOption =
      some (if early then [] else [2]) := by
  decide +kernel

end StockoutOps.Alerting
