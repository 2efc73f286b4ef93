import StockoutOps.Alerting.LeaseFencing
import StockoutOps.Alerting.Recovery
import StockoutOps.Alerting.Worker

/-!
Contract: what a batch of deliveries comes to, whatever the receivers answer.

Owns: which answers the tables can hold, what `_process` does with each of them
before and after its lease is lost, and the batches that are served to the end.

Does not own: the acceptance of an outcome, which is the outbox's.
-/

namespace StockoutOps.Alerting

open StockoutOps.Sql

/-! ## Decisions -/

/-- The five decisions there are. -/
theorem decision_cases (attempt : Attempt) :
    (∃ status, attempt.outcome = .response status ∧ 200 ≤ status ∧ status < 300 ∧
      attempt.decision = ⟨.delivered, some status, none, false⟩) ∨
    (∃ status, attempt.outcome = .response status ∧ 500 ≤ status ∧
      attempt.decision =
        ⟨.retryableFailure, some status, some (httpErrorClass status), true⟩) ∨
    (∃ status, attempt.outcome = .response status ∧ ¬ (200 ≤ status ∧ status < 300) ∧
      status < 500 ∧ attempt.decision =
        ⟨.permanentFailure, some status, some (httpErrorClass status), false⟩) ∨
    (attempt.outcome = .raised .timeoutException ∧
      attempt.decision = ⟨.ambiguous, none, some "timeout", true⟩) ∨
    (∃ exception, attempt.outcome = .raised exception ∧ exception ≠ .timeoutException ∧
      attempt.decision =
        ⟨.retryableFailure, none, some (classifyTransportError exception), true⟩) := by
  unfold Attempt.decision
  cases attempt.outcome with
  | response status =>
      simp only [classifyResponse]
      split
      case isTrue success => exact .inl ⟨status, rfl, success.1, success.2, rfl⟩
      case isFalse failure =>
        split
        case isTrue server => exact .inr (.inl ⟨status, rfl, server, rfl⟩)
        case isFalse client => exact .inr (.inr (.inl ⟨status, rfl, failure, by omega, rfl⟩))
  | raised exception =>
      cases exception with
      | timeoutException => exact .inr (.inr (.inr (.inl ⟨rfl, rfl⟩)))
      | connectError => exact .inr (.inr (.inr (.inr ⟨_, rfl, nofun, rfl⟩)))
      | other => exact .inr (.inr (.inr (.inr ⟨_, rfl, nofun, rfl⟩)))

/-- A status the receiver may send and the tables may not hold. -/
def TransportOutcome.OutOfRange (outcome : TransportOutcome) : Prop :=
  ∃ status, outcome = .response status ∧ 600 ≤ status

theorem httpErrorClass_storable {status : Int} (low : 100 ≤ status) (high : status < 600) :
    lengthBetween 1 100 (httpErrorClass status) = true ∧ notBlank (httpErrorClass status) = true ∧
      httpErrorClass status ≠ "" := by
  obtain ⟨code, rfl⟩ := Int.eq_ofNat_of_zero_le (by omega : 0 ≤ status)
  have digits : (toString (code : Int)).length ≤ 3 := by
    show (Nat.repr code).length ≤ 3
    exact (Nat.length_repr_le_iff (by decide)).mpr (by omega)
  have length : (httpErrorClass code).length = 5 + (toString (code : Int)).length := by
    rw [httpErrorClass, String.length_append]
    rfl
  have nonblank : notBlank (httpErrorClass code) = true := by
    simp [notBlank, httpErrorClass, String.toList_append]
  refine ⟨?_, nonblank, fun empty => ?_⟩
  · simp only [lengthBetween, Bool.and_eq_true, decide_eq_true_eq]
    omega
  · rw [empty] at nonblank
    simp [notBlank] at nonblank

/-- The classification and the choice of the operation agree with the tables, as
long as the status is one they can hold. -/
theorem call_fits {leased : LeasedDelivery} {attempt : Attempt}
    (positive : 1 ≤ leased.attemptNumber) : (attempt.call leased).Fits leased := by
  have success : ∀ status started completed, 200 ≤ status → status < 300 →
      RecordCall.Fits leased (.delivered status started completed) := by
    intro status started completed low high
    exact ⟨if_neg (not_not.mpr ⟨low, high⟩), nofun⟩
  have retryable : ∀ outcome status class_ started completed,
      outcome = .retryableFailure ∨ outcome = .ambiguous →
      RecordCall.Fits leased
        (if !leased.isFinalAttempt then
          .retry outcome status class_ started completed defaultBackoffBaseSeconds
        else .deadLetter outcome status class_ started completed) := by
    intro outcome status class_ started completed accepted
    cases final : leased.isFinalAttempt with
    | false =>
        refine ⟨?_, nofun⟩
        simp only [Bool.not_false, if_true, RecordCall.argumentError, final]
        rw [if_neg (by tauto), if_neg (by simp), if_neg (by omega)]
    | true =>
        refine ⟨?_, fun _ _ => by simpa [LeasedDelivery.isFinalAttempt] using final⟩
        rcases accepted with rfl | rfl <;> simp [RecordCall.argumentError]
  unfold Attempt.call
  rcases decision_cases attempt with ⟨status, -, low, high, decision⟩ | ⟨status, -, -, decision⟩ |
    ⟨status, -, -, -, decision⟩ | ⟨-, decision⟩ | ⟨exception, -, -, decision⟩ <;>
    simp only [decision, reduceCtorEq, if_true, if_false, Bool.true_and, Bool.false_and]
  · exact success status _ _ low high
  · exact retryable _ _ _ _ _ (.inl rfl)
  · exact ⟨by simp [RecordCall.argumentError], by simp [RecordCall.record]⟩
  · exact retryable _ _ _ _ _ (.inr rfl)
  · exact retryable _ _ _ _ _ (.inl rfl)

/-- The evidence `_process` records for its decision. -/
theorem call_record (leased : LeasedDelivery) (attempt : Attempt) :
    (attempt.call leased).record =
      ⟨attempt.decision.outcome, attempt.decision.httpStatus,
        if attempt.decision.outcome = .delivered then none
        else some attempt.decision.errorClassOr,
        attempt.startedAt, attempt.completedAt⟩ := by
  unfold Attempt.call
  rcases decision_cases attempt with ⟨status, -, -, -, decision⟩ | ⟨status, -, -, decision⟩ |
    ⟨status, -, -, -, decision⟩ | ⟨-, decision⟩ | ⟨exception, -, -, decision⟩ <;>
    simp only [decision, reduceCtorEq, if_true, if_false, Bool.true_and, Bool.false_and]
  · rfl
  · split <;> rfl
  · rfl
  · split <;> rfl
  · split <;> rfl

theorem errorClassOr_of_some {decision : AttemptOutcomeDecision} {errorClass : String}
    (present : decision.errorClass = some errorClass) (nonempty : errorClass ≠ "") :
    decision.errorClassOr = errorClass := by
  simp [AttemptOutcomeDecision.errorClassOr, present, nonempty]

/-- Every answer below 600 leaves evidence the tables accept. -/
theorem call_storable {leased : LeasedDelivery} {attempt : Attempt}
    (final : attempt.outcome.Final) (inRange : ¬ attempt.outcome.OutOfRange) :
    (attempt.call leased).record.Storable := by
  have bounds : ∀ code, attempt.outcome = .response code → 100 ≤ code ∧ code < 600 := by
    intro code answered
    have below : ¬ 600 ≤ code := fun high => inRange ⟨code, answered, high⟩
    rw [answered] at final
    have range : code = 101 ∨ (200 ≤ code ∧ code ≤ 999) := final
    omega
  have inTable : ∀ code, attempt.outcome = .response code →
      nullOr httpStatusInRange (some code) = true := by
    intro code answered
    have range := bounds code answered
    simp only [nullOr, httpStatusInRange, Bool.and_eq_true, decide_eq_true_eq]
    omega
  have classes : ∀ code, attempt.outcome = .response code →
      nullOr (fun text => lengthBetween 1 100 text && notBlank text)
        (some (httpErrorClass code)) = true := by
    intro code answered
    obtain ⟨length, nonblank, -⟩ :=
      httpErrorClass_storable (bounds code answered).1 (bounds code answered).2
    simp [nullOr, length, nonblank]
  have nonempty : ∀ code, attempt.outcome = .response code → httpErrorClass code ≠ "" :=
    fun code answered =>
      (httpErrorClass_storable (bounds code answered).1 (bounds code answered).2).2.2
  have transportClasses : ∀ exception,
      nullOr (fun text => lengthBetween 1 100 text && notBlank text)
        (some (classifyTransportError exception)) = true := by
    intro exception
    cases exception <;> decide
  have transportNonempty : ∀ exception, classifyTransportError exception ≠ "" := by
    intro exception
    cases exception <;> decide
  rw [call_record]
  rcases decision_cases attempt with ⟨code, answered, low, high, decision⟩ |
    ⟨code, answered, server, decision⟩ | ⟨code, answered, notSuccess, client, decision⟩ |
    ⟨-, decision⟩ | ⟨exception, -, other, decision⟩
  · rw [decision]
    refine ⟨inTable code answered, rfl, .inl ⟨rfl, ?_, rfl⟩⟩
    simp only [Option.any_some, isSuccessStatus, Bool.and_eq_true, decide_eq_true_eq]
    omega
  · rw [errorClassOr_of_some (by rw [decision]) (nonempty code answered), decision]
    refine ⟨inTable code answered, classes code answered, .inr (.inr ⟨.inl rfl, rfl, ?_⟩)⟩
    simp only [nullOr, isSuccessStatus, Bool.not_eq_true', Bool.and_eq_false_iff,
      decide_eq_false_iff_not]
    omega
  · rw [errorClassOr_of_some (by rw [decision]) (nonempty code answered), decision]
    refine ⟨inTable code answered, classes code answered, .inr (.inr ⟨.inr rfl, rfl, ?_⟩)⟩
    simp only [nullOr, isSuccessStatus, Bool.not_eq_true', Bool.and_eq_false_iff,
      decide_eq_false_iff_not]
    omega
  · rw [decision]
    exact ⟨rfl, transportClasses .timeoutException, .inr (.inl ⟨rfl, rfl, rfl⟩)⟩
  · rw [errorClassOr_of_some (by rw [decision]) (transportNonempty exception), decision]
    exact ⟨rfl, transportClasses exception, .inr (.inr ⟨.inl rfl, rfl, rfl⟩)⟩

/-- No table holds a status above 599. -/
theorem not_storable_of_outOfRange {leased : LeasedDelivery} {attempt : Attempt}
    (outOfRange : attempt.outcome.OutOfRange) (id : Int) :
    checkAll (attemptEventRow leased (attempt.call leased).record id).checks ≠ .ok () := by
  obtain ⟨status, answered, high⟩ := outOfRange
  have recorded : (attempt.call leased).record.httpStatus = some status := by
    rw [call_record]
    rcases decision_cases attempt with ⟨code, response, -, -, decision⟩ |
      ⟨code, response, -, decision⟩ | ⟨code, response, -, -, decision⟩ |
      ⟨response, -⟩ | ⟨exception, response, -⟩ <;> rw [answered] at response
    · cases response
      rw [decision]
    · cases response
      rw [decision]
    · cases response
      rw [decision]
    · cases response
    · cases response
  intro accepted
  have inTable := checkAll_eq_ok.mp accepted
    ("alert_delivery_attempt_event_http_status_check",
      nullOr httpStatusInRange (attempt.call leased).record.httpStatus)
    (by simp [AttemptEventRow.checks, attemptEventRow])
  rw [recorded] at inTable
  simp only [nullOr, httpStatusInRange, Bool.and_eq_true, decide_eq_true_eq] at inTable
  omega

/-! ## One item -/

section Item

variable {state : OutboxSystem} {leased : LeasedDelivery} {attempt : Attempt}

/-- The counter an operation adds to. -/
def RecordCall.tally : RecordCall → WorkerRunResult
  | .delivered .. => { delivered := 1 }
  | .retry .. => { retried := 1 }
  | .deadLetter .. => { deadLettered := 1 }

/-- `_process` runs the operation it chooses. -/
theorem recordDecision_eq (leased : LeasedDelivery) (attempt : Attempt) (db : AlertDb) :
    recordDecision leased attempt db =
      (fun next => ((attempt.call leased).tally, next)) <$>
        (attempt.call leased).run leased attempt.ids db := by
  have bind_map : ∀ {α : Type} (first : Except Failure (α × AlertDb)) (tally : WorkerRunResult),
      (first >>= fun pair => .ok (tally, pair.2)) =
        (fun next => (tally, next)) <$> (Prod.snd <$> first) := by
    intro α first tally
    cases first <;> rfl
  unfold recordDecision Attempt.call
  rcases decision_cases attempt with ⟨status, -, -, -, decision⟩ | ⟨status, -, -, decision⟩ |
    ⟨status, -, -, -, decision⟩ | ⟨-, decision⟩ | ⟨exception, -, -, decision⟩ <;>
    simp only [decision, reduceCtorEq, if_true, if_false, Bool.true_and, Bool.false_and]
  · exact bind_map _ _
  · split <;> exact bind_map _ _
  · exact bind_map _ _
  · split <;> exact bind_map _ _
  · split <;> exact bind_map _ _

/-- The outcome of the delivery is in the tables. -/
def Recorded (db : AlertDb) (leased : LeasedDelivery) : Prop :=
  (∃ row ∈ db.outbox, row.outboxId = leased.outboxId ∧ row.state ≠ .inFlight) ∧
    ∃ event ∈ db.attemptEvents, event.outboxId = leased.outboxId ∧
      event.attemptNumber = leased.attemptNumber

theorem activeLease_of_inFlightAt (invariant : OutboxInvariant state)
    (handedOut : leased ∈ state.handedOut) (inFlight : InFlightAt state.db leased) :
    ∃ row ∈ state.db.outbox, activeLease leased row = true := by
  obtain ⟨row, member, sameId, active, number⟩ := inFlight
  obtain ⟨other, otherMember, from_⟩ := invariant.handedOut leased handedOut
  obtain rfl := eq_of_outboxId_eq invariant.evidence.uniqueIds otherMember member
    (from_.identity.outboxId.symm.trans sameId.symm)
  have owner := (from_.lease active number).1
  exact ⟨other, member, by simp [activeLease, sameId, active, number, owner]⟩

theorem call_run_eq (invariant : OutboxInvariant state) (handedOut : leased ∈ state.handedOut)
    (db : AlertDb) :
    (attempt.call leased).run leased attempt.ids db =
      commitOutcome leased (attempt.call leased).record (attempt.call leased).ledgerStatus
        ((attempt.call leased).target leased) attempt.ids db := by
  obtain ⟨row, -, from_⟩ := invariant.handedOut leased handedOut
  have fits : (attempt.call leased).Fits leased := call_fits from_.positive
  rw [RecordCall.run_eq, fits.arguments]

/-- A lost lease is counted and nothing is written. -/
theorem process_of_lost (invariant : OutboxInvariant state) (handedOut : leased ∈ state.handedOut)
    (lost : ¬ InFlightAt state.db leased) :
    process leased attempt state.db = .ok ({ leaseLost := 1 }, state.db) := by
  unfold process
  rw [recordDecision_eq, call_run_eq invariant handedOut, commitOutcome_of_stale lost]
  rfl

/-- While the lease is held, an answer the tables can hold is recorded. -/
theorem process_of_storable (invariant : OutboxInvariant state)
    (handedOut : leased ∈ state.handedOut) (inFlight : InFlightAt state.db leased)
    (storable : (attempt.call leased).record.Storable) :
    ∃ next, (attempt.call leased).run leased attempt.ids state.db = .ok next ∧
      process leased attempt state.db = .ok ((attempt.call leased).tally, next) ∧
      Recorded next leased := by
  obtain ⟨row, member, active⟩ := activeLease_of_inFlightAt invariant handedOut inFlight
  obtain ⟨identity, -, number, -, -⟩ := active_row invariant handedOut member active
  obtain ⟨other, -, from_⟩ := invariant.handedOut leased handedOut
  obtain ⟨next, committed⟩ := commitOutcome_accepted attempt.ids invariant handedOut
    member active (call_fits from_.positive) storable
  have run := (call_run_eq invariant handedOut state.db).trans committed
  have commit := commitOutcome_ok committed
  refine ⟨next, run, ?_, ?_, ?_⟩
  · unfold process
    rw [recordDecision_eq, run]
    rfl
  · have held := (holdsLease_iff invariant handedOut member active member).mpr rfl
    refine ⟨rewriteOutbox (holdsLease leased) ((attempt.call leased).target leased).progress row,
      ?_, ?_, ?_⟩
    · rw [commit.outbox]
      exact List.mem_map_of_mem member
    · rw [rewriteOutbox_identity, identity.outboxId]
    · rw [rewriteOutbox_of_selected held]
      show ((attempt.call leased).target leased).state ≠ .inFlight
      rw [RecordCall.target_state]
      cases attempt.call leased <;> simp [RecordCall.ledgerStatus, outcomeState]
  · rcases commit.attemptEvents with ⟨same, present⟩ | ⟨id, appended⟩
    · obtain ⟨event, found⟩ := Option.isSome_iff_exists.mp present
      have selected := List.find?_some found
      simp only [Bool.and_eq_true, beq_iff_eq] at selected
      exact ⟨event, same ▸ List.mem_of_find?_eq_some found, selected⟩
    · refine ⟨attemptEventRow leased (attempt.call leased).record id, ?_, rfl, rfl⟩
      rw [appended]
      exact List.mem_append_right _ (List.mem_singleton_self _)

/-- While the lease is held, a status above 599 makes `_process` raise. -/
theorem process_of_outOfRange (invariant : OutboxInvariant state)
    (handedOut : leased ∈ state.handedOut) (inFlight : InFlightAt state.db leased)
    (outOfRange : attempt.outcome.OutOfRange) :
    ∃ error, process leased attempt state.db = .error error := by
  obtain ⟨row, member, active⟩ := activeLease_of_inFlightAt invariant handedOut inFlight
  have anyActive : state.db.outbox.any (activeLease leased) = true :=
    List.any_eq_true.mpr ⟨row, member, active⟩
  have refused : ∃ error, commitOutcome leased (attempt.call leased).record
      (attempt.call leased).ledgerStatus ((attempt.call leased).target leased) attempt.ids
        state.db = .error (.database error) := by
    unfold commitOutcome appendAttemptEvent
    rw [if_pos anyActive]
    cases insert : insertAttemptEvent true state.db (attemptEventRow leased
        (attempt.call leased).record (identityValue attempt.ids.attemptEventId
          (state.db.attemptEvents.map (·.attemptEventId)))) with
    | error error => exact ⟨error, rfl⟩
    | ok next =>
        exact absurd (insertAttemptEvent_ok insert).2.1 (not_storable_of_outOfRange outOfRange _)
  obtain ⟨error, refused⟩ := refused
  refine ⟨.database error, ?_⟩
  unfold process
  rw [recordDecision_eq, call_run_eq invariant handedOut, refused]
  rfl

end Item

/-! ## The batch -/

section Batch

variable {state : OutboxSystem}

theorem mem_handedOut_step {next : OutboxSystem} {op : OutboxOp} {leased : LeasedDelivery}
    (step : OutboxStep state op next) (member : leased ∈ state.handedOut) :
    leased ∈ next.handedOut := by
  cases step with
  | lease => exact List.mem_append_left _ member
  | rejected | appendEvaluation | enqueue | record | redrive => exact member

theorem mem_handedOut_run {leased : LeasedDelivery} (ops : List OutboxOp)
    (member : leased ∈ state.handedOut) : leased ∈ (state.run ops).handedOut := by
  induction ops generalizing state with
  | nil => exact member
  | cons op rest inductionHypothesis =>
      exact inductionHypothesis (mem_handedOut_step (outboxStep_step state op) member)

/-- The batch is served: `run_once` returns, every item was posted once, and the
outcome of every item that still held its lease is in the tables. -/
structure Served (batch : List LeasedDelivery) (result : Except Failure WorkerRunResult)
    (items : List ItemRun) : Prop where
  returns : ∃ counters, result = .ok counters
  posts : items.map ItemRun.post =
    batch.map (fun leased => (leased.payload, leased.idempotencyKey))
  outcomes : ∀ item ∈ items, InFlightAt item.before.db item.leased →
    Recorded item.after.db item.leased

/-- What one item came to: an exception that escapes, or a result with the outcome
in the tables if the lease was held. -/
structure ItemOutcome (state : OutboxSystem) (leased : LeasedDelivery) (attempt : Attempt)
    (item : ItemRun) : Prop where
  same : item.leased = leased
  invariant : OutboxInvariant item.after
  handedOut : ∀ other ∈ state.handedOut, other ∈ item.after.handedOut
  outcome :
    (∃ error, item.result = .error error) ∧ attempt.outcome.OutOfRange ∧
        InFlightAt item.before.db leased ∨
      (∃ counters, item.result = .ok counters) ∧
        (InFlightAt item.before.db leased →
          ¬ attempt.outcome.OutOfRange ∧ Recorded item.after.db leased)

theorem itemOutcome_processItem {leased : LeasedDelivery} {attempt : Attempt}
    (invariant : OutboxInvariant state) (handedOut : leased ∈ state.handedOut)
    (final : attempt.outcome.Final) :
    ItemOutcome state leased attempt (processItem leased attempt state) := by
  have before := outboxInvariant_run attempt.meanwhile invariant
  have stillHandedOut := mem_handedOut_run attempt.meanwhile handedOut
  have step := outboxStep_step (state.run attempt.meanwhile)
    (.record leased (attempt.call leased) attempt.ids)
  refine ⟨rfl, outboxInvariant_step before step, fun other member =>
    mem_handedOut_step step (mem_handedOut_run attempt.meanwhile member), ?_⟩
  by_cases inFlight : InFlightAt (state.run attempt.meanwhile).db leased
  · by_cases outOfRange : attempt.outcome.OutOfRange
    · obtain ⟨error, refused⟩ := process_of_outOfRange before stillHandedOut inFlight outOfRange
      exact .inl ⟨⟨error, by simp [processItem, refused]⟩, outOfRange, inFlight⟩
    · obtain ⟨next, run, processed, recorded⟩ := process_of_storable before stillHandedOut inFlight
        (call_storable final outOfRange)
      refine .inr ⟨⟨_, by simp [processItem, processed]; rfl⟩, fun _ => ⟨outOfRange, ?_⟩⟩
      simpa [processItem, OutboxSystem.step, stillHandedOut, run] using recorded
  · have processed := @process_of_lost _ leased attempt before stillHandedOut inFlight
    exact .inr ⟨⟨_, by simp [processItem, processed]; rfl⟩, fun held => absurd held inFlight⟩

/-- The loop serves its items exactly when no status above 599 meets a held lease. -/
theorem served_processBatch_iff {attempts : LeasedDelivery → Attempt}
    (final : ∀ leased, (attempts leased).outcome.Final) (batch : List LeasedDelivery)
    (counters : WorkerRunResult) (invariant : OutboxInvariant state)
    (handedOut : ∀ leased ∈ batch, leased ∈ state.handedOut) :
    Served batch (processBatch attempts state counters batch).1
        (processBatch attempts state counters batch).2 ↔
      ∀ item ∈ (processBatch attempts state counters batch).2,
        (attempts item.leased).outcome.OutOfRange → ¬ InFlightAt item.before.db item.leased := by
  induction batch generalizing state counters with
  | nil =>
      have noItem : ∀ item, item ∉ (processBatch attempts state counters []).2 :=
        fun item => List.not_mem_nil
      exact ⟨fun _ item member => absurd member (noItem item), fun _ =>
        ⟨⟨counters, rfl⟩, rfl, fun item member => absurd member (noItem item)⟩⟩
  | cons leased rest inductionHypothesis =>
      have itemOutcome := itemOutcome_processItem invariant
        (handedOut leased List.mem_cons_self) (final leased)
      simp only [processBatch]
      generalize processItem leased (attempts leased) state = item at itemOutcome ⊢
      obtain ⟨rfl, after, mono, outcome⟩ := itemOutcome
      obtain ⟨⟨error, raised⟩, outOfRange, inFlight⟩ | ⟨⟨result, returned⟩, recorded⟩ := outcome
      · rw [raised]
        constructor
        · rintro ⟨⟨counters, returned⟩, -, -⟩
          cases returned
        · intro clear
          exact absurd inFlight (clear item (List.mem_singleton_self item) outOfRange)
      · rw [returned]
        have later := inductionHypothesis (counters.merged result) after
          (fun other member => mono other (handedOut other (List.mem_cons_of_mem _ member)))
        constructor
        · rintro ⟨returns, posts, outcomes⟩ other member
          rcases List.mem_cons.mp member with rfl | inRest
          · exact fun outOfRange inFlight => (recorded inFlight).1 outOfRange
          · exact later.mp ⟨returns, (List.cons.inj posts).2, fun other otherMember =>
              outcomes other (List.mem_cons_of_mem _ otherMember)⟩ other inRest
        · intro clear
          obtain ⟨returns, posts, outcomes⟩ := later.mpr
            (fun other member => clear other (List.mem_cons_of_mem _ member))
          refine ⟨returns, ?_, fun other member => ?_⟩
          · rw [List.map_cons, List.map_cons, posts]
            rfl
          · rcases List.mem_cons.mp member with rfl | inRest
            · exact fun inFlight => (recorded inFlight).2
            · exact outcomes other inRest

end Batch

/-- `run_once` serves its batch, after any operations and with any transactions of
others in between, exactly when every item answered with a status above 599 has
lost its lease before its outcome is recorded. -/
theorem run_once_serves_batch_iff (ops : List OutboxOp) (request : LeaseRequest)
    (locked : Int → Bool) (attempts : LeasedDelivery → Attempt) (valid : request.Valid)
    (final : ∀ leased, (attempts leased).outcome.Final) :
    let run := runOnce request locked attempts (OutboxSystem.initial.run ops)
    Served run.batch run.result run.items ↔
      ∀ item ∈ run.items, (attempts item.leased).outcome.OutOfRange →
        ¬ InFlightAt item.before.db item.leased := by
  have invariant := outboxInvariant_run ops outboxInvariant_initial
  obtain ⟨batch, db, accepted⟩ := lease_accepted locked invariant.evidence valid
  simp only [runOnce, accepted]
  exact served_processBatch_iff final batch _ (outboxInvariant_lease invariant accepted)
    (fun leased member => List.mem_append_right _ member)

/-! ### A status the client hands back and the tables refuse -/

/-- Two due intents of two evaluations. -/
def twoIntents : List OutboxOp :=
  [.appendEvaluation firedEvaluation,
    .appendEvaluation { firedEvaluation with
      alertEvaluationId := 2, idempotencyKey := "evaluation-2",
      payloadHash := firedEvaluation.alertFingerprint },
    .enqueue { singleAttemptIntent with maxAttempts := 5 } 1,
    .enqueue { singleAttemptIntent with evaluationId := 2, maxAttempts := 5 } 2]

def dueLease : LeaseRequest := { workerId := "worker-1", now := 0 }

theorem dueLease_valid : dueLease.Valid := ⟨by decide, by decide, by decide⟩

/-- Every item gets the same answer, with no transaction of others in between. -/
def answerAll (outcome : TransportOutcome) (_ : LeasedDelivery) : Attempt :=
  ⟨outcome, 0, 0, ⟨1, 1⟩, []⟩

theorem runOnce_status600 :
    let run := runOnce dueLease (fun _ => false) (answerAll (.response 600))
      (OutboxSystem.initial.run twoIntents)
    run.batch.length = 2 ∧ run.items.length = 1 ∧
      (match run.result with | .ok _ => true | .error _ => false) = false := by
  decide +kernel

theorem status_above_599_strands_batch :
    let run := runOnce dueLease (fun _ => false) (answerAll (.response 600))
      (OutboxSystem.initial.run twoIntents)
    dueLease.Valid ∧ (∀ leased, (answerAll (.response 600) leased).outcome.Final) ∧
      ¬ Served run.batch run.result run.items := by
  refine ⟨dueLease_valid, fun _ => .inr ⟨by decide, by decide⟩, fun served => ?_⟩
  obtain ⟨counters, returned⟩ := served.returns
  have refused := runOnce_status600.2.2
  rw [returned] at refused
  cases refused

theorem run_once_serves_batch_iff_status200 :
    let run := runOnce dueLease (fun _ => false) (answerAll (.response 200))
      (OutboxSystem.initial.run twoIntents)
    Served run.batch run.result run.items ↔
      ∀ item ∈ run.items, (answerAll (.response 200) item.leased).outcome.OutOfRange →
        ¬ InFlightAt item.before.db item.leased :=
  run_once_serves_batch_iff twoIntents dueLease (fun _ => false) (answerAll (.response 200))
    dueLease_valid (fun _ => .inr ⟨by decide, by decide⟩)

end StockoutOps.Alerting
