import StockoutOps.Alerting.DeliveryRuns
import StockoutOps.Alerting.IntentPerEvent

/-!
Contract: the evidence of the HTTP attempts.

Owns: which attempt event an answered POST leaves, that every event has its
POST, and the runs in which every POST has its event.

Does not own: the terminal ledger, which keeps one row per evaluation.
-/

namespace StockoutOps.Alerting

open StockoutOps.Sql

/-! ## The event of a POST -/

/-- What `_process` makes of an answer. -/
def TransportOutcome.decision : TransportOutcome → AttemptOutcomeDecision
  | .response statusCode => classifyResponse statusCode
  | .raised exception => classifyException exception

theorem Attempt.decision_eq (attempt : Attempt) : attempt.decision = attempt.outcome.decision := rfl

/-- The event is the evidence of the answered POST. -/
structure EvidenceOf (leased : LeasedDelivery) (answer : TransportOutcome)
    (event : AttemptEventRow) : Prop where
  outboxId : event.outboxId = leased.outboxId
  attemptNumber : event.attemptNumber = leased.attemptNumber
  outcome : event.outcome = answer.decision.outcome
  httpStatus : event.httpStatus = answer.decision.httpStatus
  errorClass : event.errorClass = answer.decision.errorClass

/-- Every event is the evidence of an answered POST. -/
def EventsAnswered (state : DeliverySystem) : Prop :=
  ∀ event ∈ state.outbox.db.attemptEvents, ∃ call ∈ state.answers,
    EvidenceOf call.1.leased call.2 event

/-- Every POST that was processed has left its evidence. -/
def CallsEvidenced (state : DeliverySystem) : Prop :=
  ∀ call ∈ state.returned, ∃ event ∈ state.outbox.db.attemptEvents,
    EvidenceOf call.1.leased call.2 event

structure AttemptsEvidenced (state : DeliverySystem) : Prop where
  every : CallsEvidenced state
  only : EventsAnswered state

/-- An outcome is recorded while its row is in flight at the delivery's number. -/
def RecordsInFlight (state : DeliverySystem) : DeliveryOp → Prop
  | .process worker _ _ =>
      match state.phase worker with
      | .answered post _ _ _ => InFlightAt state.outbox.db post.leased
      | _ => True
  | _ => True

instance (db : AlertDb) (leased : LeasedDelivery) : Decidable (InFlightAt db leased) := by
  unfold InFlightAt
  infer_instance

instance (state : DeliverySystem) (op : DeliveryOp) : Decidable (RecordsInFlight state op) := by
  unfold RecordsInFlight
  split
  · split <;> infer_instance
  · infer_instance

theorem errorClass_ne_empty {status : Int} : httpErrorClass status ≠ "" := by
  intro empty
  have length := congrArg String.length empty
  rw [httpErrorClass, String.length_append] at length
  simp at length

/-- The error class is recorded as the classification gives it. -/
theorem call_record_eq (leased : LeasedDelivery) (attempt : Attempt) :
    (attempt.call leased).record =
      ⟨attempt.decision.outcome, attempt.decision.httpStatus, attempt.decision.errorClass,
        attempt.startedAt, attempt.completedAt⟩ := by
  have transport : ∀ exception, classifyTransportError exception ≠ "" := by
    intro exception
    cases exception <;> decide
  rw [call_record]
  rcases decision_cases attempt with ⟨status, -, -, -, decision⟩ | ⟨status, -, -, decision⟩ |
    ⟨status, -, -, -, decision⟩ | ⟨-, decision⟩ | ⟨exception, -, -, decision⟩
  · simp [decision]
  · rw [errorClassOr_of_some (by rw [decision]) errorClass_ne_empty]
    simp [decision]
  · rw [errorClassOr_of_some (by rw [decision]) errorClass_ne_empty]
    simp [decision]
  · rw [errorClassOr_of_some (by rw [decision]) (by decide)]
    simp [decision]
  · rw [errorClassOr_of_some (by rw [decision]) (transport exception)]
    simp [decision]

theorem evidenceOf_attemptEventRow (leased : LeasedDelivery) (attempt : Attempt) (id : Int) :
    EvidenceOf leased attempt.outcome (attemptEventRow leased (attempt.call leased).record id) := by
  rw [call_record_eq, Attempt.decision_eq]
  exact ⟨rfl, rfl, rfl, rfl, rfl⟩

/-! ## Recording while the lease is held -/

section Held

variable {db next : AlertDb} {leased : LeasedDelivery} {error : Failure}

theorem liftSql_eq_error {α : Type} {result : Except SqlError α}
    (refused : liftSql result = .error error) : ∃ cause, error = .database cause := by
  cases result with
  | ok value => cases refused
  | error cause => exact ⟨cause, (Except.error.inj refused).symm⟩

/-- While the lease is held, only the database refuses an outcome. -/
theorem commitOutcome_error {record : AttemptRecord} {ledgerStatus : Option DeliveryStatus}
    {target : TransitionTarget} {ids : SequenceValues} {row : OutboxRow}
    (member : row ∈ db.outbox) (active : activeLease leased row = true)
    (held : holdsLease leased row = true)
    (refused : commitOutcome leased record ledgerStatus target ids db = .error error) :
    ∃ cause, error = .database cause := by
  rcases bind_eq_error.mp refused with appending | ⟨recorded, append, refused⟩
  · unfold appendAttemptEvent at appending
    rw [if_pos (List.any_eq_true.mpr ⟨row, member, active⟩)] at appending
    exact liftSql_eq_error appending
  rcases bind_eq_error.mp refused with ledgering | ⟨ledgered, ledger, moving⟩
  · cases ledgerStatus with
    | none => cases ledgering
    | some status =>
        rcases bind_eq_error.mp ledgering with claim | ⟨_, -, complete⟩
        · exact liftSql_eq_error claim
        · exact liftSql_eq_error complete
  rcases bind_eq_error.mp moving with update | ⟨moved, -, lost⟩
  · exact liftSql_eq_error update
  · obtain ⟨-, id, insert⟩ := appendAttemptEvent_ok append
    obtain ⟨⟨entries, rfl⟩, -⟩ := writeOutcomeLedger_ok ledger
    have outbox : recorded.outbox = db.outbox := by
      obtain ⟨-, -, ⟨rfl, -⟩ | ⟨rfl, -⟩⟩ := insertAttemptEvent_ok insert <;> rfl
    have holder : recorded.outbox.any (holdsLease leased) = true :=
      List.any_eq_true.mpr ⟨row, outbox ▸ member, held⟩
    rw [if_pos holder] at lost
    cases lost

variable {state : OutboxSystem} {attempt : Attempt}

/-- A `_process` that returns while its lease is held has recorded its outcome. -/
theorem run_of_process (invariant : OutboxInvariant state) (handedOut : leased ∈ state.handedOut)
    (inFlight : InFlightAt state.db leased) {result : WorkerRunResult × AlertDb}
    (returned : process leased attempt state.db = .ok result) :
    ∃ next, (attempt.call leased).run leased attempt.ids state.db = .ok next := by
  cases ran : (attempt.call leased).run leased attempt.ids state.db with
  | ok next => exact ⟨next, rfl⟩
  | error error =>
      obtain ⟨row, member, active⟩ := activeLease_of_inFlightAt invariant handedOut inFlight
      have held := (holdsLease_iff invariant handedOut member active member).mpr rfl
      have refused := (call_run_eq invariant handedOut state.db).symm.trans ran
      obtain ⟨cause, rfl⟩ := commitOutcome_error member active held refused
      unfold process at returned
      rw [recordDecision_eq, ran] at returned
      cases returned

/-- A recorded outcome is a new event. -/
theorem attemptEvents_of_run (invariant : OutboxInvariant state)
    (handedOut : leased ∈ state.handedOut) {next : AlertDb}
    (ran : (attempt.call leased).run leased attempt.ids state.db = .ok next) :
    ∃ id, next.attemptEvents =
      state.db.attemptEvents ++ [attemptEventRow leased (attempt.call leased).record id] := by
  have commit := commitOutcome_ok (RecordCall.run_ok ran).2
  refine commit.attemptEvents.resolve_left fun ⟨_, present⟩ => ?_
  obtain ⟨row, member, active⟩ := commit.active
  obtain ⟨identity, inFlight, number, -⟩ := active_row invariant handedOut member active
  obtain ⟨event, found⟩ := Option.isSome_iff_exists.mp present
  have selected := List.find?_some found
  simp only [Bool.and_eq_true, beq_iff_eq] at selected
  have earlier := ((invariant.rows row member).events event (List.mem_of_find?_eq_some found)
    (selected.1.trans identity.outboxId)).2 inFlight
  omega

end Held

/-! ## Every run -/

section Runs

variable {platform : EvaluationPlatform} {calls : Nat → Submission}
  {workers : Nat → AlertOutboxWorker} {state next : DeliverySystem} {op : DeliveryOp}

theorem DeliveryStep.attemptEvents (step : DeliveryStep platform calls workers state op next)
    (other : ∀ worker completedAt ids, op ≠ .process worker completedAt ids) :
    next.outbox.db.attemptEvents = state.outbox.db.attemptEvents ∧
      state.answers ⊆ next.answers ∧ next.returned = state.returned := by
  cases step with
  | idle | posted | crashed => exact ⟨rfl, fun _ => id, rfl⟩
  | @recorded caller ids evaluation db increasing returned stored =>
      refine ⟨?_, fun _ => id, rfl⟩
      obtain ⟨-, -, enqueued⟩ := recording_stored returned stored
      cases enqueued with
      | silent | present => rfl
      | inserted enqueues lifecycle acceptable insert =>
          obtain ⟨-, -, -, rfl⟩ := insertOutbox_inserts.mp insert
          rfl
  | @redriven request =>
      exact ⟨(outboxStep_step state.outbox (.redrive request)).attemptEvents (fun _ _ _ => nofun),
        fun _ => id, rfl⟩
  | leased free accepted =>
      obtain rfl := (lease_ok accepted).tables
      exact ⟨rfl, fun _ => id, rfl⟩
  | answered => exact ⟨rfl, fun _ => List.mem_append_left _, rfl⟩
  | processed | escaped => exact absurd rfl (other _ _ _)

theorem eventsAnswered_step (events : EventsAnswered state)
    (invariant : DeliveryInvariant platform calls workers state)
    (step : DeliveryStep platform calls workers state op next) : EventsAnswered next := by
  have quiet (other : ∀ worker completedAt ids, op ≠ .process worker completedAt ids) :
      EventsAnswered next := by
    obtain ⟨same, answers, -⟩ := step.attemptEvents other
    intro event member
    rw [same] at member
    obtain ⟨call, callMember, evidence⟩ := events event member
    exact ⟨call, answers callMember, evidence⟩
  cases step with
  | idle => exact events
  | recorded | redriven | leased | posted | answered | crashed => exact quiet (fun _ _ _ => nofun)
  | escaped => exact events
  | @processed worker completedAt ids post startedAt outcome batch result at_ accepted =>
      have phase := invariant.phases worker
      rw [at_] at phase
      have handedOut := phase.pending post.leased List.mem_cons_self
      simp only [OutboxSystem.step, if_pos handedOut]
      split
      case h_2 => exact events
      case h_1 next ran =>
        obtain ⟨id, appended⟩ := attemptEvents_of_run invariant.outbox handedOut ran
        intro event member
        have inEvents : event ∈ next.attemptEvents := member
        rw [appended] at inEvents
        rcases List.mem_append.mp inEvents with old | new
        · exact events event old
        · rw [List.mem_singleton.mp new]
          exact ⟨(post, outcome), phase.answered post startedAt outcome batch rfl,
            evidenceOf_attemptEventRow post.leased (.mk outcome startedAt completedAt ids []) id⟩

theorem callsEvidenced_step (evidenced : CallsEvidenced state)
    (invariant : DeliveryInvariant platform calls workers state)
    (records : RecordsInFlight state op)
    (step : DeliveryStep platform calls workers state op next) : CallsEvidenced next := by
  have quiet (other : ∀ worker completedAt ids, op ≠ .process worker completedAt ids) :
      CallsEvidenced next := by
    obtain ⟨same, -, returned⟩ := step.attemptEvents other
    unfold CallsEvidenced
    rw [same, returned]
    exact evidenced
  cases step with
  | idle => exact evidenced
  | recorded | redriven | leased | posted | answered | crashed => exact quiet (fun _ _ _ => nofun)
  | escaped => exact evidenced
  | @processed worker completedAt ids post startedAt outcome batch result at_ accepted =>
      have phase := invariant.phases worker
      rw [at_] at phase
      have handedOut := phase.pending post.leased List.mem_cons_self
      have inFlight : InFlightAt state.outbox.db post.leased := by
        simpa only [RecordsInFlight, at_] using records
      obtain ⟨next, ran⟩ := run_of_process invariant.outbox handedOut inFlight accepted
      obtain ⟨id, appended⟩ := attemptEvents_of_run invariant.outbox handedOut ran
      simp only [OutboxSystem.step, if_pos handedOut, ran]
      intro call member
      show ∃ event ∈ next.attemptEvents, _
      rw [appended]
      rcases List.mem_append.mp member with old | new
      · obtain ⟨event, eventMember, held⟩ := evidenced call old
        exact ⟨event, List.mem_append_left _ eventMember, held⟩
      · rw [List.mem_singleton.mp new]
        exact ⟨_, List.mem_append_right _ (List.mem_singleton.mpr rfl),
          evidenceOf_attemptEventRow post.leased (.mk outcome startedAt completedAt ids []) id⟩

theorem eventsAnswered_run (ops : List DeliveryOp) (events : EventsAnswered state)
    (invariant : DeliveryInvariant platform calls workers state) :
    EventsAnswered (state.run platform calls workers ops) := by
  induction ops generalizing state with
  | nil => exact events
  | cons op rest inductionHypothesis =>
      have step := deliveryStep_step platform calls workers state op
      exact inductionHypothesis (eventsAnswered_step events invariant step)
        (deliveryInvariant_step invariant step)

theorem eventsAnswered_initial : EventsAnswered .initial := by
  simp [EventsAnswered, DeliverySystem.initial, OutboxSystem.initial, AlertDb.empty]

theorem callsEvidenced_initial : CallsEvidenced .initial := by
  simp [CallsEvidenced, DeliverySystem.initial]

end Runs

/-- In every run whose outcomes are recorded before their leases are taken over,
every POST that was processed has its event, and every event its POST. -/
theorem attempts_leave_evidence {platform : EvaluationPlatform} {calls : Nat → Submission}
    {workers : Nat → AlertOutboxWorker} (ops : List DeliveryOp)
    (records : DeliverySystem.EachStep platform calls workers RecordsInFlight .initial ops) :
    AttemptsEvidenced (DeliverySystem.initial.run platform calls workers ops) := by
  have kept : ∀ state op, CallsEvidenced state ∧ DeliveryInvariant platform calls workers state →
      RecordsInFlight state op → True ∧
        CallsEvidenced (state.step platform calls workers op) ∧
        DeliveryInvariant platform calls workers (state.step platform calls workers op) := by
    intro state op ⟨evidenced, invariant⟩ records
    have step := deliveryStep_step platform calls workers state op
    exact ⟨trivial, callsEvidenced_step evidenced invariant records step,
      deliveryInvariant_step invariant step⟩
  have evidenced := (DeliverySystem.EachStep.invariant kept
    ⟨callsEvidenced_initial, deliveryInvariant_initial⟩ records).2.1
  exact ⟨evidenced, eventsAnswered_run ops eventsAnswered_initial deliveryInvariant_initial⟩

/-! ### A lease taken over while its POST is under way -/

/-- Every call reports the same fired alert. -/
def firingCalls (_ : Nat) : Submission :=
  ⟨⟨some webhookEnqueuer⟩, firingRequest⟩

def twoWorkers (index : Nat) : AlertOutboxWorker where
  transport := ⟨webhookEnqueuer.settings, "https://alerts.example.com/hook"⟩
  workerId := if index = 0 then "worker-1" else "worker-2"

/-- The receiver accepts the first POST after its lease has run out. -/
def slowReceiver : List DeliveryOp :=
  [.record 0 ⟨1, 1⟩, .lease 0 0 10 (fun _ => false), .post 0 0,
    .lease 1 (31 * second) 10 (fun _ => false), .answer 0 (.response 200),
    .process 0 (32 * second) ⟨1, 1⟩]

theorem slowReceiver_run :
    let state := DeliverySystem.initial.run firingPlatform firingCalls twoWorkers slowReceiver
    state.returned.length = 1 ∧ state.outbox.db.attemptEvents = [] := by
  decide +kernel

theorem slow_receiver_leaves_no_evidence : ¬ AttemptsEvidenced
    (DeliverySystem.initial.run firingPlatform firingCalls twoWorkers slowReceiver) := by
  obtain ⟨returned, events⟩ := slowReceiver_run
  intro evidenced
  obtain ⟨call, member⟩ := List.exists_mem_of_length_pos (by omega : 0 < List.length
    (DeliverySystem.initial.run firingPlatform firingCalls twoWorkers slowReceiver).returned)
  obtain ⟨event, eventMember, -⟩ := evidenced.every call member
  rw [events] at eventMember
  cases eventMember

/-- The same POST, answered in time. -/
def quickReceiver : List DeliveryOp :=
  [.record 0 ⟨1, 1⟩, .lease 0 0 10 (fun _ => false), .post 0 0, .answer 0 (.response 200),
    .process 0 second ⟨1, 1⟩]

theorem quick_receiver_leaves_evidence : AttemptsEvidenced
    (DeliverySystem.initial.run firingPlatform firingCalls twoWorkers quickReceiver) :=
  attempts_leave_evidence quickReceiver (by decide +kernel)

end StockoutOps.Alerting
