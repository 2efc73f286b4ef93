import StockoutOps.Alerting.Deduplication
import StockoutOps.Alerting.DeliveryHost

/-!
Contract: the attempt budget of the deliveries of one configuration.

Owns: the system built from one set of delivery settings, the budget that binds
its intents, and when that is the budget of the settings.

Does not own: re-drives, which raise the budget.

The enqueuer is built with its default budget: `max_attempts` of the settings is
parsed and validated, and no one reads it.
-/

namespace StockoutOps.Alerting

open StockoutOps.Foundation StockoutOps.Sql

/-- Enqueuers and workers are built from the settings, as the CLIs build them. -/
structure Deployed (urlparse : UrlParser) (settings : AlertDeliverySettings)
    (calls : Nat → Submission) (workers : Nat → AlertOutboxWorker) : Prop where
  enabled : settings.enabled = true
  calls : ∀ caller, buildDeliveryEnqueuer urlparse settings =
    .ok (calls caller).repository.deliveryEnqueuer
  workers : ∀ worker, ∃ workerId leaseSeconds,
    buildWorker urlparse settings workerId leaseSeconds = .ok (workers worker)

/-- The outcome of the attempt has its event. -/
def AttemptRecorded (db : AlertDb) (row : OutboxRow) (number : Int) : Prop :=
  ∃ event ∈ db.attemptEvents, event.outboxId = row.outboxId ∧ event.attemptNumber = number

/-- Every POST of the intent that was answered may be tried again. -/
def DeliverySystem.AllRetryable (state : DeliverySystem) (row : OutboxRow) : Prop :=
  ∀ call ∈ state.answers, call.1.leased.outboxId = row.outboxId → call.2.decision.retryable = true

/-- An intent is posted at most `budget` times, and one whose attempts are all
retryable is dead-lettered at attempt `budget`, once its outcome is recorded. -/
structure BudgetEnforced (budget : Int) (state : DeliverySystem) : Prop where
  posts : ∀ row ∈ state.outbox.db.outbox, (state.postsFor row).length ≤ budget
  deadLetter : ∀ row ∈ state.outbox.db.outbox, state.AllRetryable row →
    row.state = .deadLetter → row.attemptCount = budget
  recorded : ∀ row ∈ state.outbox.db.outbox, state.AllRetryable row →
    (row.state = .deadLetter ↔ AttemptRecorded state.outbox.db row budget)

/-- An intent whose attempts are all retryable is dead-lettered exactly when the
outcomes of all its attempts are recorded. -/
def EveryOutcomeCounts (budget : Int) (state : DeliverySystem) : Prop :=
  ∀ row ∈ state.outbox.db.outbox, state.AllRetryable row →
    (row.state = .deadLetter ↔
      ∀ number, 1 ≤ number → number ≤ budget → AttemptRecorded state.outbox.db row number)

/-- No intent is claimed whose last attempt is still open. -/
def TakesOverNone (workers : Nat → AlertOutboxWorker) (state : DeliverySystem) :
    DeliveryOp → Prop
  | .lease worker now batchSize locked => ∀ row ∈ state.outbox.db.outbox,
      claims ((workers worker).leaseRequest now batchSize) locked state.outbox.db row = true →
        row.state = .pending
  | _ => True

instance (workers : Nat → AlertOutboxWorker) (state : DeliverySystem) (op : DeliveryOp) :
    Decidable (TakesOverNone workers state op) := by
  unfold TakesOverNone
  split <;> infer_instance

/-! ## The budget of the rows -/

theorem buildDeliveryEnqueuer_ok {urlparse : UrlParser} {settings : AlertDeliverySettings}
    {maxAttempts : Int} {enqueuer : WebhookOutboxEnqueuer}
    (built : buildDeliveryEnqueuer urlparse settings maxAttempts = .ok (some enqueuer)) :
    enqueuer.maxAttempts = maxAttempts := by
  unfold buildDeliveryEnqueuer at built
  split at built
  case isTrue => cases built
  case isFalse =>
    obtain ⟨created, creates, same⟩ := map_eq_ok.mp built
    obtain rfl := Option.some.inj same
    simp only [WebhookOutboxEnqueuer.create, guard_bind_eq_ok] at creates
    obtain ⟨-, creates⟩ := creates
    split at creates
    case h_1 =>
      obtain ⟨host, -, made⟩ := bind_eq_ok.mp creates
      obtain rfl := Except.ok.inj made
      rfl
    case h_2 => cases creates

section Runs

variable {platform : EvaluationPlatform} {calls : Nat → Submission}
  {workers : Nat → AlertOutboxWorker} {state next : DeliverySystem} {op : DeliveryOp}

/-- What holds of every row after a step. -/
theorem DeliveryStep.forall_rows (step : DeliveryStep platform calls workers state op next)
    (invariant : OutboxInvariant state.outbox) {P Q : OutboxRow → Prop}
    (moved : ∀ row ∈ state.outbox.db.outbox, P row →
      ∀ after, DeliveryMove workers state op row after → Q after)
    (enqueued : ∀ caller enqueuer evaluation id,
      (calls caller).repository.deliveryEnqueuer = some enqueuer →
        Q ((enqueuer.intent platform evaluation (calls caller).request.evaluatedAt).row id))
    (kept : ∀ row, P row → Q row) (rows : ∀ row ∈ state.outbox.db.outbox, P row) :
    ∀ row ∈ next.outbox.db.outbox, Q row := by
  obtain ⟨move, outbox, moves⟩ | ⟨caller, ids, enqueuer, id, -, enqueues, -, outbox⟩ :=
    step.moves invariant
  · intro row member
    rw [outbox] at member
    obtain ⟨old, oldMember, rfl⟩ := List.mem_map.mp member
    exact moved old oldMember (rows old oldMember) (move old) (moves old oldMember)
  · intro row member
    rw [outbox] at member
    rcases List.mem_append.mp member with old | new
    · exact kept row (rows row old)
    · rw [List.mem_singleton.mp new]
      exact enqueued caller enqueuer _ id enqueues

/-- What binds a row while nothing is re-driven. -/
structure RowBudget (budget : Int) (state : DeliverySystem) (row : OutboxRow) : Prop where
  ceiling : row.maxAttempts = budget
  deadLetter : row.state = .deadLetter → row.maxAttempts ≤ row.attemptCount ∨
    ∃ call ∈ state.answers, call.1.leased.outboxId = row.outboxId ∧
      call.2.decision.retryable = false

/-- A worker dead-letters what is final, or what may not be tried again. -/
theorem deadLetter_call {leased : LeasedDelivery} {attempt : Attempt}
    (dead : ((attempt.call leased).target leased).state = .deadLetter) :
    leased.maxAttempts ≤ leased.attemptNumber ∨ attempt.decision.retryable = false := by
  rw [RecordCall.target_state] at dead
  simp only [Attempt.call] at dead
  split at dead
  case isTrue => cases dead
  case isFalse =>
    split at dead
    case isTrue => cases dead
    case isFalse again =>
      cases retryable : attempt.decision.retryable with
      | false => exact .inr rfl
      | true =>
          simp only [retryable, Bool.true_and, Bool.not_eq_true', Bool.not_eq_false,
            LeasedDelivery.isFinalAttempt, decide_eq_true_eq] at again
          exact .inl again

theorem rowBudget_step (invariant : DeliveryInvariant platform calls workers state)
    (step : DeliveryStep platform calls workers state op next)
    (redrives : ∀ request, op ≠ .redrive request) {budget : Int}
    (enqueuers : ∀ caller enqueuer, (calls caller).repository.deliveryEnqueuer = some enqueuer →
      enqueuer.maxAttempts = budget)
    (budgets : ∀ row ∈ state.outbox.db.outbox, RowBudget budget state row) :
    ∀ row ∈ next.outbox.db.outbox, RowBudget budget next row := by
  have kept (row : OutboxRow) (held : RowBudget budget state row) : RowBudget budget next row :=
    ⟨held.ceiling, fun dead => (held.deadLetter dead).imp_right fun ⟨call, member, answered⟩ =>
      ⟨call, step.answers member, answered⟩⟩
  refine step.forall_rows invariant.outbox (fun row member held after move => ?_)
    (fun caller enqueuer _ _ enqueues => ⟨enqueuers caller enqueuer enqueues, nofun⟩) kept budgets
  cases move with
  | same => exact kept row held
  | claimed => exact ⟨held.ceiling, nofun⟩
  | redriven => exact absurd rfl (redrives _)
  | @recorded worker completedAt ids post startedAt outcome batch _ at_ active =>
      have phase := invariant.phases worker
      rw [at_] at phase
      obtain ⟨identity, -, number, -, ceiling⟩ := active_row invariant.outbox
        (phase.pending post.leased List.mem_cons_self) member active
      refine ⟨held.ceiling, fun dead => ?_⟩
      obtain final | refused := deadLetter_call dead
      · exact .inl (by rwa [← ceiling, ← number] at final)
      · exact .inr ⟨(post, outcome), step.answers (phase.answered post startedAt outcome batch rfl),
          identity.outboxId, refused⟩

theorem rowBudget_run {budget : Int} (ops : List DeliveryOp)
    (invariant : DeliveryInvariant platform calls workers state)
    (redrives : ∀ request, .redrive request ∉ ops)
    (enqueuers : ∀ caller enqueuer, (calls caller).repository.deliveryEnqueuer = some enqueuer →
      enqueuer.maxAttempts = budget)
    (budgets : ∀ row ∈ state.outbox.db.outbox, RowBudget budget state row) :
    ∀ row ∈ (state.run platform calls workers ops).outbox.db.outbox,
      RowBudget budget (state.run platform calls workers ops) row := by
  induction ops generalizing state with
  | nil => exact budgets
  | cons op rest inductionHypothesis =>
      have step := deliveryStep_step platform calls workers state op
      exact inductionHypothesis (deliveryInvariant_step invariant step)
        (fun request member => redrives request (List.mem_cons_of_mem _ member))
        (rowBudget_step invariant step
          (fun request same => redrives request (same ▸ List.mem_cons_self)) enqueuers budgets)

/-! ## What the budget says of the attempts -/

/-- An answer that allows another attempt is no delivery. -/
theorem not_delivered_of_retryable {answer : TransportOutcome}
    (retryable : answer.decision.retryable = true) : answer.decision.outcome ≠ .delivered := by
  have decision := Attempt.decision_eq (.mk answer 0 0 ⟨0, 0⟩ [])
  rcases decision_cases (.mk answer 0 0 ⟨0, 0⟩ []) with ⟨_, -, -, -, same⟩ | ⟨_, -, -, same⟩ |
    ⟨_, -, -, -, same⟩ | ⟨-, same⟩ | ⟨_, -, -, same⟩ <;>
    rw [decision] at same <;> simp [same] at retryable ⊢

theorem attemptCount_of_recorded (invariant : OutboxInvariant state.outbox) {row : OutboxRow}
    (member : row ∈ state.outbox.db.outbox)
    (recorded : AttemptRecorded state.outbox.db row row.maxAttempts) :
    row.attemptCount = row.maxAttempts ∧ row.Terminal := by
  obtain ⟨event, eventMember, ofRow, number⟩ := recorded
  obtain ⟨budget, pending, -, -, -⟩ := (invariant.rows row member).counters
  obtain ⟨bound, open_⟩ := (invariant.rows row member).events event eventMember ofRow
  rw [number] at bound open_
  refine ⟨by omega, ?_⟩
  cases at_ : row.state with
  | pending => exact absurd (pending at_) (by omega)
  | inFlight => exact absurd (open_ at_) (by omega)
  | delivered => exact .inl at_
  | deadLetter => exact .inr at_

/-- A dead letter is one whose last attempt is recorded, if all are retryable. -/
theorem deadLetter_iff_recorded (invariant : DeliveryInvariant platform calls workers state)
    (answered : EventsAnswered state) {row : OutboxRow} (member : row ∈ state.outbox.db.outbox)
    {budget : Int} (held : RowBudget budget state row) (retryable : state.AllRetryable row) :
    (row.state = .deadLetter → row.attemptCount = budget) ∧
      (row.state = .deadLetter ↔ AttemptRecorded state.outbox.db row budget) := by
  have last : row.state = .deadLetter → row.attemptCount = budget := fun dead => by
    have ceiling := (invariant.outbox.rows row member).counters.budget
    obtain final | ⟨call, called, ofRow, refused⟩ := held.deadLetter dead
    · have := held.ceiling
      omega
    · rw [retryable call called ofRow] at refused
      cases refused
  have evidence := invariant.outbox.evidence.terminal row member
  refine ⟨last, fun dead => ?_, fun recorded => ?_⟩
  · obtain ⟨event, found, -⟩ := evidence.deadLetter dead
    exact ⟨event, found.recorded, found.outboxId, found.attemptNumber.trans (last dead)⟩
  · rw [← held.ceiling] at recorded
    obtain delivered | dead := (attemptCount_of_recorded invariant.outbox member recorded).2
    · obtain ⟨event, found, outcome, -⟩ := evidence.delivered delivered
      obtain ⟨call, called, posted⟩ := answered event found.recorded
      refine absurd (posted.outcome.symm.trans outcome) (not_delivered_of_retryable ?_)
      exact retryable call called (posted.outboxId.symm.trans found.outboxId)
    · exact dead

/-! ## Runs without a takeover -/

/-- Every attempt of the row but an open one has its event. -/
def OutcomesRecorded (db : AlertDb) (row : OutboxRow) : Prop :=
  ∀ number, 1 ≤ number → number ≤ row.attemptCount →
    (row.state = .inFlight → number < row.attemptCount) → AttemptRecorded db row number

theorem AttemptRecorded.mono {db after : AlertDb} {row : OutboxRow} {number : Int}
    (recorded : AttemptRecorded db row number)
    (events : db.attemptEvents ⊆ after.attemptEvents) : AttemptRecorded after row number := by
  obtain ⟨event, member, found⟩ := recorded
  exact ⟨event, events member, found⟩

theorem OutcomesRecorded.mono {db after : AlertDb} {row : OutboxRow}
    (recorded : OutcomesRecorded db row) (events : db.attemptEvents ⊆ after.attemptEvents) :
    OutcomesRecorded after row :=
  fun number low high closed => (recorded number low high closed).mono events

/-- A claim opens the next attempt, after the others were recorded. -/
theorem outcomesRecorded_claimed {db : AlertDb} {row : OutboxRow} {request : LeaseRequest}
    (recorded : OutcomesRecorded db row) (pending : row.state = .pending) :
    OutcomesRecorded db (row.set (leaseProgress request row)) := by
  intro number low _ closed
  have below : number < row.attemptCount + 1 := closed rfl
  exact recorded number low (by omega) (by simp [pending])

/-- An outcome records the attempt that was open. -/
theorem outcomesRecorded_outcome {db after : AlertDb} {row : OutboxRow} {leased : LeasedDelivery}
    {record : AttemptRecord} {target : TransitionTarget} {id : Int}
    (recorded : OutcomesRecorded db row) (ofRow : leased.outboxId = row.outboxId)
    (number : row.attemptCount = leased.attemptNumber)
    (events : after.attemptEvents = db.attemptEvents ++ [attemptEventRow leased record id]) :
    OutcomesRecorded after (row.set (target.progress row)) := by
  intro attempt low high _
  have bound : attempt ≤ row.attemptCount := high
  by_cases last : attempt = row.attemptCount
  · refine ⟨attemptEventRow leased record id, ?_, ofRow, number.symm.trans last.symm⟩
    rw [events]
    exact List.mem_append_right _ (List.mem_singleton.mpr rfl)
  · refine AttemptRecorded.mono (recorded attempt low bound fun _ => by omega) ?_
    rw [events]
    exact List.subset_append_left _ _

theorem outcomesRecorded_step (invariant : DeliveryInvariant platform calls workers state)
    (step : DeliveryStep platform calls workers state op next)
    (takesOverNone : TakesOverNone workers state op)
    (recorded : ∀ row ∈ state.outbox.db.outbox, OutcomesRecorded state.outbox.db row) :
    ∀ row ∈ next.outbox.db.outbox, OutcomesRecorded next.outbox.db row := by
  have moved (events : state.outbox.db.attemptEvents ⊆ next.outbox.db.attemptEvents)
      (outcome : ∀ worker completedAt ids post startedAt answer batch,
        op = .process worker completedAt ids →
        state.phase worker = .answered post startedAt answer batch → ∃ record id,
          next.outbox.db.attemptEvents =
            state.outbox.db.attemptEvents ++ [attemptEventRow post.leased record id]) :
      ∀ row ∈ next.outbox.db.outbox, OutcomesRecorded next.outbox.db row := by
    refine step.forall_rows invariant.outbox (fun row member held after move => ?_)
      (fun _ _ _ _ _ number low high => ?_) (fun _ held => held.mono events) recorded
    · cases move with
      | same => exact held.mono events
      | claimed free claimed =>
          exact (outcomesRecorded_claimed held (takesOverNone row member claimed)).mono events
      | @recorded worker completedAt ids post startedAt answer batch _ at_ active =>
          have phase := invariant.phases worker
          rw [at_] at phase
          obtain ⟨identity, -, number, -⟩ := active_row invariant.outbox
            (phase.pending post.leased List.mem_cons_self) member active
          obtain ⟨record, id, appended⟩ := outcome _ _ _ _ _ _ _ rfl at_
          exact outcomesRecorded_outcome held identity.outboxId number appended
      | redriven selected =>
          simp only [redriveTarget, Bool.and_eq_true, beq_iff_eq] at selected
          refine OutcomesRecorded.mono (fun number low high _ => ?_) events
          exact held number low high (by simp [selected.2])
    · have none : number ≤ 0 := high
      omega
  have quiet (other : ∀ worker completedAt ids, op ≠ .process worker completedAt ids) :
      ∀ row ∈ next.outbox.db.outbox, OutcomesRecorded next.outbox.db row :=
    moved ((step.attemptEvents other).1.symm ▸ fun _ => id)
      fun _ _ _ _ _ _ _ same => absurd same (other _ _ _)
  cases step with
  | recorded | redriven | leased | posted | answered | crashed =>
      exact quiet (fun _ _ _ same => by cases same)
  | idle | escaped => exact recorded
  | @processed worker completedAt ids post startedAt outcome batch result at_ accepted =>
      have phase := invariant.phases worker
      rw [at_] at phase
      have handedOut := phase.pending post.leased List.mem_cons_self
      simp only [OutboxSystem.step, if_pos handedOut] at moved ⊢
      cases ran : (Attempt.call post.leased (.mk outcome startedAt completedAt ids [])).run
          post.leased ids state.outbox.db with
      | error => exact recorded
      | ok after =>
          simp only [ran] at moved ⊢
          obtain ⟨id, events⟩ := attemptEvents_of_run invariant.outbox handedOut ran
          refine moved (events ▸ List.subset_append_left _ _) ?_
          rintro _ _ _ other _ _ _ ⟨⟩ same
          obtain rfl : post = other := by injection at_.symm.trans same
          exact ⟨_, id, events⟩

theorem outcomesRecorded_run (ops : List DeliveryOp)
    (takesOverNone : DeliverySystem.EachStep platform calls workers (TakesOverNone workers)
      .initial ops) :
    let state := DeliverySystem.initial.run platform calls workers ops
    ∀ row ∈ state.outbox.db.outbox, OutcomesRecorded state.outbox.db row := by
  have kept : ∀ state op, (DeliveryInvariant platform calls workers state ∧
        ∀ row ∈ state.outbox.db.outbox, OutcomesRecorded state.outbox.db row) →
      TakesOverNone workers state op → True ∧
        DeliveryInvariant platform calls workers (state.step platform calls workers op) ∧
        ∀ row ∈ (state.step platform calls workers op).outbox.db.outbox,
          OutcomesRecorded (state.step platform calls workers op).outbox.db row := by
    intro state op ⟨invariant, recorded⟩ takesOverNone
    have step := deliveryStep_step platform calls workers state op
    exact ⟨trivial, deliveryInvariant_step invariant step,
      outcomesRecorded_step invariant step takesOverNone recorded⟩
  exact (DeliverySystem.EachStep.invariant kept
    ⟨deliveryInvariant_initial, fun _ member => absurd member List.not_mem_nil⟩ takesOverNone).2.2

end Runs

/-! ## Every run -/

theorem Deployed.maxAttempts {urlparse : UrlParser} {settings : AlertDeliverySettings}
    {calls : Nat → Submission} {workers : Nat → AlertOutboxWorker}
    (deployed : Deployed urlparse settings calls workers) (caller : Nat)
    (enqueuer : WebhookOutboxEnqueuer)
    (enqueues : (calls caller).repository.deliveryEnqueuer = some enqueuer) :
    enqueuer.maxAttempts = defaultMaxAttempts :=
  buildDeliveryEnqueuer_ok (enqueues ▸ deployed.calls caller)

/-- Where the settings ask for the default budget, it is enforced in every run
without a re-drive; and while no expired lease is taken over, an intent is
dead-lettered exactly when the outcomes of all its attempts are recorded. -/
theorem default_budget_enforced {platform : EvaluationPlatform} {urlparse : UrlParser}
    {settings : AlertDeliverySettings} {calls : Nat → Submission}
    {workers : Nat → AlertOutboxWorker} (deployed : Deployed urlparse settings calls workers)
    (budget : settings.maxAttempts = defaultMaxAttempts) (ops : List DeliveryOp)
    (redrives : ∀ request, .redrive request ∉ ops) :
    let state := DeliverySystem.initial.run platform calls workers ops
    BudgetEnforced settings.maxAttempts state ∧
      (DeliverySystem.EachStep platform calls workers (TakesOverNone workers) .initial ops →
        EveryOutcomeCounts settings.maxAttempts state) := by
  intro state
  have invariant : DeliveryInvariant platform calls workers state :=
    deliveryInvariant_run ops deliveryInvariant_initial
  have answered : EventsAnswered state :=
    eventsAnswered_run ops eventsAnswered_initial deliveryInvariant_initial
  have budgets : ∀ row ∈ state.outbox.db.outbox, RowBudget settings.maxAttempts state row :=
    rowBudget_run ops deliveryInvariant_initial redrives
      (fun caller enqueuer enqueues => (deployed.maxAttempts caller enqueuer enqueues).trans
        budget.symm) (fun _ member => absurd member List.not_mem_nil)
  have simulated : Relation.ReflTransGen Custody.Step DeliverySystem.initial.custody
      state.custody :=
    custody_run ops fun outboxOps => (fencingInvariant_run outboxOps).takenNodup
  have spent := (Custody.invariant_reachable Custody.invariant_initial simulated).spent
  refine ⟨⟨fun row member => ?_, fun row member retryable => ?_, fun row member retryable => ?_⟩,
    fun takesOverNone row member retryable => ?_⟩
  · calc ((state.postsFor row).length : Int)
      _ ≤ row.attemptCount := length_postsFor_le invariant spent member
      _ ≤ row.maxAttempts := (counterBounds invariant.outbox member).budget
      _ = settings.maxAttempts := (budgets row member).ceiling
  · exact (deadLetter_iff_recorded invariant answered member (budgets row member) retryable).1
  · exact (deadLetter_iff_recorded invariant answered member (budgets row member) retryable).2
  · obtain ⟨last, iff⟩ :=
      deadLetter_iff_recorded invariant answered member (budgets row member) retryable
    refine ⟨fun dead number low high => ?_, fun every => iff.mpr (every _ ?_ (Int.le_refl _))⟩
    · refine outcomesRecorded_run ops takesOverNone row member number low ?_ (by simp [dead])
      rwa [last dead]
    · rw [budget]
      decide

/-! ### A budget of one attempt -/

def budgetSettings (maxAttempts : Int) : AlertDeliverySettings :=
  { webhookSettings "https://alerts.example.com/hook" with maxAttempts := maxAttempts }

def budgetCalls (maxAttempts : Int) (_ : Nat) : Submission :=
  ⟨⟨some ⟨budgetSettings maxAttempts, "alerts.example.com", defaultMaxAttempts⟩⟩, firingRequest⟩

def budgetWorkers (maxAttempts : Int) (_ : Nat) : AlertOutboxWorker where
  transport := ⟨budgetSettings maxAttempts, "https://alerts.example.com/hook"⟩
  workerId := "worker-1"

/-- The receiver fails twice. -/
def failingReceiver : List DeliveryOp :=
  [.record 0 ⟨1, 1⟩, .lease 0 0 10 (fun _ => false), .post 0 0, .answer 0 (.response 500),
    .process 0 second ⟨1, 1⟩, .lease 0 (10 * second) 10 (fun _ => false),
    .post 0 (10 * second)]

theorem failingReceiver_run :
    let state := DeliverySystem.initial.run firingPlatform (budgetCalls 1) (budgetWorkers 1)
      failingReceiver
    state.outbox.db.outbox.map (fun row => (state.postsFor row).length) = [2] := by
  decide +kernel

theorem one_attempt_budget_not_enforced :
    Deployed receiverUrls (budgetSettings 1) (budgetCalls 1) (budgetWorkers 1) ∧
    (∀ request, .redrive request ∉ failingReceiver) ∧
    ¬ BudgetEnforced (budgetSettings 1).maxAttempts (DeliverySystem.initial.run firingPlatform
      (budgetCalls 1) (budgetWorkers 1) failingReceiver) := by
  refine ⟨⟨rfl, fun _ => rfl, fun _ => ⟨"worker-1", defaultLeaseSeconds, rfl⟩⟩,
    fun _ => by simp [failingReceiver], fun enforced => ?_⟩
  obtain ⟨row, member, posts⟩ := List.mem_map.mp
    (failingReceiver_run.symm ▸ List.mem_singleton.mpr rfl)
  have bound := enforced.posts row member
  rw [posts] at bound
  exact absurd bound (by decide)

theorem default_budget_enforced_once :
    let state := DeliverySystem.initial.run firingPlatform (budgetCalls 5) (budgetWorkers 5)
      failingReceiver
    BudgetEnforced (budgetSettings 5).maxAttempts state ∧
      EveryOutcomeCounts (budgetSettings 5).maxAttempts state := by
  obtain ⟨enforced, everyOutcome⟩ := @default_budget_enforced firingPlatform receiverUrls
    (budgetSettings 5) (budgetCalls 5) (budgetWorkers 5)
    ⟨rfl, fun _ => rfl, fun _ => ⟨"worker-1", defaultLeaseSeconds, rfl⟩⟩ rfl failingReceiver
    (fun _ => by simp [failingReceiver])
  exact ⟨enforced, everyOutcome (by decide +kernel)⟩

end StockoutOps.Alerting
