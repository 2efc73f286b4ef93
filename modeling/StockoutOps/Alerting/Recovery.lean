import StockoutOps.Alerting.OutboxAcceptance

/-!
Contract: which delivery intents can go on without the worker that holds them.

Owns: the operations that can take a row over, the exact rows they miss, and
the runs in which no row is missed.

Does not own: acceptance of the single statements.

A lease and a re-drive are the only operations that need no delivery handed out
earlier. The claim scan wants an attempt left in the budget, the re-drive wants
a dead letter; a row whose last budgeted attempt is in flight is neither.
-/

namespace StockoutOps.Alerting

open StockoutOps.Sql

/-- A lease, with no row locked by others, hands the row out. -/
def LeaseClaims (db : AlertDb) (request : LeaseRequest) (row : OutboxRow) : Prop :=
  ∃ batch next, lease request (fun _ => false) db = .ok (batch, next) ∧
    ∃ leased ∈ batch, leased.outboxId = row.outboxId

/-- At some time any worker's lease claims the row, or an operator's re-drive of
it is accepted. -/
def Recoverable (db : AlertDb) (row : OutboxRow) : Prop :=
  (∃ now batchSize, ∀ workerId, lengthBetween 1 200 workerId = true →
    LeaseClaims db { workerId := workerId, now := now, batchSize := batchSize } row) ∨
  ∃ request : RedriveRequest, request.tenantId = row.tenantId ∧
    request.outboxId = row.outboxId ∧ ∃ next, redrive request db = .ok ((), next)

/-- The delivery is over: delivered, or dead at the attempt ceiling. -/
def Settled (row : OutboxRow) : Prop :=
  row.state = .delivered ∨ (row.state = .deadLetter ∧ row.attemptCount = 100)

/-- The last budgeted attempt is in flight. -/
def Stranded (row : OutboxRow) : Prop :=
  row.state = .inFlight ∧ row.attemptCount = row.maxAttempts

theorem Stranded.not_settled {row : OutboxRow} (stranded : Stranded row) : ¬ Settled row := by
  simp [Settled, stranded.1]

section Row

variable {db : AlertDb} {row : OutboxRow}

theorem leaseClaims_of_leasable {request : LeaseRequest} (invariant : EvidenceInvariant db)
    (valid : request.Valid) (member : row ∈ db.outbox)
    (due : leasable request.now row = true) (room : db.outbox.length ≤ request.batchSize) :
    LeaseClaims db request row := by
  obtain ⟨batch, next, accepted⟩ := lease_accepted (fun _ => false) invariant valid
  have claimed : claims request (fun _ => false) db row = true := by
    simp only [claims, List.contains_iff_mem, leaseCandidates]
    refine List.mem_map_of_mem ?_
    rw [List.take_of_length_le]
    · simp [List.mem_insertionSort, member, due]
    · rw [List.length_insertionSort]
      exact Nat.le_trans (List.length_filter_le _ _) room
  exact ⟨batch, next, accepted, _,
    (lease_ok accepted).mem_batch.mpr ⟨row, member, claimed, rfl⟩, rfl⟩

/-- An open row with an attempt left is due at the latest of its own instants. -/
theorem exists_leasable (checks : ProgressChecks row.toOutboxProgress)
    (active : row.state = .pending ∨ row.state = .inFlight)
    (budget : row.attemptCount < row.maxAttempts) : ∃ now, leasable now row = true := by
  rcases active with pending | inFlight
  · exact ⟨row.nextAttemptAt, by simp [leasable, pending, budget]⟩
  · have leased : row.leaseExpiresAt.isSome := by
      rcases checks.lease with ⟨-, -, expiry⟩ | ⟨other, -⟩
      · exact expiry
      · exact absurd inFlight other
    obtain ⟨expiry, found⟩ := Option.isSome_iff_exists.mp leased
    refine ⟨max row.nextAttemptAt expiry, ?_⟩
    simp [leasable, inFlight, found, budget]

theorem recoverable_of_budget (invariant : EvidenceInvariant db) (member : row ∈ db.outbox)
    (active : row.state = .pending ∨ row.state = .inFlight)
    (budget : row.attemptCount < row.maxAttempts) : Recoverable db row := by
  obtain ⟨now, due⟩ := exists_leasable (progressChecks invariant member) active budget
  refine .inl ⟨now, db.outbox.length, fun workerId valid => ?_⟩
  have lasts : 0 < defaultLeaseSeconds := by decide
  refine leaseClaims_of_leasable invariant ⟨valid, lasts, ?_⟩ member due (Nat.le_refl _)
  exact List.length_pos_of_mem member

/-- No lease whatever claims a stranded row: its budget is spent. -/
theorem not_leaseClaims_of_stranded {request : LeaseRequest} (invariant : EvidenceInvariant db)
    (member : row ∈ db.outbox) (stranded : Stranded row) : ¬ LeaseClaims db request row := by
  rintro ⟨batch, next, accepted, leased, leasedMember, same⟩
  obtain ⟨other, otherMember, claimed, rfl⟩ := (lease_ok accepted).mem_batch.mp leasedMember
  obtain rfl := eq_of_outboxId_eq invariant.uniqueIds otherMember member same
  have due := leasable_of_claims invariant.uniqueIds member claimed
  simp only [leasable, Bool.and_eq_true, decide_eq_true_eq] at due
  have exhausted := stranded.2
  omega

theorem not_recoverable_of_stranded (invariant : EvidenceInvariant db) (member : row ∈ db.outbox)
    (stranded : Stranded row) : ¬ Recoverable db row := by
  rintro (⟨now, batchSize, claims⟩ | ⟨request, tenant, id, next, accepted⟩)
  · exact not_leaseClaims_of_stranded invariant member stranded (claims "worker" (by decide))
  · obtain ⟨ceiling, commit⟩ := redrive_ok accepted
    obtain ⟨other, otherMember, selected, -⟩ := commit.selected
    simp only [redriveTarget, Bool.and_eq_true, beq_iff_eq] at selected
    obtain rfl := eq_of_outboxId_eq invariant.uniqueIds otherMember member (selected.1.2.trans id)
    rw [stranded.1] at selected
    cases selected.2

/-- In a reachable state an open row is recoverable unless its last budgeted
attempt is in flight. -/
theorem recoverable_iff {state : OutboxSystem} (invariant : OutboxInvariant state)
    (member : row ∈ state.db.outbox) (unsettled : ¬ Settled row) :
    Recoverable state.db row ↔ ¬ Stranded row := by
  have counters := (invariant.rows row member).counters
  constructor
  · exact fun recoverable stranded =>
      not_recoverable_of_stranded invariant.evidence member stranded recoverable
  · intro free
    cases source : row.state with
    | pending =>
        exact recoverable_of_budget invariant.evidence member (.inl source)
          (counters.pending source)
    | inFlight =>
        have budget := counters.budget
        have open_ : row.attemptCount ≠ row.maxAttempts := fun same => free ⟨source, same⟩
        exact recoverable_of_budget invariant.evidence member (.inr source) (by omega)
    | delivered => exact absurd (.inl source) unsettled
    | deadLetter =>
        have bound := (progressChecks invariant.evidence member).attemptCount.2
        have below : row.attemptCount ≠ 100 := fun same => unsettled (.inr ⟨source, same⟩)
        obtain ⟨next, accepted⟩ := redrive_accepted ⟨row.tenantId, row.outboxId, 0, 1⟩
          invariant.evidence member counters source (by omega) rfl rfl (Int.le_refl 1)
        exact .inr ⟨_, rfl, rfl, next, accepted⟩

end Row

/-! ## Runs -/

/-- The operation does not put a row's last budgeted attempt in flight. -/
def SparesLastAttempt (state : OutboxSystem) : OutboxOp → Prop
  | .lease request locked => request.Valid → ∀ row ∈ state.db.outbox,
      claims request locked state.db row = true → row.attemptCount + 1 < row.maxAttempts
  | _ => True

section Runs

variable {state next : OutboxSystem}

/-- A lease that claimed a row was valid: the trigger and the constraints check
the lease time and the worker id. -/
theorem valid_of_claimed {request : LeaseRequest} {locked : Int → Bool}
    {batch : List LeasedDelivery} {db : AlertDb} {row : OutboxRow}
    (unique : (state.db.outbox.map (·.outboxId)).Nodup)
    (accepted : lease request locked state.db = .ok (batch, db)) (member : row ∈ state.db.outbox)
    (claimed : claims request locked state.db row = true) : request.Valid := by
  obtain ⟨guard, checks⟩ := (lease_ok accepted).accepted row member claimed
  have progress := (outboxChecks_iff.mp (checkAll_eq_ok.mp checks)).2
  simp only [guardAlertOutboxUpdate, guard_bind_eq_ok, guardOutboxLease_eq_ok] at guard
  have due := leasable_of_claims unique member claimed
  simp only [leasable, Bool.and_eq_true, Bool.or_eq_true, decide_eq_true_eq] at due
  have lasts : request.now < request.now + request.leaseSeconds := by
    rcases due.1.2 with pending | ⟨inFlight, -⟩
    · exact (guard.2.1.1 pending rfl).2.2 _ rfl
    · exact (guard.2.1.2 inFlight rfl).2.2 _ rfl
  refine ⟨progress.leaseOwner, ?_, ?_⟩
  · exact Int.lt_of_add_lt_add_left (a := request.now) (by simpa using lasts)
  · simp only [lease] at accepted
    split at accepted
    case isTrue => cases accepted
    split at accepted
    case isTrue => cases accepted
    case isFalse batch => omega

/-- A lease that spares the last attempts is the only way into IN_FLIGHT. -/
theorem not_stranded_step {op : OutboxOp} (invariant : OutboxInvariant state)
    (free : ∀ row ∈ state.db.outbox, ¬ Stranded row) (step : OutboxStep state op next)
    (spares : SparesLastAttempt state op) : ∀ row ∈ next.db.outbox, ¬ Stranded row := by
  intro row member stranded
  cases step with
  | rejected => exact free row member stranded
  | appendEvaluation accepted =>
      obtain ⟨rfl, -⟩ := insertEvaluation_ok accepted
      exact free row member stranded
  | enqueue accepted =>
      obtain rfl | ⟨id, rfl, -⟩ := enqueueInTransaction_ok accepted
      · exact free row member stranded
      · rcases List.mem_append.mp member with old | fresh
        · exact free row old stranded
        · rw [List.mem_singleton.mp fresh] at stranded
          cases stranded.1
  | @lease request locked batch db accepted =>
      have commit := lease_ok accepted
      rw [commit.tables] at member
      obtain ⟨old, oldMember, rfl⟩ := List.mem_map.mp member
      cases claimed : claims request locked state.db old with
      | false =>
          rw [rewriteOutbox_of_other claimed] at stranded
          exact free old oldMember stranded
      | true =>
          have valid := valid_of_claimed invariant.evidence.uniqueIds accepted oldMember claimed
          have left := spares valid old oldMember claimed
          rw [rewriteOutbox_of_selected claimed] at stranded
          have exhausted : old.attemptCount + 1 = old.maxAttempts := stranded.2
          omega
  | @record leased call ids db handedOut arguments accepted =>
      rw [(commitOutcome_ok accepted).outbox] at member
      obtain ⟨old, oldMember, rfl⟩ := List.mem_map.mp member
      cases held : holdsLease leased old with
      | false =>
          rw [rewriteOutbox_of_other held] at stranded
          exact free old oldMember stranded
      | true =>
          rw [rewriteOutbox_of_selected held] at stranded
          have stays : (call.target leased).state = .inFlight := stranded.1
          rw [call.target_state leased] at stays
          cases call <;> simp [RecordCall.ledgerStatus, outcomeState] at stays
  | @redrive request ceiling db commit =>
      obtain ⟨rfl, -⟩ := updateOutbox_eq_ok.mp commit.update
      obtain ⟨old, oldMember, rfl⟩ := List.mem_map.mp member
      change Stranded (rewriteOutbox _ _ old) at stranded
      cases selected : redriveTarget request old with
      | false =>
          rw [rewriteOutbox_of_other selected] at stranded
          exact free old oldMember stranded
      | true =>
          rw [rewriteOutbox_of_selected selected] at stranded
          cases stranded.1

/-- A valid lease that claims a row's last budgeted attempt strands it. -/
theorem stranded_of_claimed {request : LeaseRequest} {locked : Int → Bool} {row : OutboxRow}
    (invariant : OutboxInvariant state) (valid : request.Valid) (member : row ∈ state.db.outbox)
    (claimed : claims request locked state.db row = true)
    (last : ¬ row.attemptCount + 1 < row.maxAttempts) :
    ∃ taken ∈ (state.step (.lease request locked)).db.outbox, Stranded taken := by
  obtain ⟨batch, db, accepted⟩ := lease_accepted locked invariant.evidence valid
  have due := leasable_of_claims invariant.evidence.uniqueIds member claimed
  simp only [leasable, Bool.and_eq_true, decide_eq_true_eq] at due
  refine ⟨row.set (leaseProgress request row), ?_, rfl, ?_⟩
  · simp only [OutboxSystem.step, accepted]
    rw [(lease_ok accepted).tables, ← rewriteOutbox_of_selected claimed]
    exact List.mem_map_of_mem member
  · show row.attemptCount + 1 = row.maxAttempts
    omega

theorem sparesLastAttempt_of_recoverable {op : OutboxOp} (invariant : OutboxInvariant state)
    (recoverable : ∀ row ∈ (state.step op).db.outbox, ¬ Settled row →
      Recoverable (state.step op).db row) : SparesLastAttempt state op := by
  have invariantNext := outboxInvariant_step invariant (outboxStep_step state op)
  cases op with
  | lease request locked =>
      intro valid row member claimed
      refine Classical.byContradiction fun last => ?_
      obtain ⟨taken, takenMember, stranded⟩ :=
        stranded_of_claimed invariant valid member claimed last
      exact not_recoverable_of_stranded invariantNext.evidence takenMember stranded
        (recoverable taken takenMember stranded.not_settled)
  | appendEvaluation | enqueue | record | redrive => trivial

theorem not_stranded_run {ops : List OutboxOp} (invariant : OutboxInvariant state)
    (free : ∀ row ∈ state.db.outbox, ¬ Stranded row)
    (spares : ∀ before op after, ops = before ++ op :: after →
      SparesLastAttempt (state.run before) op) :
    ∀ row ∈ (state.run ops).db.outbox, ¬ Stranded row := by
  induction ops generalizing state with
  | nil => exact free
  | cons op rest inductionHypothesis =>
      have step := outboxStep_step state op
      refine inductionHypothesis (outboxInvariant_step invariant step)
        (not_stranded_step invariant free step (spares [] op rest rfl)) ?_
      intro before later after split
      exact spares (op :: before) later after (by rw [split]; rfl)

end Runs

/-- No open intent is ever out of reach in a run exactly when no lease of the run
puts a row's last budgeted attempt in flight. -/
theorem intents_recoverable_iff (ops : List OutboxOp) :
    (∀ before after, ops = before ++ after →
      ∀ row ∈ (OutboxSystem.initial.run before).db.outbox, ¬ Settled row →
        Recoverable (OutboxSystem.initial.run before).db row) ↔
    ∀ before op after, ops = before ++ op :: after →
      SparesLastAttempt (OutboxSystem.initial.run before) op := by
  constructor
  · intro recoverable before op after split
    have reached : OutboxSystem.initial.run (before ++ [op]) =
        (OutboxSystem.initial.run before).step op := run_append _ before [op]
    refine sparesLastAttempt_of_recoverable (outboxInvariant_run before outboxInvariant_initial) ?_
    rw [← reached]
    exact recoverable (before ++ [op]) after (by rw [split, List.append_assoc]; rfl)
  · intro spares before after split row member unsettled
    have invariant := outboxInvariant_run before outboxInvariant_initial
    refine (recoverable_iff invariant member unsettled).mpr ?_
    refine not_stranded_run outboxInvariant_initial
      (by simp [OutboxSystem.initial, AlertDb.empty]) (fun earlier op later inside => ?_) row member
    exact spares earlier op (later ++ after) (by rw [split, inside]; simp)

/-! ### A crash on the last budgeted attempt -/

def firedEvaluation : EvaluationRow where
  policyId := "shadow-external-action-safety"
  policyVersion := "m2-alert-policy-v1"
  metricName := .externalActionCount
  severity := .sev1
  thresholdClassification := .target
  thresholdValue := .finite 0
  windowLabel := "one tenant-scoped shadow report batch"
  windowId := "window-1"
  evidenceLabel := .simulated
  sourceReportSha256 := String.ofList (List.replicate 64 'c')
  correlationJson := .obj [("tenant_id", .str "demo"), ("run_id", .null), ("case_id", .null)]
  actorId := "operator-1"
  alertEvaluationId := 1
  alertFingerprint := String.ofList (List.replicate 64 'a')
  tenantId := "demo"
  state := some .firing
  previousState := none
  transition := .fired
  measurementStatus := .evaluated
  observedValue := some (.finite 1)
  payloadHash := String.ofList (List.replicate 64 'b')
  idempotencyKey := "evaluation-1"
  evaluatedAt := 0

def singleAttemptIntent : EnqueueRequest where
  tenantId := "demo"
  evaluationId := 1
  alertFingerprint := firedEvaluation.alertFingerprint
  transition := .fired
  destinationHost := "alerts.example"
  payload := .obj []
  payloadHash := firedEvaluation.payloadHash
  enqueuedAt := 0
  maxAttempts := 1

/-- A budget of one, spent by a worker that never comes back. -/
def crashOnLastAttempt : List OutboxOp :=
  [.appendEvaluation firedEvaluation, .enqueue singleAttemptIntent 1,
    .lease { workerId := "worker-1", now := 0 } (fun _ => false)]

theorem crashOnLastAttempt_strands :
    (OutboxSystem.initial.run crashOnLastAttempt).db.outbox.any (fun row =>
      row.state == .inFlight && row.attemptCount == row.maxAttempts) = true := by
  decide +kernel

theorem crash_on_last_attempt_not_recoverable :
    ¬ ∀ row ∈ (OutboxSystem.initial.run crashOnLastAttempt).db.outbox, ¬ Settled row →
      Recoverable (OutboxSystem.initial.run crashOnLastAttempt).db row := by
  intro recoverable
  obtain ⟨row, member, stranded⟩ := List.any_eq_true.mp crashOnLastAttempt_strands
  simp only [Bool.and_eq_true, beq_iff_eq] at stranded
  have invariant := outboxInvariant_run crashOnLastAttempt outboxInvariant_initial
  have stuck : Stranded row := stranded
  exact not_recoverable_of_stranded invariant.evidence member stuck
    (recoverable row member stuck.not_settled)

end StockoutOps.Alerting
