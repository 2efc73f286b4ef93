import StockoutOps.Alerting.Recovery
import StockoutOps.Alerting.RowMoves

/-!
Contract: the attempt ceiling of an outbox row.

Owns: what a re-drive is to make of a dead letter, exactly when it does, and the
runs in which no ceiling is ever lowered.

Does not own: whether a re-driven row is delivered.

A row that is dead-lettered by a permanent error has attempts left. The re-drive
counts its additional attempts from those made, so the new ceiling may lie below
the old one.
-/

namespace StockoutOps.Alerting

open StockoutOps.Sql

def ceilingReached : Failure :=
  .conflict "OUTBOX_ATTEMPT_CEILING_REACHED"
    "Re-drive cannot raise the attempt ceiling any further"

/-- What a re-drive is to make of a dead letter. -/
structure Redriven (request : RedriveRequest) (row after : OutboxRow) : Prop where
  pending : after.state = .pending
  due : after.nextAttemptAt = request.now
  counted : after.redriveCount = row.redriveCount + 1
  above : row.attemptCount < after.maxAttempts
  bounded : after.maxAttempts ≤ 100
  raised : row.maxAttempts ≤ after.maxAttempts
  left : min request.additionalAttempts (100 - row.attemptCount) ≤
    after.maxAttempts - after.attemptCount
  identity : after.toOutboxIdentity = row.toOutboxIdentity
  kept : after.attemptCount = row.attemptCount ∧ after.lastErrorClass = row.lastErrorClass ∧
    after.lastHttpStatus = row.lastHttpStatus

/-- The re-drive of a dead letter raises its ceiling, or says that it cannot. -/
structure RaisesCeiling (state : OutboxSystem) (request : RedriveRequest) (row : OutboxRow) :
    Prop where
  accepted : row.attemptCount < 100 → ∃ next after, redrive request state.db = .ok ((), next) ∧
    next.outboxRow? row.outboxId = some after ∧ Redriven request row after
  refused : row.attemptCount = 100 → redrive request state.db = .error ceilingReached ∧
    (state.step (.redrive request)).db.outboxRow? row.outboxId = some row

/-- The additional attempts cover those that the dead letters have left. -/
def CoversBudget (state : OutboxSystem) : OutboxOp → Prop
  | .redrive request => 1 ≤ request.additionalAttempts → ∀ row ∈ state.db.outbox,
      redriveTarget request row = true →
        row.maxAttempts ≤ row.attemptCount + request.additionalAttempts
  | _ => True

/-- No row's ceiling is ever lower than it was before. -/
def NeverLowered (ops : List OutboxOp) : Prop :=
  ∀ before middle after, ops = before ++ middle ++ after →
    ∀ row ∈ (OutboxSystem.initial.run before).db.outbox,
      ∀ later ∈ (OutboxSystem.initial.run (before ++ middle)).db.outbox,
        later.outboxId = row.outboxId → row.maxAttempts ≤ later.maxAttempts

section Redrive

variable {state next : OutboxSystem} {request : RedriveRequest} {row : OutboxRow}

/-- The ceiling of a committed re-drive is the one computed for its row. -/
theorem RedriveCommit.ceiling_eq {next : AlertDb} {ceiling : Int}
    (commit : RedriveCommit request state.db next ceiling) (invariant : EvidenceInvariant state.db)
    (member : row ∈ state.db.outbox) (selected : redriveTarget request row = true) :
    ceiling = min (row.attemptCount + request.additionalAttempts) maxAttemptCeiling := by
  obtain ⟨target, targetMember, targetSelected, computed, -⟩ := commit.selected
  simp only [redriveTarget, Bool.and_eq_true, beq_iff_eq] at selected targetSelected
  obtain rfl := eq_of_outboxId_eq invariant.uniqueIds member targetMember
    (selected.1.2.trans targetSelected.1.2.symm)
  exact computed

/-- The row after a committed re-drive. -/
theorem RedriveCommit.row_after {next : AlertDb} {ceiling : Int}
    (commit : RedriveCommit request state.db next ceiling) (invariant : EvidenceInvariant state.db)
    (member : row ∈ state.db.outbox) (selected : redriveTarget request row = true) :
    next.outboxRow? row.outboxId = some (row.set (redriveProgress request ceiling row)) := by
  obtain ⟨rfl, -⟩ := updateOutbox_eq_ok.mp commit.update
  have found := (outboxRow?_eq_some_iff invariant.uniqueIds).mpr ⟨member, rfl⟩
  rw [outboxRow?_rewrite rfl, found]
  exact congrArg some (rewriteOutbox_of_selected selected)

/-- A dead letter at the ceiling cannot be re-driven. -/
theorem redrive_ceilingReached (invariant : EvidenceInvariant state.db)
    (member : row ∈ state.db.outbox) (dead : row.state = .deadLetter)
    (tenant : request.tenantId = row.tenantId) (id : request.outboxId = row.outboxId)
    (additional : 1 ≤ request.additionalAttempts) (spent : row.attemptCount = 100) :
    redrive request state.db = .error ceilingReached := by
  have found := find?_redriveRow invariant.uniqueIds member tenant id
  have positive : ¬ request.additionalAttempts < 1 := by omega
  have reached : min (row.attemptCount + request.additionalAttempts) maxAttemptCeiling ≤
      row.attemptCount := by
    rw [spent]
    exact Int.min_le_right _ _
  simp [redrive, positive, found, dead, reached, ceilingReached]

/-- A re-drive does what it should exactly when it covers what its row has left. -/
theorem raisesCeiling_iff (invariant : OutboxInvariant state) (member : row ∈ state.db.outbox)
    (dead : row.state = .deadLetter) (tenant : request.tenantId = row.tenantId)
    (id : request.outboxId = row.outboxId) (additional : 1 ≤ request.additionalAttempts) :
    RaisesCeiling state request row ↔
      row.maxAttempts ≤ row.attemptCount + request.additionalAttempts := by
  have counters := (invariant.rows row member).counters
  have checks := progressChecks invariant.evidence member
  have attempts := checks.attemptCount
  have ceilings := checks.maxAttempts
  have selected : redriveTarget request row = true := by simp [redriveTarget, tenant, id, dead]
  have taken : row.attemptCount < 100 → ∃ next, redrive request state.db = .ok ((), next) ∧
      next.outboxRow? row.outboxId = some (row.set (redriveProgress request
        (min (row.attemptCount + request.additionalAttempts) 100) row)) := by
    intro below
    obtain ⟨next, accepted⟩ :=
      redrive_accepted request invariant.evidence member counters dead below tenant id additional
    obtain ⟨ceiling, commit⟩ := redrive_ok accepted
    have computed := commit.ceiling_eq invariant.evidence member selected
    exact ⟨next, accepted, computed ▸ commit.row_after invariant.evidence member selected⟩
  constructor
  · intro raises
    by_cases below : row.attemptCount < 100
    · obtain ⟨next, after, accepted, stored, redriven⟩ := raises.accepted below
      obtain ⟨other, acceptedOther, storedOther⟩ := taken below
      obtain rfl : next = other := by
        rw [accepted] at acceptedOther
        exact (Prod.mk.inj (Except.ok.inj acceptedOther)).2
      obtain rfl := Option.some.inj (stored.symm.trans storedOther)
      have raised : row.maxAttempts ≤ min (row.attemptCount + request.additionalAttempts) 100 :=
        redriven.raised
      omega
    · omega
  · intro covers
    refine ⟨fun below => ?_, fun spent => ?_⟩
    · obtain ⟨next, accepted, stored⟩ := taken below
      refine ⟨next, _, accepted, stored, rfl, rfl, rfl, ?_, ?_, ?_, ?_, rfl, rfl, rfl, rfl⟩
      · show row.attemptCount < min (row.attemptCount + request.additionalAttempts) 100
        omega
      · exact Int.min_le_right _ _
      · show row.maxAttempts ≤ min (row.attemptCount + request.additionalAttempts) 100
        omega
      · show min request.additionalAttempts (100 - row.attemptCount) ≤
          min (row.attemptCount + request.additionalAttempts) 100 - row.attemptCount
        omega
    · have refused :=
        redrive_ceilingReached invariant.evidence member dead tenant id additional spent
      refine ⟨refused, ?_⟩
      rw [OutboxSystem.step, refused]
      exact (outboxRow?_eq_some_iff invariant.evidence.uniqueIds).mpr ⟨member, rfl⟩

end Redrive

/-! ## Runs -/

section Runs

variable {state next : OutboxSystem} {op : OutboxOp}

/-- A transaction that is no re-drive leaves every ceiling as it is. -/
theorem RowMove.maxAttempts {row after : OutboxRow} (move : RowMove state op row after)
    (other : ∀ request, op ≠ .redrive request) : after.maxAttempts = row.maxAttempts := by
  cases move with
  | same => rfl
  | claimed => rfl
  | recorded => rfl
  | redriven => exact absurd rfl (other _)

/-- A step that covers the budgets leaves every row with at least its ceiling. -/
theorem maxAttempts_le_step (invariant : OutboxInvariant state) (step : OutboxStep state op next)
    (covers : CoversBudget state op) {row : OutboxRow} (member : row ∈ state.db.outbox) :
    ∃ later ∈ next.db.outbox, later.outboxId = row.outboxId ∧
      row.maxAttempts ≤ later.maxAttempts := by
  have plain (other : ∀ request, op ≠ .redrive request) : ∃ later ∈ next.db.outbox,
      later.outboxId = row.outboxId ∧ row.maxAttempts ≤ later.maxAttempts := by
    obtain ⟨later, laterMember, moved⟩ := step.rowMove invariant member
    exact ⟨later, laterMember, congrArg OutboxIdentity.outboxId moved.identity,
      Int.le_of_eq (moved.maxAttempts other).symm⟩
  cases op with
  | redrive request =>
      cases step with
      | rejected => exact ⟨row, member, rfl, Int.le_refl _⟩
      | @redrive _ ceiling db commit =>
          cases selected : redriveTarget request row with
          | false =>
              obtain ⟨rfl, -⟩ := updateOutbox_eq_ok.mp commit.update
              refine ⟨row, List.mem_map.mpr ⟨row, member, ?_⟩, rfl, Int.le_refl _⟩
              exact rewriteOutbox_of_other selected
          | true =>
              have stored := commit.row_after invariant.evidence member selected
              have computed := commit.ceiling_eq invariant.evidence member selected
              obtain ⟨target, targetMember, targetSelected, same, above⟩ := commit.selected
              have ceilings := (progressChecks invariant.evidence member).maxAttempts
              have unique := (evidenceInvariant_redrive invariant.evidence commit).uniqueIds
              obtain ⟨stays, id⟩ := (outboxRow?_eq_some_iff unique).mp stored
              refine ⟨_, stays, id, ?_⟩
              show row.maxAttempts ≤ ceiling
              rw [maxAttemptCeiling] at computed same
              have covered := covers (by omega) row member selected
              omega
  | appendEvaluation | enqueue | lease | record => exact plain (fun _ => nofun)

theorem maxAttempts_le_run {ops : List OutboxOp} (invariant : OutboxInvariant state)
    (covers : ∀ before op after, ops = before ++ op :: after → CoversBudget (state.run before) op)
    {row : OutboxRow} (member : row ∈ state.db.outbox) :
    ∃ later ∈ (state.run ops).db.outbox, later.outboxId = row.outboxId ∧
      row.maxAttempts ≤ later.maxAttempts := by
  induction ops generalizing state row with
  | nil => exact ⟨row, member, rfl, Int.le_refl _⟩
  | cons op rest inductionHypothesis =>
      have step := outboxStep_step state op
      obtain ⟨middle, middleMember, middleId, middleRaised⟩ :=
        maxAttempts_le_step invariant step (covers [] op rest rfl) member
      obtain ⟨later, laterMember, laterId, raised⟩ := inductionHypothesis
        (outboxInvariant_step invariant step)
        (fun before next after split => covers (op :: before) next after (by rw [split]; rfl))
        middleMember
      exact ⟨later, laterMember, laterId.trans middleId, Int.le_trans middleRaised raised⟩

theorem neverLowered_of_covers {ops : List OutboxOp}
    (covers : ∀ before op after, ops = before ++ op :: after →
      CoversBudget (OutboxSystem.initial.run before) op) : NeverLowered ops := by
  intro before middle after split row member later laterMember same
  have invariant := outboxInvariant_run before outboxInvariant_initial
  have invariantLater := outboxInvariant_run (before ++ middle) outboxInvariant_initial
  have inside : ∀ earlier op rest, middle = earlier ++ op :: rest →
      CoversBudget ((OutboxSystem.initial.run before).run earlier) op := by
    intro earlier op rest splitMiddle
    rw [← run_append]
    exact covers (before ++ earlier) op (rest ++ after) (by rw [split, splitMiddle]; simp)
  obtain ⟨kept, keptMember, id, raised⟩ := maxAttempts_le_run invariant inside member
  rw [← run_append] at keptMember
  obtain rfl := eq_of_outboxId_eq invariantLater.evidence.uniqueIds keptMember laterMember
    (id.trans same.symm)
  exact raised

/-- A re-drive that does not cover a budget lowers the ceiling at once. -/
theorem coversBudget_of_neverLowered {ops : List OutboxOp} (never : NeverLowered ops)
    (before : List OutboxOp) (op : OutboxOp) (after : List OutboxOp)
    (split : ops = before ++ op :: after) :
    CoversBudget (OutboxSystem.initial.run before) op := by
  cases op with
  | appendEvaluation | enqueue | lease | record => trivial
  | redrive request =>
      intro additional row member selected
      have invariant := outboxInvariant_run before outboxInvariant_initial
      have chosen := selected
      simp only [redriveTarget, Bool.and_eq_true, beq_iff_eq] at chosen
      obtain ⟨⟨tenant, id⟩, dead⟩ := chosen
      refine Classical.byContradiction fun uncovered => ?_
      have attempts := (progressChecks invariant.evidence member).attemptCount
      have ceilings := (progressChecks invariant.evidence member).maxAttempts
      obtain ⟨next, accepted⟩ := redrive_accepted request invariant.evidence member
        (invariant.rows row member).counters dead (by omega) tenant.symm id.symm additional
      obtain ⟨ceiling, commit⟩ := redrive_ok accepted
      have computed := commit.ceiling_eq invariant.evidence member selected
      have unique := (evidenceInvariant_redrive invariant.evidence commit).uniqueIds
      obtain ⟨lowered, sameId⟩ := (outboxRow?_eq_some_iff unique).mp
        (commit.row_after invariant.evidence member selected)
      have reached : (OutboxSystem.initial.run (before ++ [.redrive request])).db = next := by
        rw [run_append]
        show ((OutboxSystem.initial.run before).step (.redrive request)).db = next
        simp [OutboxSystem.step, accepted]
      have kept := never before [.redrive request] after (by rw [split]; simp) row member _
        (by rw [reached]; exact lowered) sameId
      have below : row.maxAttempts ≤ ceiling := kept
      rw [maxAttemptCeiling] at computed
      omega

end Runs

/-- After any operations, a re-drive of a dead letter does what it should, and in
them no ceiling is lowered, exactly when the additional attempts cover those the row
has left. -/
theorem redrive_raises_ceiling_iff (ops : List OutboxOp) :
    (∀ row ∈ (OutboxSystem.initial.run ops).db.outbox, row.state = .deadLetter →
      ∀ request : RedriveRequest, request.tenantId = row.tenantId →
        request.outboxId = row.outboxId → 1 ≤ request.additionalAttempts →
          (RaisesCeiling (OutboxSystem.initial.run ops) request row ↔
            row.maxAttempts ≤ row.attemptCount + request.additionalAttempts)) ∧
    (NeverLowered ops ↔ ∀ before op after, ops = before ++ op :: after →
      CoversBudget (OutboxSystem.initial.run before) op) := by
  refine ⟨?_, coversBudget_of_neverLowered, neverLowered_of_covers⟩
  intro row member dead request tenant id additional
  exact raisesCeiling_iff (outboxInvariant_run ops outboxInvariant_initial) member dead tenant id
    additional

/-! ### A permanent error on the first of five attempts -/

def fiveAttemptIntent : EnqueueRequest := { singleAttemptIntent with maxAttempts := 5 }

def promptLease : LeaseRequest := { workerId := "worker-1", now := 0 }

def rejectedDelivery : LeasedDelivery :=
  leasedDelivery promptLease
    ((fiveAttemptIntent.row 1).set (leaseProgress promptLease (fiveAttemptIntent.row 1)))

/-- The receiver answers the first attempt with a 400. -/
def rejectedAtOnce : List OutboxOp :=
  [.appendEvaluation firedEvaluation, .enqueue fiveAttemptIntent 1,
    .lease promptLease (fun _ => false),
    .record rejectedDelivery (.deadLetter .permanentFailure (some 400) "http_4xx" 1 2) ⟨1, 1⟩]

/-- One more attempt for the dead letter of tenant `demo`. -/
def oneMoreAttempt : RedriveRequest :=
  { tenantId := "demo", outboxId := 1, now := 3, additionalAttempts := 1 }

theorem rejectedAtOnce_deadLetter :
    (OutboxSystem.initial.run rejectedAtOnce).db.outbox.any (fun row =>
      row.state == .deadLetter && row.tenantId == "demo" && row.outboxId == 1 &&
        row.attemptCount == 1 && row.maxAttempts == 5) = true := by
  decide +kernel

theorem redrive_raises_ceiling_small : ∃ row,
    row ∈ (OutboxSystem.initial.run rejectedAtOnce).db.outbox ∧
      RaisesCeiling (OutboxSystem.initial.run rejectedAtOnce)
        { oneMoreAttempt with additionalAttempts := 5 } row := by
  obtain ⟨row, member, found⟩ := List.any_eq_true.mp rejectedAtOnce_deadLetter
  simp only [Bool.and_eq_true, beq_iff_eq] at found
  obtain ⟨⟨⟨⟨dead, tenant⟩, id⟩, attempts⟩, ceiling⟩ := found
  refine ⟨row, member, ((redrive_raises_ceiling_iff rejectedAtOnce).1 row member dead
    { oneMoreAttempt with additionalAttempts := 5 } tenant.symm id.symm (by decide)).mpr ?_⟩
  show row.maxAttempts ≤ row.attemptCount + 5
  omega

theorem redrive_lowers_ceiling :
    ¬ ∀ state : OutboxSystem, state.Reachable → ∀ row ∈ state.db.outbox,
      row.state = .deadLetter → ∀ request : RedriveRequest, request.tenantId = row.tenantId →
        request.outboxId = row.outboxId → 1 ≤ request.additionalAttempts →
          RaisesCeiling state request row := by
  intro raises
  obtain ⟨row, member, found⟩ := List.any_eq_true.mp rejectedAtOnce_deadLetter
  simp only [Bool.and_eq_true, beq_iff_eq] at found
  obtain ⟨⟨⟨⟨dead, tenant⟩, id⟩, attempts⟩, ceiling⟩ := found
  have raised := raises _ ⟨rejectedAtOnce, rfl⟩ row member dead oneMoreAttempt tenant.symm id.symm
    (by decide)
  have covers := (raisesCeiling_iff
    (outboxInvariant_run rejectedAtOnce outboxInvariant_initial) member dead tenant.symm id.symm
    (show 1 ≤ oneMoreAttempt.additionalAttempts by decide)).mp raised
  have covers : row.maxAttempts ≤ row.attemptCount + 1 := covers
  omega

end StockoutOps.Alerting
