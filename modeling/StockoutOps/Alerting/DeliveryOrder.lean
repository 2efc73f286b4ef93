import StockoutOps.Alerting.DeliveryEvidence

/-!
Contract: the order in which the intents of one alert are sent and accepted.

Owns: the runs in which no RESOLVED is posted before its FIRED is finished, and
in which the receivers accept the events of an alert in their order.

Does not own: what a receiver makes of a delivery that is repeated.

The outbox orders rows inside a batch only. What keeps the order across batches
is that no intent is claimed ahead of an unfinished one of its alert.
-/

namespace StockoutOps.Alerting

open StockoutOps.Sql

def OutboxIdentity.alert (row : OutboxIdentity) : String × String :=
  (row.tenantId, row.alertFingerprint)

def LeasedDelivery.alert (leased : LeasedDelivery) : String × String :=
  (leased.tenantId, leased.alertFingerprint)

theorem LeasedFrom.alert {leased : LeasedDelivery} {row : OutboxIdentity}
    (from_ : LeasedFrom leased row) : leased.alert = row.alert := by
  rw [LeasedDelivery.alert, OutboxIdentity.alert, from_.tenantId, from_.alertFingerprint]

/-! ## What order means -/

/-- The intents of the alert's earlier events are DELIVERED or DEAD_LETTER. -/
def EarlierFinished (db : AlertDb) (leased : LeasedDelivery) : Prop :=
  ∀ row ∈ db.outbox, row.alert = leased.alert → row.evaluationId < leased.evaluationId →
    row.Terminal

/-- The delivery reports an event that follows a FIRED one whose intent is
DELIVERED or DEAD_LETTER. -/
def FiredFinished (platform : EvaluationPlatform) (db : AlertDb) (leased : LeasedDelivery) :
    Prop :=
  ∃ before fired between resolved after,
    db.events leased.tenantId leased.alertFingerprint =
      before ++ fired :: (between ++ resolved :: after) ∧
    resolved.alertEvaluationId = leased.evaluationId ∧ fired.transition = .fired ∧
    (∀ event ∈ between, event.isLifecycle = false) ∧
    ∃ intent ∈ db.outbox, Reports platform fired intent ∧ intent.Terminal

/-- The delivery that the worker posts next. -/
def WorkerPhase.next? : WorkerPhase → Option LeasedDelivery
  | .serving (leased :: _) => some leased
  | _ => none

/-- A RESOLVED is posted after its FIRED is finished. -/
def PostsAfterFired (platform : EvaluationPlatform) (state : DeliverySystem) : DeliveryOp → Prop
  | .post worker _ => ∀ leased, (state.phase worker).next? = some leased →
      leased.transition = .resolved → FiredFinished platform state.outbox.db leased
  | _ => True

def accepted (call : Post × TransportOutcome) : Bool :=
  call.2.decision.outcome = .delivered

/-- The receivers accept the deliveries of an alert in the order of its events. -/
def InAlertOrder (calls : List (Post × TransportOutcome)) : Prop :=
  (calls.filter accepted).Pairwise fun earlier later =>
    earlier.1.leased.alert = later.1.leased.alert →
      earlier.1.leased.evaluationId ≤ later.1.leased.evaluationId

/-! ## What keeps it -/

/-- `_process` puts the row back in the queue. -/
def Retries (leased : LeasedDelivery) (outcome : TransportOutcome) : Prop :=
  outcome.decision.retryable = true ∧ leased.isFinalAttempt = false

/-- An intent is claimed when the earlier ones of its alert are finished or
claimed with it; the worker holds its lease until the outcome is recorded; a
retry leaves no later one of the alert in the batch; and a dead letter is
re-driven while no later one is in flight or was accepted. -/
def KeepsOrder (workers : Nat → AlertOutboxWorker) (state : DeliverySystem) : DeliveryOp → Prop
  | .lease worker now batchSize locked =>
      match state.phase worker with
      | .serving [] =>
          let claimed := claims ((workers worker).leaseRequest now batchSize) locked state.outbox.db
          ∀ row ∈ state.outbox.db.outbox, claimed row = true →
            ∀ other ∈ state.outbox.db.outbox, other.alert = row.alert →
              other.evaluationId < row.evaluationId → other.Terminal ∨ claimed other = true
      | _ => True
  | .post worker _ =>
      match state.phase worker with
      | .serving (leased :: _) => InFlightAt state.outbox.db leased
      | _ => True
  | .answer worker _ =>
      match state.phase worker with
      | .posting post _ _ => InFlightAt state.outbox.db post.leased
      | _ => True
  | .process worker _ _ =>
      match state.phase worker with
      | .answered post _ outcome batch =>
          InFlightAt state.outbox.db post.leased ∧
            (Retries post.leased outcome → ∀ later ∈ batch, later.alert = post.leased.alert →
              post.leased.evaluationId < later.evaluationId → ¬ InFlightAt state.outbox.db later)
      | _ => True
  | .redrive request =>
      ∀ row ∈ state.outbox.db.outbox, redriveTarget request row = true →
        (∀ other ∈ state.outbox.db.outbox, other.alert = row.alert →
          row.evaluationId < other.evaluationId → other.state ≠ .inFlight) ∧
        ∀ call ∈ state.answers, call.1.leased.alert = row.alert →
          row.evaluationId < call.1.leased.evaluationId → accepted call = false
  | .record _ _ | .crash _ => True

instance (leased : LeasedDelivery) (outcome : TransportOutcome) :
    Decidable (Retries leased outcome) := by
  unfold Retries
  infer_instance

instance (workers : Nat → AlertOutboxWorker) (state : DeliverySystem) (op : DeliveryOp) :
    Decidable (KeepsOrder workers state op) := by
  unfold KeepsOrder
  match op with
  | .lease worker _ _ _ | .post worker _ | .answer worker _ | .process worker _ _ =>
      dsimp only
      generalize state.phase worker = phase
      match phase with
      | .serving [] | .serving (_ :: _) | .posting _ _ _ | .answered _ _ _ _ =>
          dsimp only
          infer_instance
  | .redrive _ | .record _ _ | .crash _ =>
      dsimp only
      infer_instance

/-! ## One step -/

section Step

variable {platform : EvaluationPlatform} {calls : Nat → Submission}
  {workers : Nat → AlertOutboxWorker} {state next : DeliverySystem} {op : DeliveryOp}
  {leased : LeasedDelivery}

/-- The step re-drives no intent that precedes the delivery. -/
def Undisturbed (state : DeliverySystem) (op : DeliveryOp) (leased : LeasedDelivery) : Prop :=
  ∀ request, op = .redrive request → ∀ row ∈ state.outbox.db.outbox,
    redriveTarget request row = true → row.alert = leased.alert →
      leased.evaluationId ≤ row.evaluationId

/-- A new intent is of the latest event of its alert. -/
theorem new_is_latest (invariant : DeliveryInvariant platform calls workers state)
    (paired : Paired platform state.outbox.db) {request : RecordRequest} {ids : RecordIds}
    (increasing : ids.Increasing platform request state.outbox.db) {row : OutboxRow}
    (member : row ∈ state.outbox.db.outbox)
    (same : row.alert = (request.principal.tenantId, request.fingerprint platform)) :
    row.evaluationId < ids.evaluationId := by
  obtain ⟨event, eventMember, -, reports⟩ :=
    (paired.oneIntentEach invariant.history).reported member
  obtain ⟨tenantId, fingerprint⟩ := Prod.mk.inj same
  rw [reports.evaluationId]
  refine increasing.1 event (List.mem_filter.mpr ⟨eventMember, ?_⟩)
  simp [EvaluationRow.ofAlert, ← reports.tenantId, ← reports.alertFingerprint, tenantId,
    fingerprint]

/-- The id of an intent that a call stores. -/
theorem recorded_outboxId {repository : AlertRepository} {request : RecordRequest}
    {ids : RecordIds} {db after : AlertDb} {evaluation : AlertEvaluation} {row : OutboxRow}
    (returned : repository.recordAtomically platform request ids db = .ok (evaluation, after))
    (appended : after.outbox = db.outbox ++ [row]) :
    row.outboxId = identityValue ids.outboxId (db.outbox.map (·.outboxId)) := by
  have changed (same : after.outbox = db.outbox) : False := by
    have length := congrArg List.length (same.symm.trans appended)
    simp at length
  obtain ⟨-, recording⟩ := recordAtomically_eq_ok.mp returned
  cases recording with
  | replayedKey | replayedPayload => exact (changed rfl).elim
  | inserted unbound unseen insert enqueued =>
      obtain ⟨rfl, -⟩ := insertEvaluation_ok insert
      obtain rfl | ⟨intent, inserted, accepted⟩ := enqueueEvent_cases enqueued
      · exact (changed rfl).elim
      · unfold enqueueInTransaction at accepted
        split at accepted
        case isTrue => cases accepted
        case isFalse =>
          simp only [bind_eq_ok, liftSql_eq_ok, Except.ok.injEq] at accepted
          obtain ⟨⟨flag, result⟩, insert, same⟩ := accepted
          obtain ⟨-, rfl⟩ := Prod.mk.inj same
          obtain ⟨-, rfl⟩ | ⟨-, rfl, -⟩ := insertOutbox_ok insert
          · exact (changed rfl).elim
          · rw [← List.singleton_inj.mp (List.append_cancel_left appended)]
            rfl

/-- The last intent of its alert. -/
def IsLatest (rows : List OutboxRow) (row : OutboxRow) : Prop :=
  ∀ old ∈ rows, old.alert = row.alert →
    old.evaluationId < row.evaluationId ∧ old.outboxId < row.outboxId

/-- A step moves the rows, or appends an intent, the last of its alert. -/
theorem DeliveryStep.intents (step : DeliveryStep platform calls workers state op next)
    (invariant : DeliveryInvariant platform calls workers state)
    (paired : Paired platform state.outbox.db) :
    (∃ move, next.outbox.db.outbox = state.outbox.db.outbox.map move ∧
      ∀ row ∈ state.outbox.db.outbox, RowKept op row (move row)) ∨
    ∃ row, next.outbox.db.outbox = state.outbox.db.outbox ++ [row] ∧ row.state = .pending ∧
      IsLatest state.outbox.db.outbox row := by
  refine (step.rows invariant.outbox).imp_right ?_
  rintro ⟨caller, ids, enqueuer, id, rfl, -, -, outbox⟩
  refine ⟨_, outbox, rfl, fun old member same => ?_⟩
  cases step with
  | idle => simp at outbox
  | recorded increasing returned stored =>
      refine ⟨new_is_latest invariant paired increasing member same, ?_⟩
      rw [recorded_outboxId returned outbox]
      obtain ⟨tenantId, fingerprint⟩ := Prod.mk.inj same
      exact lt_identityValue (List.mem_map_of_mem member)
        (increasing.2 old member tenantId fingerprint)

theorem DeliveryStep.row_cases (step : DeliveryStep platform calls workers state op next)
    (invariant : DeliveryInvariant platform calls workers state)
    (paired : Paired platform state.outbox.db) {row : OutboxRow}
    (member : row ∈ next.outbox.db.outbox) :
    (∃ old ∈ state.outbox.db.outbox, RowKept op old row) ∨
      row.state = .pending ∧ IsLatest state.outbox.db.outbox row := by
  obtain ⟨move, outbox, rows⟩ | ⟨new, outbox, pending, latest⟩ := step.intents invariant paired
  · rw [outbox] at member
    obtain ⟨old, oldMember, rfl⟩ := List.mem_map.mp member
    exact .inl ⟨old, oldMember, rows old oldMember⟩
  · rw [outbox] at member
    rcases List.mem_append.mp member with old | last
    · exact .inl ⟨row, old, .refl _ row⟩
    · rw [List.mem_singleton.mp last]
      exact .inr ⟨pending, latest⟩

/-- A delivery that is in flight after a step was so before it. -/
theorem inFlightAt_of_step (step : DeliveryStep platform calls workers state op next)
    (invariant : DeliveryInvariant platform calls workers state)
    (paired : Paired platform state.outbox.db) (handedOut : leased ∈ state.outbox.handedOut)
    (inFlight : InFlightAt next.outbox.db leased) : InFlightAt state.outbox.db leased := by
  obtain ⟨row, member, sameId, active, number⟩ := inFlight
  obtain ⟨old, oldMember, kept⟩ | ⟨pending, -⟩ := step.row_cases invariant paired member
  · obtain ⟨other, otherMember, from_⟩ := invariant.outbox.handedOut leased handedOut
    obtain rfl := eq_of_outboxId_eq invariant.outbox.evidence.uniqueIds otherMember oldMember
      (from_.identity.outboxId.symm.trans (sameId.symm.trans (by rw [kept.identity])))
    obtain rfl := kept.inFlight leased from_ active number
    exact ⟨row, otherMember, sameId, active, number⟩
  · rw [pending] at active
    cases active

/-- A row that precedes a delivery has been in the outbox, and stays finished. -/
theorem earlier_of_step (step : DeliveryStep platform calls workers state op next)
    (invariant : DeliveryInvariant platform calls workers state)
    (paired : Paired platform state.outbox.db) (handedOut : leased ∈ state.outbox.handedOut)
    (undisturbed : Undisturbed state op leased) {row : OutboxRow}
    (member : row ∈ next.outbox.db.outbox) (same : row.alert = leased.alert)
    (earlier : row.evaluationId < leased.evaluationId) :
    ∃ old ∈ state.outbox.db.outbox, row.toOutboxIdentity = old.toOutboxIdentity ∧
      (old.Terminal → row.Terminal) := by
  obtain ⟨old, oldMember, kept⟩ | ⟨-, latest⟩ := step.row_cases invariant paired member
  · refine ⟨old, oldMember, kept.identity, fun terminal => ?_⟩
    rcases kept.terminal terminal with rfl | ⟨request, redrives, selected⟩
    · exact terminal
    · rw [kept.identity] at same earlier
      have later := undisturbed request redrives old oldMember selected same
      omega
  · obtain ⟨source, sourceMember, from_⟩ := invariant.outbox.handedOut leased handedOut
    have sourceAlert : source.alert = row.alert := from_.identity.alert.symm.trans same.symm
    have before := (latest source sourceMember sourceAlert).1
    have sameEvent := from_.identity.evaluationId
    omega

theorem EarlierFinished.step (finished : EarlierFinished state.outbox.db leased)
    (step : DeliveryStep platform calls workers state op next)
    (invariant : DeliveryInvariant platform calls workers state)
    (paired : Paired platform state.outbox.db) (handedOut : leased ∈ state.outbox.handedOut)
    (undisturbed : Undisturbed state op leased) : EarlierFinished next.outbox.db leased := by
  intro row member same earlier
  obtain ⟨old, oldMember, identity, stays⟩ :=
    earlier_of_step step invariant paired handedOut undisturbed member same earlier
  rw [identity] at same earlier
  exact stays (finished old oldMember same earlier)

theorem KeepsOrder.undisturbed_of_inFlight (keeps : KeepsOrder workers state op)
    (invariant : DeliveryInvariant platform calls workers state)
    (handedOut : leased ∈ state.outbox.handedOut) (inFlight : InFlightAt state.outbox.db leased) :
    Undisturbed state op leased := by
  rintro request rfl row member selected same
  obtain ⟨held, heldMember, active⟩ :=
    activeLease_of_inFlightAt invariant.outbox handedOut inFlight
  obtain ⟨identity, flying, -⟩ := active_row invariant.outbox handedOut heldMember active
  by_contra earlier
  refine (keeps row member selected).1 held heldMember (identity.alert.symm.trans same.symm) ?_
    flying
  have sameEvent := identity.evaluationId
  omega

theorem KeepsOrder.undisturbed_of_accepted (keeps : KeepsOrder workers state op)
    {call : Post × TransportOutcome} (member : call ∈ state.answers)
    (delivered : accepted call = true) : Undisturbed state op call.1.leased := by
  rintro request rfl row rowMember selected same
  by_contra earlier
  have refused := (keeps row rowMember selected).2 call member same.symm (by omega)
  rw [delivered] at refused
  cases refused

/-! ## The batches -/

/-- What precedes a delivery in flight is finished, or ahead of it in the batch. -/
def Waiting (db : AlertDb) (pending : List LeasedDelivery) : Prop :=
  ∀ before leased after, pending = before ++ leased :: after → InFlightAt db leased →
    ∀ row ∈ db.outbox, row.alert = leased.alert → row.evaluationId < leased.evaluationId →
      row.Terminal ∨ ∃ ahead ∈ before, ahead.outboxId = row.outboxId

theorem Waiting.nil (db : AlertDb) : Waiting db [] := by
  intro before leased after split
  simp at split

theorem Waiting.head {db : AlertDb} {batch : List LeasedDelivery}
    (waiting : Waiting db (leased :: batch)) (inFlight : InFlightAt db leased) :
    EarlierFinished db leased := by
  intro row member same earlier
  rcases waiting [] leased batch rfl inFlight row member same earlier with terminal | ⟨_, ahead, -⟩
  · exact terminal
  · cases ahead

theorem Waiting.step {pending : List LeasedDelivery} (waiting : Waiting state.outbox.db pending)
    (step : DeliveryStep platform calls workers state op next)
    (invariant : DeliveryInvariant platform calls workers state)
    (paired : Paired platform state.outbox.db) (keeps : KeepsOrder workers state op)
    (handedOut : ∀ leased ∈ pending, leased ∈ state.outbox.handedOut) :
    Waiting next.outbox.db pending := by
  intro before leased after split inFlight row member same earlier
  have handed : leased ∈ state.outbox.handedOut :=
    handedOut leased (by simp [split])
  have flying := inFlightAt_of_step step invariant paired handed inFlight
  obtain ⟨old, oldMember, identity, stays⟩ := earlier_of_step step invariant paired handed
    (keeps.undisturbed_of_inFlight invariant handed flying) member same earlier
  rw [identity] at same earlier ⊢
  exact (waiting before leased after split flying old oldMember same earlier).imp_left stays

/-- The outbox ids of an alert follow its events. -/
def IdsFollow (db : AlertDb) : Prop :=
  ∀ row ∈ db.outbox, ∀ other ∈ db.outbox, row.alert = other.alert →
    row.evaluationId < other.evaluationId → row.outboxId < other.outboxId

theorem IdsFollow.step (follow : IdsFollow state.outbox.db)
    (step : DeliveryStep platform calls workers state op next)
    (invariant : DeliveryInvariant platform calls workers state)
    (paired : Paired platform state.outbox.db) : IdsFollow next.outbox.db := by
  obtain ⟨move, outbox, rows⟩ | ⟨new, outbox, -, latest⟩ := step.intents invariant paired
  · intro row member other otherMember same earlier
    rw [outbox] at member otherMember
    obtain ⟨old, oldMember, rfl⟩ := List.mem_map.mp member
    obtain ⟨oldOther, oldOtherMember, rfl⟩ := List.mem_map.mp otherMember
    rw [(rows old oldMember).identity, (rows oldOther oldOtherMember).identity] at same earlier ⊢
    exact follow old oldMember oldOther oldOtherMember same earlier
  · intro row member other otherMember same earlier
    rw [outbox, List.mem_append, List.mem_singleton] at member otherMember
    rcases member with old | rfl
    · rcases otherMember with oldOther | rfl
      · exact follow row old other oldOther same earlier
      · exact (latest row old same).2
    · rcases otherMember with oldOther | rfl
      · have before := (latest other oldOther same.symm).1
        omega
      · omega

/-- A batch keeps the order of the outbox ids. -/
theorem waiting_of_lease {request : LeaseRequest} {locked : Int → Bool}
    {batch : List LeasedDelivery} {db : AlertDb}
    (leases : lease request locked state.outbox.db = .ok (batch, db))
    (unique : (state.outbox.db.outbox.map (·.outboxId)).Nodup) (follow : IdsFollow state.outbox.db)
    (keeps : ∀ row ∈ state.outbox.db.outbox, claims request locked state.outbox.db row = true →
      ∀ other ∈ state.outbox.db.outbox, other.alert = row.alert →
        other.evaluationId < row.evaluationId →
          other.Terminal ∨ claims request locked state.outbox.db other = true) :
    Waiting db batch := by
  have commit := lease_ok leases
  intro before leased after split inFlight row member same earlier
  rw [commit.tables] at member
  obtain ⟨old, oldMember, rfl⟩ := List.mem_map.mp member
  rw [rewriteOutbox_identity] at same earlier ⊢
  obtain ⟨source, sourceMember, claimed, rfl⟩ :=
    commit.mem_batch.mp (by simp [split] : leased ∈ batch)
  rcases keeps source sourceMember claimed old oldMember same earlier with terminal | withIt
  · have due : claims request locked state.outbox.db old = false := by
      cases selected : claims request locked state.outbox.db old with
      | false => rfl
      | true =>
          have due := leasable_of_claims unique oldMember selected
          rcases terminal with final | final <;> simp [leasable, final] at due
    rw [rewriteOutbox_of_other due]
    exact .inl terminal
  · refine .inr ⟨leasedDelivery request (old.set (leaseProgress request old)), ?_, rfl⟩
    have inBatch := commit.mem_batch.mpr ⟨old, oldMember, withIt, rfl⟩
    have sorted := lease_sorted leases
    have ids : old.outboxId < source.outboxId :=
      follow old oldMember source sourceMember same earlier
    rw [split, List.pairwise_append] at sorted
    rw [split, List.mem_append, List.mem_cons] at inBatch
    rcases inBatch with ahead | here | behind
    · exact ahead
    · have sameId : old.outboxId = source.outboxId := congrArg (·.outboxId) here
      omega
    · have later : source.outboxId ≤ old.outboxId :=
        (List.pairwise_cons.mp sorted.2.1).1 _ behind
      omega

end Step

/-! ## The outcome of a delivery -/

theorem call_finishes {leased : LeasedDelivery} {attempt : Attempt}
    (final : ¬ Retries leased attempt.outcome) :
    outcomeState (attempt.call leased).ledgerStatus = .delivered ∨
      outcomeState (attempt.call leased).ledgerStatus = .deadLetter := by
  simp only [Attempt.call]
  split
  case isTrue => exact .inl rfl
  case isFalse =>
    split
    case isTrue again =>
      simp only [Bool.and_eq_true, Bool.not_eq_true'] at again
      exact absurd again final
    case isFalse => exact .inr rfl

/-- An outcome that is no retry finishes the row. -/
theorem terminal_of_process {state : OutboxSystem} {leased : LeasedDelivery} {attempt : Attempt}
    (invariant : OutboxInvariant state) (handedOut : leased ∈ state.handedOut)
    (inFlight : InFlightAt state.db leased) {result : WorkerRunResult × AlertDb}
    (returned : process leased attempt state.db = .ok result)
    (final : ¬ Retries leased attempt.outcome) {row : OutboxRow}
    (member : row ∈ (state.step (.record leased (attempt.call leased) attempt.ids)).db.outbox)
    (same : row.outboxId = leased.outboxId) : row.Terminal := by
  obtain ⟨next, ran⟩ := run_of_process invariant handedOut inFlight returned
  simp only [OutboxSystem.step, if_pos handedOut, ran] at member
  have commit := commitOutcome_ok (RecordCall.run_ok ran).2
  rw [commit.outbox] at member
  obtain ⟨old, oldMember, rfl⟩ := List.mem_map.mp member
  obtain ⟨target, targetMember, active⟩ := commit.active
  have identity := (active_row invariant handedOut targetMember active).1
  rw [rewriteOutbox_identity, identity.outboxId] at same
  obtain rfl := eq_of_outboxId_eq invariant.evidence.uniqueIds oldMember targetMember same
  have held := (holdsLease_iff invariant handedOut targetMember active oldMember).mpr rfl
  rw [rewriteOutbox_of_selected held]
  show ((attempt.call leased).target leased).state = .delivered ∨
    ((attempt.call leased).target leased).state = .deadLetter
  rw [RecordCall.target_state]
  exact call_finishes final

/-- The deliveries after one that was recorded wait for no more than before. -/
theorem Waiting.tail {db : AlertDb} {leased : LeasedDelivery} {batch : List LeasedDelivery}
    (waiting : Waiting db (leased :: batch))
    (finished : (∀ row ∈ db.outbox, row.outboxId = leased.outboxId → row.Terminal) ∨
      ∀ later ∈ batch, later.alert = leased.alert → leased.evaluationId < later.evaluationId →
        ¬ InFlightAt db later)
    (identity : ∃ row ∈ db.outbox, LeasedFrom leased row.toOutboxIdentity)
    (unique : (db.outbox.map (·.outboxId)).Nodup) : Waiting db batch := by
  intro before later after split inFlight row member same earlier
  rcases waiting (leased :: before) later after (by rw [split]; rfl) inFlight row member same
    earlier with terminal | ⟨ahead, aheadMember, sameId⟩
  · exact .inl terminal
  rcases List.mem_cons.mp aheadMember with rfl | inside
  · rcases finished with done | none
    · exact .inl (done row member sameId.symm)
    · obtain ⟨source, sourceMember, from_⟩ := identity
      obtain rfl := eq_of_outboxId_eq unique sourceMember member
        (from_.outboxId.symm.trans sameId)
      have inBatch : later ∈ batch := by simp [split]
      refine absurd inFlight (none later inBatch (same.symm.trans from_.alert.symm) ?_)
      have sameEvent := from_.evaluationId
      omega
  · exact .inr ⟨ahead, inside, sameId⟩

/-- A delivery in flight is later than the accepted ones of its alert. -/
theorem InAlertOrder.append {platform : EvaluationPlatform} {calls : Nat → Submission}
    {workers : Nat → AlertOutboxWorker} {state : DeliverySystem}
    {answers : List (Post × TransportOutcome)} {post : Post} (outcome : TransportOutcome)
    (order : InAlertOrder answers)
    (finished : ∀ call ∈ answers, accepted call = true →
      EarlierFinished state.outbox.db call.1.leased)
    (invariant : DeliveryInvariant platform calls workers state)
    (handedOut : post.leased ∈ state.outbox.handedOut)
    (inFlight : InFlightAt state.outbox.db post.leased) :
    InAlertOrder (answers ++ [(post, outcome)]) := by
  unfold InAlertOrder at order ⊢
  rw [List.filter_append, List.pairwise_append]
  refine ⟨order, (List.pairwise_singleton _ _).sublist List.filter_sublist, ?_⟩
  intro call member last lastMember same
  obtain ⟨inside, delivered⟩ := List.mem_filter.mp member
  rw [List.mem_singleton.mp (List.mem_filter.mp lastMember).1] at same ⊢
  obtain ⟨row, rowMember, active⟩ :=
    activeLease_of_inFlightAt invariant.outbox handedOut inFlight
  obtain ⟨identity, flying, -⟩ := active_row invariant.outbox handedOut rowMember active
  by_contra later
  have earlier : row.evaluationId < call.1.leased.evaluationId := by
    rw [← identity.evaluationId]
    exact Int.not_le.mp later
  have terminal := finished call inside delivered row rowMember
    (identity.alert.symm.trans same.symm) earlier
  rcases terminal with final | final <;> simp [flying] at final

/-! ## Every run -/

structure OrderInvariant (platform : EvaluationPlatform) (calls : Nat → Submission)
    (workers : Nat → AlertOutboxWorker) (state : DeliverySystem) : Prop where
  delivery : DeliveryInvariant platform calls workers state
  paired : Paired platform state.outbox.db
  follow : IdsFollow state.outbox.db
  waiting : ∀ worker, Waiting state.outbox.db (state.phase worker).pending
  finished : ∀ call ∈ state.answers, accepted call = true →
    EarlierFinished state.outbox.db call.1.leased
  answers : InAlertOrder state.answers
  returned : InAlertOrder state.returned

section Runs

variable {platform : EvaluationPlatform} {calls : Nat → Submission}
  {workers : Nat → AlertOutboxWorker} {state next : DeliverySystem} {op : DeliveryOp}

theorem orderInvariant_initial : OrderInvariant platform calls workers .initial where
  delivery := deliveryInvariant_initial
  paired := List.Forall₂.nil
  follow := by simp [IdsFollow, DeliverySystem.initial, OutboxSystem.initial, AlertDb.empty]
  waiting := fun _ => .nil _
  finished := by simp [DeliverySystem.initial]
  answers := List.Pairwise.nil
  returned := List.Pairwise.nil

theorem reports_moved {events : List EvaluationRow} {rows : List OutboxRow}
    (paired : List.Forall₂ (Reports platform) events rows) {move : OutboxRow → OutboxRow}
    (identity : ∀ row ∈ rows, (move row).toOutboxIdentity = row.toOutboxIdentity) :
    List.Forall₂ (Reports platform) events (rows.map move) := by
  induction paired with
  | nil => exact .nil
  | cons reports rest inductionHypothesis =>
      obtain ⟨first, others⟩ := List.forall_mem_cons.mp identity
      exact .cons (reports.congr first) (inductionHypothesis others)

theorem Paired.step (enqueues : ∀ t, (calls t).repository.deliveryEnqueuer.isSome = true)
    (paired : Paired platform state.outbox.db)
    (invariant : DeliveryInvariant platform calls workers state)
    (step : DeliveryStep platform calls workers state op next) :
    Paired platform next.outbox.db := by
  have moved (quiet : ∀ caller ids, op ≠ .record caller ids) : Paired platform next.outbox.db := by
    obtain ⟨move, outbox, rows⟩ | ⟨caller, ids, _, _, stores, -⟩ := step.rows invariant.outbox
    · unfold Paired
      rw [(step.quiet quiet).2, outbox]
      exact reports_moved paired fun row member => (rows row member).identity
    · exact absurd stores (quiet caller ids)
  cases step with
  | idle => exact paired
  | recorded increasing returned stored =>
      exact paired.call (enqueues _) invariant.history returned stored
  | redriven | leased | posted | answered | processed | escaped | crashed =>
      exact moved (fun _ _ => nofun)

/-- A worker enters a phase, the batches of the others stay. -/
theorem waiting_enter {db : AlertDb} {worker : Nat} {phase : WorkerPhase}
    (others : ∀ other, Waiting db (state.phase other).pending) (own : Waiting db phase.pending) :
    ∀ other, Waiting db (Function.update state.phase worker phase other).pending := by
  intro other
  by_cases same : other = worker
  · rw [same, Function.update_self]
    exact own
  · rw [Function.update_of_ne same]
    exact others other

theorem orderInvariant_step (enqueues : ∀ t, (calls t).repository.deliveryEnqueuer.isSome = true)
    (invariant : OrderInvariant platform calls workers state)
    (keeps : KeepsOrder workers state op)
    (step : DeliveryStep platform calls workers state op next) :
    OrderInvariant platform calls workers next := by
  have delivery := invariant.delivery
  have waiting : ∀ worker, Waiting next.outbox.db (state.phase worker).pending := fun worker =>
    (invariant.waiting worker).step step delivery invariant.paired keeps
      (delivery.phases worker).pending
  have finished : ∀ call ∈ state.answers, accepted call = true →
      EarlierFinished next.outbox.db call.1.leased := fun call member delivered =>
    (invariant.finished call member delivered).step step delivery invariant.paired
      (delivery.posts call.1 (delivery.answers call member)).2
      (keeps.undisturbed_of_accepted member delivered)
  have nextDelivery := deliveryInvariant_step delivery step
  have paired := invariant.paired.step enqueues delivery step
  have follow := invariant.follow.step step delivery invariant.paired
  have backward {leased : LeasedDelivery} (handedOut : leased ∈ state.outbox.handedOut) :=
    inFlightAt_of_step step delivery invariant.paired handedOut
  cases step with
  | idle => exact invariant
  | recorded | redriven =>
      exact ⟨nextDelivery, paired, follow, waiting, finished, invariant.answers,
        invariant.returned⟩
  | @leased worker now batchSize locked batch db free leases =>
      simp only [KeepsOrder, free] at keeps
      exact ⟨nextDelivery, paired, follow,
        waiting_enter waiting (waiting_of_lease leases delivery.outbox.evidence.uniqueIds
          invariant.follow keeps), finished, invariant.answers, invariant.returned⟩
  | @posted worker startedAt leased batch serves =>
      have own := waiting worker
      rw [serves] at own
      exact ⟨nextDelivery, paired, follow, waiting_enter waiting own, finished,
        invariant.answers, invariant.returned⟩
  | @answered worker outcome post startedAt batch posting =>
      simp only [KeepsOrder, posting] at keeps
      have own := waiting worker
      have phase := delivery.phases worker
      rw [posting] at own phase
      refine ⟨nextDelivery, paired, follow, waiting_enter waiting own, ?_,
        invariant.answers.append outcome invariant.finished delivery
          (phase.pending _ List.mem_cons_self) keeps, invariant.returned⟩
      intro call member delivered
      rcases List.mem_append.mp member with old | new
      · exact finished call old delivered
      · rw [List.mem_singleton.mp new]
        exact own.head keeps
  | @processed worker completedAt ids post startedAt outcome batch result at_ accepts =>
      have held := keeps
      simp only [KeepsOrder, at_] at held
      obtain ⟨inFlight, unretried⟩ := held
      have own := waiting worker
      have phase := delivery.phases worker
      rw [at_] at own phase
      have handedOut := phase.pending post.leased List.mem_cons_self
      have returned : ∀ call ∈ state.returned, accepted call = true →
          EarlierFinished state.outbox.db call.1.leased := fun call member delivered =>
        invariant.finished call (delivery.returned call member) delivered
      refine ⟨nextDelivery, paired, follow, waiting_enter waiting (own.tail ?_ ?_ ?_), finished,
        invariant.answers, invariant.returned.append outcome returned delivery handedOut inFlight⟩
      · by_cases again : Retries post.leased outcome
        · exact .inr fun later member same earlier flying =>
            unretried again later member same earlier
              (backward (phase.pending later (List.mem_cons_of_mem _ member)) flying)
        · exact .inl fun row member same =>
            terminal_of_process delivery.outbox handedOut inFlight accepts again member same
      · obtain ⟨row, member, from_⟩ := nextDelivery.outbox.handedOut post.leased
          (nextDelivery.posts post (phase.post post rfl)).2
        exact ⟨row, member, from_.identity⟩
      · exact nextDelivery.outbox.evidence.uniqueIds
  | escaped | crashed =>
      exact ⟨nextDelivery, paired, follow, waiting_enter waiting (.nil _), finished,
        invariant.answers, invariant.returned⟩

/-- A RESOLVED follows a FIRED in its alert's history. -/
theorem fired_before {τ : Type} {calls : τ → Submission} {log : List (τ × EvaluationRow)}
    {events before after : List EvaluationRow} {resolved : EvaluationRow}
    (law : LifecycleLaw platform calls log events) (split : events = before ++ resolved :: after)
    (resolves : resolved.transition = .resolved) :
    ∃ earlier fired between, before = earlier ++ fired :: between ∧ fired.isLifecycle = true ∧
      fired.transition = .fired ∧ ∀ event ∈ between, event.isLifecycle = false := by
  have lifecycle : resolved.isLifecycle = true := by
    simp [EvaluationRow.isLifecycle, Transition.isLifecycle, resolves]
  have filtered : events.filter (·.isLifecycle) =
      before.filter (·.isLifecycle) ++ resolved :: after.filter (·.isLifecycle) := by
    rw [split, List.filter_append, List.filter_cons_of_pos lifecycle]
  have odd := law.alternates (before.filter (·.isLifecycle)).length .resolved
    (by simp [filtered, resolves])
  -- FIRED and RESOLVED alternate from a FIRED on, so a RESOLVED is at an odd place
  cases last : (before.filter (·.isLifecycle)).getLast? with
  | none =>
      rw [List.getLast?_eq_none_iff.mp last] at odd
      cases odd
  | some fired =>
      obtain ⟨front, ended⟩ := List.getLast?_eq_some_iff.mp last
      have even := law.alternates front.length fired.transition (by simp [filtered, ended])
      have parity : front.length % 2 = 0 := by
        rw [ended, List.length_append, List.length_singleton] at odd
        by_contra other
        rw [if_pos (by omega)] at odd
        cases odd
      obtain ⟨left, right, rfl, -, only⟩ := List.filter_eq_append_iff.mp ended
      obtain ⟨skipped, between, rfl, -, fires, none⟩ := List.filter_eq_cons_iff.mp only
      refine ⟨left ++ skipped, fired, between, (List.append_assoc _ _ _).symm, fires, ?_, ?_⟩
      · rw [even, if_pos parity]
      · simpa using none

theorem firedFinished (invariant : OrderInvariant platform calls workers state)
    {leased : LeasedDelivery} (handedOut : leased ∈ state.outbox.handedOut)
    (resolves : leased.transition = .resolved)
    (finished : EarlierFinished state.outbox.db leased) :
    FiredFinished platform state.outbox.db leased := by
  have history := invariant.delivery.history
  have each := invariant.paired.oneIntentEach history
  obtain ⟨row, member, from_⟩ := invariant.delivery.outbox.handedOut leased handedOut
  obtain ⟨resolved, resolvedMember, -, reports⟩ := each.reported member
  have inEvents : resolved ∈ state.outbox.db.events leased.tenantId leased.alertFingerprint := by
    rw [history.events_eq]
    refine List.mem_filter.mpr ⟨resolvedMember, ?_⟩
    simp [EvaluationRow.ofAlert, ← reports.tenantId, ← reports.alertFingerprint,
      from_.identity.tenantId, from_.identity.alertFingerprint]
  obtain ⟨before, after, split⟩ := List.append_of_mem inEvents
  obtain ⟨earlier, fired, between, rfl, lifecycle, fires, quiet⟩ := fired_before
    history.lifecycleLaw split
    (reports.transition.symm.trans (from_.identity.transition.symm.trans resolves))
  rw [List.append_assoc, List.cons_append] at split
  have inHistory : fired ∈ state.outbox.db.history leased.tenantId leased.alertFingerprint := by
    rw [← history.events_eq, split]
    simp
  obtain ⟨firedMember, ofAlert⟩ := List.mem_filter.mp inHistory
  obtain ⟨intent, only, fires_⟩ := each.lifecycle fired firedMember lifecycle
  have intentMember : intent ∈ state.outbox.db.outbox :=
    (List.mem_filter.mp (only ▸ List.mem_singleton.mpr rfl : intent ∈
      state.outbox.db.intentsOf fired)).1
  have precedes : fired.alertEvaluationId < resolved.alertEvaluationId := by
    have increasing := history.increasing leased.tenantId leased.alertFingerprint
    rw [← history.events_eq, split, List.pairwise_append] at increasing
    exact (List.pairwise_cons.mp increasing.2.1).1 resolved (by simp)
  have resolvedId : resolved.alertEvaluationId = leased.evaluationId :=
    reports.evaluationId.symm.trans from_.identity.evaluationId.symm
  refine ⟨earlier, fired, between, resolved, after, split, resolvedId, fires, quiet, intent,
    intentMember, fires_, finished intent intentMember ?_ ?_⟩
  · simp only [EvaluationRow.ofAlert, Bool.and_eq_true, beq_iff_eq] at ofAlert
    rw [OutboxIdentity.alert, LeasedDelivery.alert, fires_.tenantId, fires_.alertFingerprint,
      ofAlert.1, ofAlert.2]
  · rw [fires_.evaluationId, ← resolvedId]
    exact precedes

theorem postsAfterFired_of_keeps (invariant : OrderInvariant platform calls workers state)
    (keeps : KeepsOrder workers state op) : PostsAfterFired platform state op := by
  cases op with
  | record | redrive | lease | answer | process | crash => trivial
  | post worker startedAt =>
      intro leased upNext resolves
      have phase := invariant.delivery.phases worker
      have waiting := invariant.waiting worker
      cases serves : state.phase worker with
      | posting | answered => simp [serves, WorkerPhase.next?] at upNext
      | serving batch =>
          rw [serves] at upNext phase waiting
          cases batch with
          | nil => cases upNext
          | cons head rest =>
              obtain rfl := Option.some.inj upNext
              simp only [KeepsOrder, serves] at keeps
              exact firedFinished invariant (phase.pending head List.mem_cons_self) resolves
                (waiting.head keeps)

end Runs

/-- In every run that keeps the order of the intents, a RESOLVED is posted after
the intent of its FIRED is finished, and the deliveries of each alert are
accepted, and recorded, in the order of its events. -/
theorem lifecycle_order_survives {platform : EvaluationPlatform} {calls : Nat → Submission}
    {workers : Nat → AlertOutboxWorker}
    (enqueues : ∀ t, (calls t).repository.deliveryEnqueuer.isSome = true)
    (ops : List DeliveryOp)
    (keeps : DeliverySystem.EachStep platform calls workers (KeepsOrder workers) .initial ops) :
    DeliverySystem.EachStep platform calls workers (PostsAfterFired platform) .initial ops ∧
      InAlertOrder (DeliverySystem.initial.run platform calls workers ops).answers ∧
      InAlertOrder (DeliverySystem.initial.run platform calls workers ops).returned := by
  have kept : ∀ state op, OrderInvariant platform calls workers state →
      KeepsOrder workers state op → PostsAfterFired platform state op ∧
        OrderInvariant platform calls workers (state.step platform calls workers op) :=
    fun state op invariant keeps => ⟨postsAfterFired_of_keeps invariant keeps,
      orderInvariant_step enqueues invariant keeps (deliveryStep_step _ _ _ state op)⟩
  obtain ⟨posts, invariant⟩ :=
    DeliverySystem.EachStep.invariant kept orderInvariant_initial keeps
  exact ⟨posts, invariant.answers, invariant.returned⟩

/-! ### Two workers on one queue -/

/-- An alert that fires and is resolved. -/
def alertCalls (caller : Nat) : Submission :=
  ⟨⟨some webhookEnqueuer⟩,
    if caller = 0 then firingRequest else quietRequest "window-2" "key-2" length_secondWindow⟩

/-- Each worker claims one intent, and the second is the first to post. -/
def sharedQueue : List DeliveryOp :=
  [.record 0 ⟨1, 1⟩, .record 1 ⟨2, 2⟩, .lease 0 0 1 (fun _ => false),
    .lease 1 0 1 (fun _ => false), .post 1 0]

theorem sharedQueue_run :
    let state := DeliverySystem.initial.run firingPlatform alertCalls twoWorkers
      (sharedQueue.take 4)
    (state.phase 1).next?.map (·.transition) = some .resolved ∧
      ∀ row ∈ state.outbox.db.outbox, ¬ row.Terminal := by
  decide +kernel

theorem shared_queue_loses_order :
    (∀ t, (alertCalls t).repository.deliveryEnqueuer.isSome = true) ∧
    ¬ DeliverySystem.EachStep firingPlatform alertCalls twoWorkers
      (PostsAfterFired firingPlatform) .initial sharedQueue := by
  refine ⟨fun _ => rfl, fun ordered => ?_⟩
  have posted : PostsAfterFired firingPlatform (DeliverySystem.initial.run firingPlatform
    alertCalls twoWorkers (sharedQueue.take 4)) (.post 1 0) := ordered.2.2.2.2.1
  obtain ⟨resolves, unfinished⟩ := sharedQueue_run
  obtain ⟨leased, upNext, transition⟩ := Option.map_eq_some_iff.mp resolves
  obtain ⟨-, -, -, -, -, -, -, -, -, intent, member, -, terminal⟩ :=
    posted leased upNext transition
  exact unfinished intent member terminal

/-- One worker delivers both intents of the alert. -/
def oneWorker : List DeliveryOp :=
  [.record 0 ⟨1, 1⟩, .record 1 ⟨2, 2⟩, .lease 0 0 10 (fun _ => false), .post 0 0,
    .answer 0 (.response 200), .process 0 second ⟨1, 1⟩, .post 0 second,
    .answer 0 (.response 200)]

theorem one_worker_keeps_order :
    DeliverySystem.EachStep firingPlatform alertCalls twoWorkers
        (PostsAfterFired firingPlatform) .initial oneWorker ∧
      InAlertOrder
        (DeliverySystem.initial.run firingPlatform alertCalls twoWorkers oneWorker).answers ∧
      InAlertOrder
        (DeliverySystem.initial.run firingPlatform alertCalls twoWorkers oneWorker).returned :=
  lifecycle_order_survives (fun _ => rfl) oneWorker (by decide +kernel)

end StockoutOps.Alerting
