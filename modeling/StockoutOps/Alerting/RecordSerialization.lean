import StockoutOps.Alerting.RecordIsolation

/-!
Contract: interleaved calls of `AlertRepository.record` are serializable.

Owns: the invariant of the shared world, what a caller may rely on while it
holds its advisory lock, and the proof that every commit is one atomic call on
the tables it finds.

Does not own: what the resulting histories satisfy.

From its lookups to its COMMIT a caller holds the lock of its alert, and every
uncommitted event is covered by its caller's lock. So the history of the alert
stands still, and what the lookups said is still true of the tables at the
COMMIT, however they have grown for other alerts.
-/

namespace StockoutOps.Alerting

open StockoutOps.Sql StockoutOps.Foundation.Interleaving

/-- The advisory lock that a stored event was inserted under. -/
def EvaluationRow.lockKey (platform : EvaluationPlatform) (row : EvaluationRow) : Int :=
  platform.lockKey ("alert:" ++ row.tenantId ++ ":" ++ row.alertFingerprint)

namespace RecordWorld

/-- The invariant of the world. -/
structure Consistent (platform : EvaluationPlatform) (calls : Caller → Submission)
    (world : RecordWorld) : Prop where
  history : CallHistory platform calls world.log world.db
  committedIds : ∀ row ∈ world.db.evaluations, row.alertEvaluationId < world.nextEvaluationId
  pendingIds : ∀ entry ∈ world.pending, entry.2.alertEvaluationId < world.nextEvaluationId
  covered : ∀ entry ∈ world.pending, world.lock (entry.2.lockKey platform) = some entry.1
  fresh : ∀ entry ∈ world.pending, ∀ row ∈ world.db.evaluations, ¬ row.Clashes entry.2
  apart : ∀ entry ∈ world.pending, ∀ other ∈ world.pending, other.1 ≠ entry.1 →
    ¬ other.2.Clashes entry.2
  freshIntents : ∀ entry ∈ world.pendingIntents, ∀ row ∈ world.db.outbox, ¬ row.Clashes entry.2
  apartIntents : ∀ entry ∈ world.pendingIntents, ∀ other ∈ world.pendingIntents,
    other.1 ≠ entry.1 → ¬ other.2.Clashes entry.2
  failures : ∀ t, world.enqueueFailed t = true → ∀ row, (t, row) ∉ world.log

/-- What `t` may rely on between its statements. -/
structure Rely (platform : EvaluationPlatform) (t : Caller) (before after : RecordWorld) :
    Prop where
  own : after.own t = before.own t
  lock : ∀ key, after.lock key = some t ↔ before.lock key = some t
  nextEvaluationId : before.nextEvaluationId ≤ after.nextEvaluationId
  grown : ∃ tx : RecordTx, after.db = before.db.grow tx ∧
    ∀ row ∈ tx.evaluations, before.lock (row.lockKey platform) ≠ some t
  enqueueFailed : after.enqueueFailed t = before.enqueueFailed t
  log : ∀ row, (t, row) ∈ after.log ↔ (t, row) ∈ before.log

variable {platform : EvaluationPlatform} {calls : Caller → Submission} {t : Caller}
  {world first second third : RecordWorld}

theorem Rely.refl (t : Caller) (world : RecordWorld) : Rely platform t world world where
  own := rfl
  lock := fun _ => .rfl
  nextEvaluationId := Int.le_refl _
  grown := ⟨.empty, (AlertDb.grow_empty _).symm, fun _ member => absurd member List.not_mem_nil⟩
  enqueueFailed := rfl
  log := fun _ => .rfl

theorem Rely.trans (left : Rely platform t first second) (right : Rely platform t second third) :
    Rely platform t first third where
  own := right.own.trans left.own
  lock := fun key => (right.lock key).trans (left.lock key)
  nextEvaluationId := Int.le_trans left.nextEvaluationId right.nextEvaluationId
  grown := by
    obtain ⟨firstTx, firstDb, firstFree⟩ := left.grown
    obtain ⟨secondTx, secondDb, secondFree⟩ := right.grown
    refine ⟨_, by rw [secondDb, firstDb, AlertDb.grow_grow], fun row member held => ?_⟩
    rcases List.mem_append.mp member with old | new
    · exact firstFree row old held
    · exact secondFree row new ((left.lock _).mpr held)
  enqueueFailed := right.enqueueFailed.trans left.enqueueFailed
  log := fun row => (right.log row).trans (left.log row)

/-- `t` has changed only what is its own. -/
structure OnlyOwn (t : Caller) (before after : RecordWorld) : Prop where
  db : after.db = before.db
  log : after.log = before.log
  own : ∀ u, u ≠ t → after.own u = before.own u
  lock : ∀ u, u ≠ t → ∀ key, after.lock key = some u ↔ before.lock key = some u
  nextEvaluationId : before.nextEvaluationId ≤ after.nextEvaluationId
  enqueueFailed : ∀ u, u ≠ t → after.enqueueFailed u = before.enqueueFailed u

theorem OnlyOwn.rely (own : OnlyOwn t first second) (u : Caller) (other : u ≠ t) :
    Rely platform u first second where
  own := own.own u other
  lock := own.lock u other
  nextEvaluationId := own.nextEvaluationId
  grown := ⟨.empty, by rw [own.db, AlertDb.grow_empty], fun _ member =>
    absurd member List.not_mem_nil⟩
  enqueueFailed := own.enqueueFailed u other
  log := fun row => by rw [own.log]

end RecordWorld

/-- The rely-guarantee discipline of the calls. -/
def recordDiscipline (platform : EvaluationPlatform) (calls : Caller → Submission) :
    Discipline Caller RecordInput RecordWorld where
  Inv := RecordWorld.Consistent platform calls
  Rely := RecordWorld.Rely platform
  Allowed _ _ := True
  Waits _ _ := True
  refl := RecordWorld.Rely.refl
  trans _ := fun left right => left.trans right

/-! ## The moves of one caller -/

section Moves

variable {platform : EvaluationPlatform} {calls : Caller → Submission} {t : Caller}
  {world : RecordWorld}

theorem RecordWorld.initial_consistent :
    RecordWorld.initial.Consistent platform calls where
  history := .empty
  committedIds := by simp [RecordWorld.initial, AlertDb.empty]
  pendingIds := by simp [RecordWorld.initial]
  covered := by simp [RecordWorld.initial]
  fresh := by simp [RecordWorld.initial]
  apart := by simp [RecordWorld.initial]
  freshIntents := by simp [RecordWorld.initial]
  apartIntents := by simp [RecordWorld.initial]
  failures := by simp [RecordWorld.initial]

theorem RecordWorld.abandon_onlyOwn : RecordWorld.OnlyOwn t world (world.abandon t) where
  db := rfl
  log := rfl
  own := fun u other => by
    simp [RecordWorld.own, RecordWorld.abandon, ownRows_otherRows other]
  lock := fun u other key => by
    simp only [RecordWorld.abandon]
    by_cases held : world.lock key = some t
    · simp [held, other.symm]
    · simp [held]
  nextEvaluationId := Int.le_refl _
  enqueueFailed := fun _ _ => rfl

theorem RecordWorld.Consistent.abandon (consistent : world.Consistent platform calls) :
    (world.abandon t).Consistent platform calls where
  history := consistent.history
  committedIds := consistent.committedIds
  pendingIds := fun entry member => consistent.pendingIds entry (mem_otherRows.mp member).1
  covered := fun entry member => by
    obtain ⟨inside, other⟩ := mem_otherRows.mp member
    exact (RecordWorld.abandon_onlyOwn.lock entry.1 other _).mpr (consistent.covered entry inside)
  fresh := fun entry member => consistent.fresh entry (mem_otherRows.mp member).1
  apart := fun entry member other otherMember =>
    consistent.apart entry (mem_otherRows.mp member).1 other (mem_otherRows.mp otherMember).1
  freshIntents := fun entry member => consistent.freshIntents entry (mem_otherRows.mp member).1
  apartIntents := fun entry member other otherMember =>
    consistent.apartIntents entry (mem_otherRows.mp member).1 other (mem_otherRows.mp otherMember).1
  failures := consistent.failures

/-- The sequences may skip values. -/
theorem RecordWorld.Consistent.skip (consistent : world.Consistent platform calls)
    {nextEvaluationId nextOutboxId : Int} (more : world.nextEvaluationId ≤ nextEvaluationId) :
    { world with
      nextEvaluationId := nextEvaluationId
      nextOutboxId := nextOutboxId }.Consistent platform calls :=
  { consistent with
    committedIds := fun row member => Int.lt_of_lt_of_le (consistent.committedIds row member) more
    pendingIds := fun entry member => Int.lt_of_lt_of_le (consistent.pendingIds entry member) more }

theorem RecordWorld.skip_onlyOwn {nextEvaluationId nextOutboxId : Int}
    (more : world.nextEvaluationId ≤ nextEvaluationId) :
    RecordWorld.OnlyOwn t world
      { world with nextEvaluationId := nextEvaluationId, nextOutboxId := nextOutboxId } :=
  ⟨rfl, rfl, fun _ _ => rfl, fun _ _ _ => .rfl, more, fun _ _ => rfl⟩

theorem RecordWorld.acquire_onlyOwn {key : Int} (free : world.lock key = none) :
    RecordWorld.OnlyOwn t world (world.acquire t key) where
  db := rfl
  log := rfl
  own := fun _ _ => rfl
  lock := fun u other key' => by
    by_cases same : key' = key
    · subst same
      simp [RecordWorld.acquire, free, other.symm]
    · simp [RecordWorld.acquire, Function.update_of_ne same]
  nextEvaluationId := Int.le_refl _
  enqueueFailed := fun _ _ => rfl

theorem RecordWorld.Consistent.acquire {key : Int} (consistent : world.Consistent platform calls)
    (free : world.lock key = none) : (world.acquire t key).Consistent platform calls :=
  { consistent with
    covered := fun entry member => by
      have held := consistent.covered entry member
      have other : entry.2.lockKey platform ≠ key := fun same => by
        rw [same, free] at held
        cases held
      simpa [RecordWorld.acquire, Function.update_of_ne other] using held }

theorem RecordWorld.addEvaluation_onlyOwn {row : EvaluationRow} :
    RecordWorld.OnlyOwn t world (world.addEvaluation t row) where
  db := rfl
  log := rfl
  own := fun u other => by
    simp [RecordWorld.own, RecordWorld.addEvaluation, ownRows_append_other other]
  lock := fun _ _ _ => .rfl
  nextEvaluationId := Int.le_add_one (Int.le_refl _)
  enqueueFailed := fun _ _ => rfl

theorem RecordWorld.Consistent.addEvaluation {row : EvaluationRow}
    (consistent : world.Consistent platform calls)
    (id : row.alertEvaluationId = world.nextEvaluationId)
    (locked : world.lock (row.lockKey platform) = some t)
    (apart : ¬ ∃ entry ∈ world.pending, entry.1 ≠ t ∧ entry.2.Clashes row)
    (fresh : ∀ other ∈ world.db.evaluations, ¬ other.Clashes row) :
    (world.addEvaluation t row).Consistent platform calls :=
  { consistent with
    committedIds := fun other member =>
      Int.lt_of_lt_of_le (consistent.committedIds other member) (Int.le_add_one (Int.le_refl _))
    pendingIds := fun entry member => by
      show entry.2.alertEvaluationId < world.nextEvaluationId + 1
      rcases mem_concat.mp member with old | rfl
      · exact Int.lt_add_one_of_le (Int.le_of_lt (consistent.pendingIds entry old))
      · exact Int.lt_add_one_of_le (Int.le_of_eq id)
    covered := fun entry member => by
      rcases mem_concat.mp member with old | rfl
      · exact consistent.covered entry old
      · exact locked
    fresh := fun entry member => by
      rcases mem_concat.mp member with old | rfl
      · exact consistent.fresh entry old
      · exact fresh
    apart := fun entry member other otherMember differ clashes => by
      rcases mem_concat.mp member with old | rfl <;> rcases mem_concat.mp otherMember with
        otherOld | rfl
      · exact consistent.apart entry old other otherOld differ clashes
      · exact apart ⟨entry, old, differ.symm, clashes.symm⟩
      · exact apart ⟨other, otherOld, differ, clashes⟩
      · exact differ rfl }

theorem RecordWorld.addIntent_onlyOwn {row : OutboxRow} :
    RecordWorld.OnlyOwn t world (world.addIntent t row) where
  db := rfl
  log := rfl
  own := fun u other => by
    simp [RecordWorld.own, RecordWorld.addIntent, ownRows_append_other other]
  lock := fun _ _ _ => .rfl
  nextEvaluationId := Int.le_refl _
  enqueueFailed := fun _ _ => rfl

theorem RecordWorld.Consistent.addIntent {row : OutboxRow}
    (consistent : world.Consistent platform calls)
    (apart : ¬ ∃ entry ∈ world.pendingIntents, entry.1 ≠ t ∧ entry.2.Clashes row)
    (fresh : ∀ other ∈ world.db.outbox, ¬ other.Clashes row) :
    (world.addIntent t row).Consistent platform calls :=
  { consistent with
    freshIntents := fun entry member => by
      rcases mem_concat.mp member with old | rfl
      · exact consistent.freshIntents entry old
      · exact fresh
    apartIntents := fun entry member other otherMember differ clashes => by
      rcases mem_concat.mp member with old | rfl <;> rcases mem_concat.mp otherMember with
        otherOld | rfl
      · exact consistent.apartIntents entry old other otherOld differ clashes
      · exact apart ⟨entry, old, differ.symm, clashes.symm⟩
      · exact apart ⟨other, otherOld, differ, clashes⟩
      · exact differ rfl }

theorem RecordWorld.failEnqueue_onlyOwn : RecordWorld.OnlyOwn t world (world.failEnqueue t) where
  db := rfl
  log := rfl
  own := fun _ _ => rfl
  lock := fun _ _ _ => .rfl
  nextEvaluationId := Int.le_refl _
  enqueueFailed := fun _ other => Function.update_of_ne other _ _

theorem RecordWorld.Consistent.failEnqueue (consistent : world.Consistent platform calls)
    (unlogged : ∀ row, (t, row) ∉ world.log) : (world.failEnqueue t).Consistent platform calls :=
  { consistent with
    failures := fun u failed => by
      by_cases same : u = t
      · subst same
        exact unlogged
      · exact consistent.failures u (by
          simpa [RecordWorld.failEnqueue, Function.update_of_ne same] using failed) }

end Moves

/-! ## What a call knows -/

/-- The transaction of `t` has the rows `tx` and holds at most one lock; the call
has neither failed to enqueue nor committed. -/
structure RecordWorld.InCall (world : RecordWorld) (t : Caller) (tx : RecordTx)
    (held : Option Int) : Prop where
  own : world.own t = tx
  lock : ∀ key, world.lock key = some t ↔ held = some key
  unfailed : world.enqueueFailed t = false
  unlogged : ∀ row, (t, row) ∉ world.log

/-- The advisory lock of the request's alert. -/
def RecordRequest.lockKey (platform : EvaluationPlatform) (request : RecordRequest) : Int :=
  platform.lockKey (request.lockText platform)

/-- The event `row` is what the call stores on the tables `db`. -/
structure Prepared (platform : EvaluationPlatform) (submission : Submission) (db : AlertDb)
    (row : EvaluationRow) : Prop where
  ownTenant : submission.request.snapshot.correlation.tenantId =
    submission.request.principal.tenantId
  unbound : db.boundEvent? platform submission.request = none
  unseen : db.payloadEvent? platform submission.request = none
  event : ∀ outboxId,
    row = db.newEvent platform submission.request ⟨row.alertEvaluationId, outboxId⟩
  increasing : ∀ other ∈ db.history submission.request.principal.tenantId
    (submission.request.fingerprint platform), other.alertEvaluationId < row.alertEvaluationId
  checks : checkAll row.checks = .ok ()

/-- The intents the call's enqueuer adds for `row`. -/
inductive PreparedIntents (platform : EvaluationPlatform) (submission : Submission)
    (row : EvaluationRow) : List OutboxRow → Prop where
  | silent (quiet : submission.repository.deliveryEnqueuer = none ∨
      row.transition.isLifecycle = false) : PreparedIntents platform submission row []
  | intent {enqueuer : WebhookOutboxEnqueuer} {id : Int}
      (enqueues : submission.repository.deliveryEnqueuer = some enqueuer)
      (lifecycle : row.transition.isLifecycle = true)
      (acceptable : (enqueuer.intent platform (rowToEvaluation platform row false)
        submission.request.evaluatedAt).Acceptable)
      (checks : checkAll ((enqueuer.intent platform (rowToEvaluation platform row false)
        submission.request.evaluatedAt).row id).checks = .ok ()) :
      PreparedIntents platform submission row
        [(enqueuer.intent platform (rowToEvaluation platform row false)
          submission.request.evaluatedAt).row id]

section Knowledge

variable {platform : EvaluationPlatform} {calls : Caller → Submission} {t : Caller}
  {world later : RecordWorld} {tx : RecordTx} {held : Option Int} {db next : AlertDb}
  {submission : Submission} {row : EvaluationRow} {intents : List OutboxRow}

theorem RecordWorld.InCall.rely (inCall : world.InCall t tx held)
    (rely : world.Rely platform t later) : later.InCall t tx held where
  own := rely.own.trans inCall.own
  lock := fun key => (rely.lock key).trans (inCall.lock key)
  unfailed := rely.enqueueFailed.trans inCall.unfailed
  unlogged := fun row => (rely.log row).not.mpr (inCall.unlogged row)

/-- While `t` holds the lock of an alert, the alert's history stands still. -/
theorem RecordWorld.Rely.history (rely : world.Rely platform t later) {request : RecordRequest}
    (locked : world.lock (request.lockKey platform) = some t) :
    later.db.history request.principal.tenantId (request.fingerprint platform) =
      world.db.history request.principal.tenantId (request.fingerprint platform) := by
  obtain ⟨grown, same, free⟩ := rely.grown
  have others : grown.evaluations.filter (·.ofAlert request.principal.tenantId
      (request.fingerprint platform)) = [] := by
    refine List.filter_eq_nil_iff.mpr fun row member ofAlert => free row member ?_
    simp only [EvaluationRow.ofAlert, Bool.and_eq_true, beq_iff_eq] at ofAlert
    rw [EvaluationRow.lockKey, ofAlert.1, ofAlert.2]
    exact locked
  have appended : later.db.evaluations = world.db.evaluations ++ grown.evaluations := by
    rw [same]
    rfl
  rw [history_append appended, others, List.append_nil]

/-- The lookups of a request read its alert's history. -/
theorem lookups_congr {request : RecordRequest}
    (same : next.history request.principal.tenantId (request.fingerprint platform) =
      db.history request.principal.tenantId (request.fingerprint platform)) :
    next.boundEvent? platform request = db.boundEvent? platform request ∧
      next.payloadEvent? platform request = db.payloadEvent? platform request ∧
      ∀ ids, next.newEvent platform request ids = db.newEvent platform request ids := by
  refine ⟨?_, ?_, fun ids => ?_⟩
  · simp only [AlertDb.boundEvent?, AlertDb.evaluationByKey?, same]
  · simp only [AlertDb.payloadEvent?, AlertDb.evaluationByPayload?, same]
  · simp only [AlertDb.newEvent, AlertDb.latestMeasured?, same]

theorem Prepared.congr (prepared : Prepared platform submission db row)
    (same : next.history submission.request.principal.tenantId
        (submission.request.fingerprint platform) =
      db.history submission.request.principal.tenantId
        (submission.request.fingerprint platform)) :
    Prepared platform submission next row := by
  obtain ⟨bound, payload, event⟩ := lookups_congr same
  exact ⟨prepared.ownTenant, bound.trans prepared.unbound, payload.trans prepared.unseen,
    fun outboxId => (prepared.event outboxId).trans (event _).symm, same ▸ prepared.increasing,
    prepared.checks⟩

/-- The intent of an event just stored passes the guard of the outbox. -/
theorem guard_intent {enqueuer : WebhookOutboxEnqueuer} {id : Int} {at_ : Timestamp}
    (fresh : ∀ other ∈ db.evaluations, other.alertEvaluationId ≠ row.alertEvaluationId) :
    guardAlertOutboxInsert { db with evaluations := db.evaluations ++ [row] }
      ((enqueuer.intent platform (rowToEvaluation platform row false) at_).row id) = .ok () := by
  have found : AlertDb.evaluation? { db with evaluations := db.evaluations ++ [row] }
      row.alertEvaluationId = some row := by
    rw [AlertDb.evaluation?, List.find?_append, List.find?_eq_none.mpr (by simpa using fresh)]
    simp
  unfold guardAlertOutboxInsert
  simp only [guard_bind_eq_ok, EnqueueRequest.row, WebhookOutboxEnqueuer.intent, rowToEvaluation,
    found]
  simp

/-- A prepared call is an atomic call on the tables, if no row clashes with its rows. -/
theorem Prepared.recordAtomically (prepared : Prepared platform submission db row)
    (preparedIntents : PreparedIntents platform submission row intents)
    (fresh : ∀ other ∈ db.evaluations, ¬ other.Clashes row)
    (freshIntents : ∀ intent ∈ intents, ∀ other ∈ db.outbox, ¬ other.Clashes intent) :
    ∃ outboxId, submission.repository.recordAtomically platform submission.request
      ⟨row.alertEvaluationId, outboxId⟩ db =
        .ok (rowToEvaluation platform row false, db.grow ⟨[row], intents⟩) := by
  have inserted (outboxId : Int) : insertEvaluation db (db.newEvent platform submission.request
      ⟨row.alertEvaluationId, outboxId⟩) =
        .ok { db with evaluations := db.evaluations ++ [row] } := by
    rw [← prepared.event outboxId]
    exact insertEvaluation_eq_ok.mpr ⟨prepared.checks, fresh, rfl⟩
  have appends (outboxId : Int) (enqueued : submission.repository.enqueueEvent platform
      submission.request ⟨row.alertEvaluationId, outboxId⟩ row
        { db with evaluations := db.evaluations ++ [row] } = .ok (db.grow ⟨[row], intents⟩)) :
      Recording platform submission.repository submission.request
        ⟨row.alertEvaluationId, outboxId⟩ db (rowToEvaluation platform row false)
        (db.grow ⟨[row], intents⟩) := by
    have recording := @Recording.inserted platform submission.repository submission.request
      ⟨row.alertEvaluationId, outboxId⟩ db _ _ prepared.unbound prepared.unseen
      (inserted outboxId) (by rw [← prepared.event outboxId]; exact enqueued)
    rwa [← prepared.event outboxId] at recording
  cases preparedIntents with
  | silent quiet =>
      refine ⟨0, recordAtomically_eq_ok.mpr ⟨prepared.ownTenant, appends 0 ?_⟩⟩
      have same : db.grow ⟨[row], []⟩ = { db with evaluations := db.evaluations ++ [row] } := by
        simp [AlertDb.grow]
      unfold AlertRepository.enqueueEvent
      rcases quiet with absent | quiet
      · rw [absent, same]
      · rw [same]
        cases submission.repository.deliveryEnqueuer <;> simp [quiet]
  | @intent enqueuer id enqueues lifecycle acceptable checks =>
      refine ⟨id, recordAtomically_eq_ok.mpr ⟨prepared.ownTenant, appends id ?_⟩⟩
      have guard := @guard_intent platform db row enqueuer id submission.request.evaluatedAt
        fun other member same => fresh other member (.inl same)
      have insert := insertIntent_inserts acceptable (insertOutbox_inserts.mpr
        ⟨guard, checks, freshIntents _ (List.mem_singleton.mpr rfl), rfl⟩)
      simp only [AlertRepository.enqueueEvent, enqueues, lifecycle, if_true, insert]
      rfl

/-! ## The end of a transaction -/

/-- A COMMIT of `t` stores nothing, or what an atomic call would store. -/
def RecordWorld.Committable (platform : EvaluationPlatform) (calls : Caller → Submission)
    (t : Caller) (world : RecordWorld) : Prop :=
  (∃ held, world.InCall t .empty held) ∨
    ∃ row intents,
      world.InCall t ⟨[row], intents⟩ (some ((calls t).request.lockKey platform)) ∧
        Prepared platform (calls t) world.db row ∧ PreparedIntents platform (calls t) row intents

theorem RecordWorld.Committable.rely (committable : world.Committable platform calls t)
    (rely : world.Rely platform t later) : later.Committable platform calls t := by
  obtain ⟨held, inCall⟩ | ⟨row, intents, inCall, prepared, preparedIntents⟩ := committable
  · exact .inl ⟨held, inCall.rely rely⟩
  · refine .inr ⟨row, intents, inCall.rely rely, prepared.congr ?_, preparedIntents⟩
    exact rely.history ((inCall.lock _).mpr rfl)

theorem RecordWorld.Consistent.commit_rely (consistent : world.Consistent platform calls)
    {u : Caller} (other : u ≠ t) : world.Rely platform u (world.commit t) where
  own := RecordWorld.abandon_onlyOwn.own u other
  lock := RecordWorld.abandon_onlyOwn.lock u other
  nextEvaluationId := Int.le_refl _
  grown := by
    refine ⟨world.own t, rfl, fun row member held => other ?_⟩
    have covered := consistent.covered (t, row) (mem_ownRows.mp member)
    exact Option.some.inj (held.symm.trans covered)
  enqueueFailed := rfl
  log := fun row => by
    simp [RecordWorld.commit, other.symm]

theorem RecordWorld.Consistent.commit_stored {intents : List OutboxRow}
    (consistent : world.Consistent platform calls)
    (inCall : world.InCall t ⟨[row], intents⟩ held)
    (prepared : Prepared platform (calls t) world.db row)
    (preparedIntents : PreparedIntents platform (calls t) row intents) :
    CallHistory platform calls (world.commit t).log (world.commit t).db := by
  have own : ∀ intent ∈ intents, (t, intent) ∈ world.pendingIntents := fun intent member =>
    mem_ownRows.mp (by rw [show ownRows t world.pendingIntents = intents from
      congrArg RecordTx.intents inCall.own]; exact member)
  have pending : (t, row) ∈ world.pending := mem_ownRows.mp (by
    rw [show ownRows t world.pending = [row] from congrArg RecordTx.evaluations inCall.own]
    exact List.mem_singleton.mpr rfl)
  obtain ⟨outboxId, returned⟩ := prepared.recordAtomically preparedIntents
    (consistent.fresh (t, row) pending)
    (fun intent member => consistent.freshIntents (t, intent) (own intent member))
  have step := CallHistory.call consistent.history prepared.increasing returned rfl
  rw [← prepared.event outboxId] at step
  simpa [RecordWorld.commit, RecordWorld.ownDb, inCall.own] using step

theorem RecordWorld.Committable.history (committable : world.Committable platform calls t)
    (consistent : world.Consistent platform calls) :
    CallHistory platform calls (world.commit t).log (world.commit t).db := by
  obtain ⟨held, inCall⟩ | ⟨row, intents, inCall, prepared, preparedIntents⟩ := committable
  · rw [RecordWorld.commit, RecordWorld.ownDb, inCall.own, AlertDb.grow_empty]
    simpa [RecordTx.empty] using consistent.history
  · exact consistent.commit_stored inCall prepared preparedIntents

theorem RecordWorld.Committable.unfailed (committable : world.Committable platform calls t) :
    world.enqueueFailed t = false := by
  obtain ⟨held, inCall⟩ | ⟨row, intents, inCall, -⟩ := committable
  · exact inCall.unfailed
  · exact inCall.unfailed

theorem RecordWorld.Consistent.commit (consistent : world.Consistent platform calls)
    (committable : world.Committable platform calls t) :
    (world.commit t).Consistent platform calls := by
  have abandoned := consistent.abandon (t := t)
  refine { abandoned with
    history := committable.history consistent
    committedIds := fun row member => ?_
    fresh := fun entry member row rowMember => ?_
    freshIntents := fun entry member row rowMember => ?_
    failures := fun u failed row member => ?_ }
  · rcases List.mem_append.mp member with old | new
    · exact consistent.committedIds row old
    · exact consistent.pendingIds (t, row) (mem_ownRows.mp new)
  · obtain ⟨inside, other⟩ := mem_otherRows.mp member
    rcases List.mem_append.mp rowMember with old | new
    · exact consistent.fresh entry inside row old
    · exact consistent.apart entry inside (t, row) (mem_ownRows.mp new) other.symm
  · obtain ⟨inside, other⟩ := mem_otherRows.mp member
    rcases List.mem_append.mp rowMember with old | new
    · exact consistent.freshIntents entry inside row old
    · exact consistent.apartIntents entry inside (t, row) (mem_ownRows.mp new) other.symm
  · rcases List.mem_append.mp member with old | new
    · exact consistent.failures u failed row old
    · obtain ⟨stored, -, same⟩ := List.mem_map.mp new
      obtain rfl := (Prod.mk.inj same).1
      exact Bool.false_ne_true (committable.unfailed.symm.trans failed)

end Knowledge

end StockoutOps.Alerting
