import StockoutOps.Alerting.RecordSerialization

/-!
Contract: the runs of concurrent calls of `AlertRepository.record`.

Owns: one rule for each statement of the call, the safety of the whole call,
and its consequence: the tables that any interleaving of any calls leaves
behind are the tables of atomic calls in the order of their commits.

Does not own: what such tables satisfy.
-/

namespace StockoutOps.Alerting

open StockoutOps.Sql StockoutOps.Foundation.Interleaving

section Rules

variable {platform : EvaluationPlatform} {calls : Caller → Submission} {t : Caller}
  {world : RecordWorld} {α ρ : Type} {key : Int}

/-- The body of a transaction may return where its COMMIT is harmless. -/
def BodyEnds (platform : EvaluationPlatform) (calls : Caller → Submission) (t : Caller)
    (result : Except Failure α) (world : RecordWorld) : Prop :=
  ∀ value, result = .ok value → world.Committable platform calls t

/-- A program that is safe as the rest of a transaction. -/
abbrev SafeBody (platform : EvaluationPlatform) (calls : Caller → Submission) (t : Caller)
    (body : RecordProgram α) (world : RecordWorld) : Prop :=
  (recordDiscipline platform calls).Safe t body (BodyEnds platform calls t) world

theorem safe_pure {value : α} (committable : world.Committable platform calls t) :
    SafeBody platform calls t (pure value) world :=
  Discipline.Safe.pure fun _ rely _ _ _ => committable.rely rely

theorem safe_raise {failure : Failure} :
    SafeBody platform calls t (Call.raise failure : RecordProgram α) world :=
  Discipline.Safe.raise fun _ _ _ _ raised => nomatch raised

/-- A statement of a transaction, and the rest of it. -/
theorem safe_statement {statement : RecordStatement ρ} {follow : ρ → RecordProgram α}
    (safe : ∀ later, world.Rely platform t later → later.Consistent platform calls →
      ∀ input result after, statement t input later = some (result, after) →
        (recordDiscipline platform calls).Guarantee t later after ∧
        ∀ value, result = .ok value → SafeBody platform calls t (follow value) after) :
    SafeBody platform calls t (Call.exec statement >>= follow) world := by
  refine Discipline.Safe.call_bind (Discipline.Safe.exec fun later rely consistent =>
    ⟨.inr trivial, fun input result after _ answered => ?_⟩)
  obtain ⟨guarantee, rest⟩ := safe later rely consistent input result after answered
  refine ⟨guarantee, fun last relyLast _ => ?_⟩
  cases result with
  | ok value => exact Discipline.Safe.rely (rest value rfl) relyLast
  | error failure => exact fun _ _ _ _ raised => nomatch raised

theorem guarantee_of_onlyOwn {after : RecordWorld} (own : world.OnlyOwn t after)
    (consistent : after.Consistent platform calls) :
    (recordDiscipline platform calls).Guarantee t world after :=
  ⟨consistent, own.rely⟩

/-- A statement that the outside made raise. -/
theorem safe_fault (consistent : world.Consistent platform calls) {failure : Failure}
    {follow : ρ → RecordProgram α} :
    (recordDiscipline platform calls).Guarantee t world world ∧
      ∀ value, (.error failure : Except Failure ρ) = .ok value →
        SafeBody platform calls t (follow value) world :=
  ⟨.refl consistent, fun _ raised => nomatch raised⟩

/-- A query before the INSERT reads the committed tables. -/
theorem safe_query {held : Option Int} {read : AlertDb → ρ} {follow : ρ → RecordProgram α}
    (inCall : world.InCall t .empty held)
    (safe : ∀ later, world.Rely platform t later → later.InCall t .empty held →
      SafeBody platform calls t (follow (read later.db)) later) :
    SafeBody platform calls t (Call.exec (RecordStatement.query read) >>= follow) world := by
  refine safe_statement fun later rely consistent input result after answered => ?_
  have inCallLater := inCall.rely rely
  unfold RecordStatement.query at answered
  split at answered
  · obtain ⟨rfl, rfl⟩ := Prod.mk.inj (Option.some.inj answered)
    exact safe_fault consistent
  · obtain ⟨rfl, rfl⟩ := Prod.mk.inj (Option.some.inj answered)
    refine ⟨.refl consistent, fun value same => ?_⟩
    rw [← Except.ok.inj same, RecordWorld.ownDb, inCallLater.own, AlertDb.grow_empty]
    exact safe later rely inCallLater

theorem safe_advisoryXactLock {follow : Unit → RecordProgram α}
    (inCall : world.InCall t .empty none)
    (safe : ∀ later, later.InCall t .empty (some key) →
      SafeBody platform calls t (follow ()) later) :
    SafeBody platform calls t
      (Call.exec (RecordStatement.advisoryXactLock key) >>= follow) world := by
  refine safe_statement fun later rely consistent input result after answered => ?_
  have inCallLater := inCall.rely rely
  unfold RecordStatement.advisoryXactLock at answered
  split at answered
  · obtain ⟨rfl, rfl⟩ := Prod.mk.inj (Option.some.inj answered)
    exact safe_fault consistent
  · split at answered
    case h_1 free =>
      obtain ⟨rfl, rfl⟩ := Prod.mk.inj (Option.some.inj answered)
      refine ⟨guarantee_of_onlyOwn (RecordWorld.acquire_onlyOwn free) (consistent.acquire free),
        fun _ _ => safe _ { inCallLater with lock := fun other => ?_ }⟩
      by_cases same : other = key
      · simp [RecordWorld.acquire, same]
      · simp [RecordWorld.acquire, Function.update_of_ne same, inCallLater.lock, Ne.symm same]
    case h_2 holder holds =>
      split at answered
      case isTrue same =>
        subst same
        exact absurd ((inCallLater.lock key).mp holds) (by simp)
      case isFalse => cases answered

/-- The INSERT of the event, after the lookups found nothing. -/
theorem safe_insertEvaluation {previous : Option AlertState}
    {follow : EvaluationRow → RecordProgram α}
    (inCall : world.InCall t .empty (some ((calls t).request.lockKey platform)))
    (ownTenant : (calls t).request.snapshot.correlation.tenantId =
      (calls t).request.principal.tenantId)
    (unbound : world.db.boundEvent? platform (calls t).request = none)
    (unseen : world.db.payloadEvent? platform (calls t).request = none)
    (latest : previous = (world.db.latestMeasured? (calls t).request.principal.tenantId
      ((calls t).request.fingerprint platform)).bind (·.state))
    (safe : ∀ later row,
      later.InCall t ⟨[row], []⟩ (some ((calls t).request.lockKey platform)) →
      Prepared platform (calls t) later.db row → SafeBody platform calls t (follow row) later) :
    SafeBody platform calls t
      (Call.exec (RecordStatement.insertEvaluation ((calls t).request.row platform previous)) >>=
        follow) world := by
  refine safe_statement fun later rely consistent input result after answered => ?_
  have inCallLater := inCall.rely rely
  have locked := (inCall.lock _).mpr rfl
  have history := rely.history locked
  obtain ⟨bound, payload, event⟩ := lookups_congr history
  unfold RecordStatement.insertEvaluation at answered
  split at answered
  · obtain ⟨rfl, rfl⟩ := Prod.mk.inj (Option.some.inj answered)
    exact safe_fault consistent
  simp only at answered
  split at answered
  case isTrue => cases answered
  case isFalse apart =>
    rw [RecordWorld.ownDb, inCallLater.own, AlertDb.grow_empty] at answered
    split at answered
    case h_2 refused =>
      obtain ⟨rfl, rfl⟩ := Prod.mk.inj (Option.some.inj answered)
      have more : later.nextEvaluationId ≤ later.nextEvaluationId + 1 := by omega
      exact ⟨guarantee_of_onlyOwn (RecordWorld.skip_onlyOwn more) (consistent.skip more),
        fun _ raised => by cases raised⟩
    case h_1 accepted =>
      obtain ⟨rfl, rfl⟩ := Prod.mk.inj (Option.some.inj answered)
      obtain ⟨checks, fresh, -⟩ := insertEvaluation_eq_ok.mp accepted
      refine ⟨guarantee_of_onlyOwn RecordWorld.addEvaluation_onlyOwn
        (consistent.addEvaluation rfl ((rely.lock _).mpr locked) apart fresh), ?_⟩
      intro row same
      obtain rfl := Except.ok.inj same
      refine safe _ _ { inCallLater with own := ?_ } ?_
      · have own := inCallLater.own
        simp only [RecordWorld.own, RecordTx.empty, RecordTx.mk.injEq] at own
        simp [RecordWorld.own, RecordWorld.addEvaluation, ownRows_append_self, own.1, own.2]
      · refine ⟨ownTenant, bound.trans unbound, payload.trans unseen, fun outboxId => ?_,
          fun other member => ?_, checks⟩
        · rw [latest]
          exact (event ⟨later.nextEvaluationId, outboxId⟩).symm
        · exact consistent.committedIds other (List.mem_filter.mp member).1

/-- The INSERT of the event's intent. -/
theorem safe_insertIntent {enqueuer : WebhookOutboxEnqueuer} {row : EvaluationRow}
    {follow : Option Int → RecordProgram α}
    (inCall : world.InCall t ⟨[row], []⟩ (some ((calls t).request.lockKey platform)))
    (prepared : Prepared platform (calls t) world.db row)
    (enqueues : (calls t).repository.deliveryEnqueuer = some enqueuer)
    (lifecycle : row.transition.isLifecycle = true)
    (safe : ∀ later id, later.Committable platform calls t →
      SafeBody platform calls t (follow id) later) :
    SafeBody platform calls t
      (Call.exec (RecordStatement.insertIntent (enqueuer.intent platform
        (rowToEvaluation platform row false) (calls t).request.evaluatedAt)) >>= follow) world := by
  refine safe_statement fun later rely consistent input result after answered => ?_
  have inCallLater := inCall.rely rely
  have preparedLater := prepared.congr (rely.history ((inCall.lock _).mpr rfl))
  have skipped (nextOutboxId : Int) :
      (recordDiscipline platform calls).Guarantee t later { later with nextOutboxId } :=
    guarantee_of_onlyOwn (RecordWorld.skip_onlyOwn (Int.le_refl _))
      (consistent.skip (Int.le_refl _))
  have failed := consistent.failEnqueue inCallLater.unlogged
  have guarantee := guarantee_of_onlyOwn RecordWorld.failEnqueue_onlyOwn failed
  have pending : (t, row) ∈ later.pending := by
    refine mem_ownRows.mp ?_
    rw [show ownRows t later.pending = [row] from congrArg RecordTx.evaluations inCallLater.own]
    exact List.mem_singleton.mpr rfl
  unfold RecordStatement.insertIntent at answered
  split at answered
  · obtain ⟨rfl, rfl⟩ := Prod.mk.inj (Option.some.inj answered)
    exact ⟨guarantee, fun _ raised => nomatch raised⟩
  split at answered
  · obtain ⟨rfl, rfl⟩ := Prod.mk.inj (Option.some.inj answered)
    refine ⟨guarantee.trans (guarantee_of_onlyOwn (RecordWorld.skip_onlyOwn (Int.le_refl _))
      (failed.skip (Int.le_refl _))), fun _ raised => nomatch raised⟩
  case h_2 next accepted =>
    -- the event is not committed, so no intent of it is
    obtain ⟨-, -, other, member, -, evaluationId⟩ | ⟨id, none_, -⟩ := insertIntent_ok accepted
    · rw [RecordWorld.ownDb, inCallLater.own] at member
      obtain ⟨event, stored, same⟩ :=
        consistent.history.invariant.owners other (by simpa [AlertDb.grow] using member)
      exact absurd (.inl (same.trans evaluationId)) (consistent.fresh (t, row) pending event stored)
    · cases none_
  case h_3 id next accepted =>
    split at answered
    case isTrue => cases answered
    case isFalse apart =>
      obtain ⟨rfl, rfl⟩ := Prod.mk.inj (Option.some.inj answered)
      obtain ⟨none_, -⟩ | ⟨id', same, acceptable, insert⟩ := insertIntent_ok accepted
      · cases none_
      obtain rfl := Option.some.inj same
      obtain ⟨-, checks, fresh, -⟩ := insertOutbox_inserts.mp insert
      refine ⟨guarantee_of_onlyOwn RecordWorld.addIntent_onlyOwn (consistent.addIntent apart
        fun other member => fresh other ?_), fun value _ => safe _ _ (.inr ⟨row, _,
          { inCallLater with own := ?_ }, preparedLater, .intent enqueues lifecycle acceptable
            checks⟩)⟩
      · exact List.mem_append_left _ member
      · have own := inCallLater.own
        simp only [RecordWorld.own, RecordTx.mk.injEq] at own
        simp [RecordWorld.own, RecordWorld.addIntent, ownRows_append_self, own.1, own.2]

/-! ## The call -/

/-- The last statement of a transaction. -/
theorem safe_end {statement : RecordStatement Unit} {last : RecordProgram α}
    (quiet : ∀ later, (recordDiscipline platform calls).Safe t last (fun _ _ => True) later)
    (safe : ∀ later, world.Rely platform t later → later.Consistent platform calls →
      ∀ input result after, statement t input later = some (result, after) →
        (recordDiscipline platform calls).Guarantee t later after) :
    (recordDiscipline platform calls).Safe t
      (Call.exec statement >>= fun _ => last : RecordProgram α) (fun _ _ => True) world := by
  refine Discipline.Safe.call_bind (Discipline.Safe.exec fun later rely consistent =>
    ⟨.inr trivial, fun input result after _ answered => ?_⟩)
  refine ⟨safe later rely consistent input result after answered, fun last _ _ => ?_⟩
  cases result with
  | ok value => exact quiet last
  | error failure => exact fun _ _ _ => trivial

theorem safe_recordTransaction {body : RecordProgram α}
    (safe : SafeBody platform calls t body world) :
    (recordDiscipline platform calls).Safe t (recordTransaction body) (fun _ _ => True) world := by
  refine Discipline.Safe.attempt_bind (Discipline.Safe.mono (fun result last _ ends => ?_) safe)
  cases result with
  | ok value =>
      refine safe_end (fun _ => Discipline.Safe.pure fun _ _ _ => trivial)
        fun later rely consistent input result after answered => ?_
      have committable := (ends value rfl).rely rely
      have committed : (recordDiscipline platform calls).Guarantee t later (later.commit t) :=
        ⟨consistent.commit committable, fun _ other => consistent.commit_rely other⟩
      unfold RecordStatement.commit at answered
      split at answered
      · obtain ⟨-, rfl⟩ := Prod.mk.inj (Option.some.inj answered)
        exact committed
      · obtain ⟨-, rfl⟩ := Prod.mk.inj (Option.some.inj answered)
        split
        · exact committed
        · exact guarantee_of_onlyOwn RecordWorld.abandon_onlyOwn consistent.abandon
  | error failure =>
      refine safe_end (fun _ => Discipline.Safe.raise fun _ _ _ => trivial)
        fun later _ consistent input result after answered => ?_
      obtain ⟨-, rfl⟩ := Prod.mk.inj (Option.some.inj answered)
      exact guarantee_of_onlyOwn RecordWorld.abandon_onlyOwn consistent.abandon

theorem safe_program (inCall : world.InCall t .empty none) :
    (recordDiscipline platform calls).Safe t ((calls t).program platform) (fun _ _ => True)
      world := by
  unfold Submission.program AlertRepository.record
  split
  case isTrue => exact Discipline.Safe.raise fun _ _ _ => trivial
  case isFalse same =>
  have ownTenant := not_not.mp same
  refine safe_recordTransaction (safe_advisoryXactLock inCall fun first inFirst => ?_)
  refine safe_query inFirst fun second _ inSecond => ?_
  cases bound : second.db.evaluationByKey? (calls t).request.principal.tenantId
      ((calls t).request.fingerprint platform) (calls t).request.idempotencyKey with
  | some existing =>
      simp only
      split
      · exact safe_raise
      · exact safe_pure (.inl ⟨_, inSecond⟩)
  | none =>
      refine safe_query inSecond fun third relyThird inThird => ?_
      have keysThird := lookups_congr (relyThird.history ((inSecond.lock _).mpr rfl))
      cases seen : third.db.evaluationByPayload? (calls t).request.principal.tenantId
          ((calls t).request.fingerprint platform) ((calls t).request.payloadHash platform) with
      | some duplicate => exact safe_pure (.inl ⟨_, inThird⟩)
      | none =>
          refine safe_query inThird fun fourth relyFourth inFourth => ?_
          have keysFourth := lookups_congr (relyFourth.history ((inThird.lock _).mpr rfl))
          refine safe_insertEvaluation inFourth ownTenant
            (keysFourth.1.trans (keysThird.1.trans bound)) (keysFourth.2.1.trans seen) rfl
            fun last row inLast prepared => ?_
          cases enqueues : (calls t).repository.deliveryEnqueuer with
          | none =>
              exact safe_pure (.inr ⟨row, _, inLast, prepared, .silent (.inl enqueues)⟩)
          | some enqueuer =>
              simp only [WebhookOutboxEnqueuer.enqueue]
              split
              case isTrue notify =>
                refine safe_insertIntent inLast prepared enqueues ?_ fun _ _ committable =>
                  safe_pure committable
                simpa [shouldNotify, rowToEvaluation] using notify
              case isFalse quiet =>
                refine safe_pure (.inr ⟨row, _, inLast, prepared, .silent (.inr ?_)⟩)
                simpa [shouldNotify, rowToEvaluation] using quiet

end Rules

/-! ## Every run -/

section Runs

variable {platform : EvaluationPlatform} {calls : Caller → Submission}

theorem record_verified : Verified (recordSystem platform calls) (recordDiscipline platform calls)
    (fun t world => world.InCall t .empty none) (fun _ _ _ _ => True) where
  allowed := fun _ _ _ => trivial
  fresh := fun _ _ _ rely _ inCall => inCall.rely rely
  calls := fun _ submission _ starts _ inCall => by
    obtain rfl := starts
    exact safe_program inCall
  crash := fun _ _ _ crash consistent => by
    obtain rfl := crash
    exact guarantee_of_onlyOwn RecordWorld.abandon_onlyOwn consistent.abandon
  disturb := fun before after disturb consistent => by
    obtain ⟨evaluations, outbox, rfl⟩ := disturb
    have more : before.nextEvaluationId ≤ before.nextEvaluationId + evaluations := by omega
    exact ⟨consistent.skip more, fun u =>
      (RecordWorld.skip_onlyOwn (t := u + 1) more).rely u (Nat.ne_of_lt (Nat.lt_succ_self u))⟩

/-- In every reachable pool the committed tables are those of atomic calls. -/
theorem RecordPool.Reachable.consistent {pool : RecordPool}
    (reachable : RecordPool.Reachable platform calls pool) :
    pool.state.Consistent platform calls := by
  have inCall (t : Caller) : RecordWorld.initial.InCall t .empty none :=
    ⟨rfl, fun key => by simp [RecordWorld.initial], rfl, fun row => by simp [RecordWorld.initial]⟩
  have safe : Pool.Safe (recordDiscipline platform calls)
      (fun t world => world.InCall t .empty none) (fun _ _ _ _ => True) RecordPool.start :=
    Pool.safe_start RecordWorld.initial_consistent inCall
  exact (safe.reaches record_verified reachable).inv

end Runs

/-! ## A call that runs alone -/

section Alone

variable {platform : EvaluationPlatform} {submission : Submission} {t : Caller}
  {event : EvaluationRow} {intents : List OutboxRow}

/-- A body that returns is committed. -/
theorem solo_recordTransaction {α : Type} {body : RecordProgram α} {world last : RecordWorld}
    {value : α} (ran : body.solo t ⟨none, false⟩ world = some (.ok value, last)) :
    (recordTransaction body).solo t ⟨none, false⟩ world = some (.ok value, last.commit t) := by
  refine (Call.solo_bind_ok (Call.solo_attempt ran)).trans ?_
  exact Call.solo_bind_ok (Call.solo_exec RecordStatement.commit)

theorem solo_query {ρ α : Type} {read : AlertDb → ρ} {follow : ρ → RecordProgram α}
    {world : RecordWorld} (own : world.own t = .empty) :
    (Call.exec (RecordStatement.query read) >>= follow).solo t ⟨none, false⟩ world =
      (follow (read world.db)).solo t ⟨none, false⟩ world := by
  refine Call.solo_bind_ok ((Call.solo_exec _).trans ?_)
  rw [RecordStatement.query, RecordWorld.ownDb, own, AlertDb.grow_empty]

/-- Before any other call, a call stores what an atomic one does. -/
theorem solo_stores (ownTenant : submission.request.snapshot.correlation.tenantId =
      submission.request.principal.tenantId) (checks : checkAll event.checks = .ok ())
    (same : event = AlertDb.empty.newEvent platform submission.request ⟨1, 1⟩)
    (preparedIntents : PreparedIntents platform submission event intents)
    (first : ∀ intent ∈ intents, intent.outboxId = 1) :
    ∃ world, (submission.program platform).solo t ⟨none, false⟩ RecordWorld.initial =
        some (.ok (rowToEvaluation platform event false), world) ∧
      world.db = AlertDb.empty.grow ⟨[event], intents⟩ ∧ world.log = [(t, event)] := by
  let key := submission.request.lockKey platform
  let locked := RecordWorld.initial.acquire t key
  let stored := locked.addEvaluation t event
  have lock : (Call.exec (RecordStatement.advisoryXactLock key) : RecordProgram Unit).solo t
      ⟨none, false⟩ RecordWorld.initial = some (.ok (), locked) := Call.solo_exec _
  have own : locked.own t = .empty := rfl
  have insert : (Call.exec (RecordStatement.insertEvaluation
      (submission.request.row platform none)) : RecordProgram EvaluationRow).solo t ⟨none, false⟩
        locked = some (.ok event, stored) := by
    refine (Call.solo_exec _).trans ?_
    have accepted : insertEvaluation (locked.ownDb t) event =
        .ok { AlertDb.empty with evaluations := [event] } :=
      insertEvaluation_eq_ok.mpr ⟨checks, fun _ member => absurd member List.not_mem_nil, rfl⟩
    have row : submission.request.row platform none locked.nextEvaluationId = event := same.symm
    simp only [RecordStatement.insertEvaluation, row, accepted]
    refine if_neg fun found => ?_
    obtain ⟨entry, member, -⟩ := found
    exact absurd member List.not_mem_nil
  suffices ran : ∃ last, Call.solo t ⟨none, false⟩
      (submission.repository.deliveryEnqueuer.elim
        (pure (rowToEvaluation platform event false) : RecordProgram AlertEvaluation)
        fun enqueuer => do
          let _ ← enqueuer.enqueue platform
            (fun request => Call.exec (RecordStatement.insertIntent request))
            (rowToEvaluation platform event false) submission.request.evaluatedAt
          pure (rowToEvaluation platform event false)) stored =
        some (.ok (rowToEvaluation platform event false), last) ∧
      last.db = .empty ∧ last.log = [] ∧ last.own t = ⟨[event], intents⟩ by
    obtain ⟨last, ran, db, log, added⟩ := ran
    refine ⟨last.commit t, ?_, ?_, ?_⟩
    · unfold Submission.program AlertRepository.record
      rw [if_neg (not_not.mpr ownTenant)]
      refine solo_recordTransaction ((Call.solo_bind_ok lock).trans ?_)
      refine (solo_query own).trans ((solo_query own).trans ((solo_query own).trans ?_))
      refine (Call.solo_bind_ok insert).trans ?_
      cases enqueues : submission.repository.deliveryEnqueuer with
      | none =>
          rw [enqueues] at ran
          exact ran
      | some enqueuer =>
          rw [enqueues] at ran
          exact ran
    · rw [RecordWorld.commit, RecordWorld.ownDb, db, added]
    · simp [RecordWorld.commit, log, added]
  have ownStored : stored.own t = ⟨[event], []⟩ := by
    simp [stored, locked, RecordWorld.own, RecordWorld.addEvaluation, RecordWorld.acquire,
      RecordWorld.initial, ownRows]
  cases preparedIntents with
  | silent quiet =>
      refine ⟨stored, ?_, rfl, rfl, ownStored⟩
      rcases quiet with absent | quiet
      · rw [absent]
        rfl
      · cases submission.repository.deliveryEnqueuer with
        | none => rfl
        | some enqueuer =>
            have silent : shouldNotify (rowToEvaluation platform event false) = false := by
              simpa [shouldNotify, rowToEvaluation] using quiet
            simp only [Option.elim_some, WebhookOutboxEnqueuer.enqueue, silent]
            rfl
  | @intent enqueuer id enqueues lifecycle acceptable intentChecks =>
      obtain rfl : id = 1 := first _ (List.mem_singleton.mpr rfl)
      have notify : shouldNotify (rowToEvaluation platform event false) = true := by
        simpa [shouldNotify, rowToEvaluation] using lifecycle
      have accepted := insertIntent_inserts acceptable (insertOutbox_inserts.mpr
        ⟨@guard_intent platform AlertDb.empty event enqueuer 1 submission.request.evaluatedAt
          (fun _ member => absurd member List.not_mem_nil), intentChecks,
          fun _ member => absurd member List.not_mem_nil, rfl⟩)
      have ownDb : stored.ownDb t =
          { AlertDb.empty with evaluations := AlertDb.empty.evaluations ++ [event] } := by
        rw [RecordWorld.ownDb, ownStored]
        rfl
      let request := enqueuer.intent platform (rowToEvaluation platform event false)
        submission.request.evaluatedAt
      have insert : (Call.exec (RecordStatement.insertIntent request) :
          RecordProgram (Option Int)).solo t ⟨none, false⟩ stored =
            some (.ok (some 1), stored.addIntent t (request.row 1)) := by
        refine (Call.solo_exec _).trans ?_
        simp only [RecordStatement.insertIntent, ownDb,
          show stored.nextOutboxId = 1 from rfl, request, accepted]
        refine if_neg fun found => ?_
        obtain ⟨entry, member, -⟩ := found
        exact absurd member List.not_mem_nil
      refine ⟨stored.addIntent t (request.row 1), ?_, rfl, rfl, ?_⟩
      · simp only [enqueues, Option.elim_some, WebhookOutboxEnqueuer.enqueue, notify, if_true]
        exact Call.solo_bind_ok insert
      · simp only [RecordWorld.own, RecordTx.mk.injEq] at ownStored
        simp [RecordWorld.own, RecordWorld.addIntent, ownRows_append_self, ownStored,
          request]

end Alone

end StockoutOps.Alerting
