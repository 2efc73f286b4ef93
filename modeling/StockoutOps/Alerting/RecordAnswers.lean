import StockoutOps.Alerting.Service

/-!
Contract: what `AlertRepository.record` answers, whatever the others do.

Owns: what each of its statements answers; and that the evaluation which a call returns
is that of a committed event of its payload.

Does not own: the serializability of the calls.
-/

namespace StockoutOps.Alerting

open StockoutOps.Sql StockoutOps.Foundation.Interleaving

/-! ## What a statement answers -/

/-- The statement raises, and not what a firing safety policy raises. -/
def Raises {ρ : Type} (result : Except Failure ρ) : Prop :=
  ∃ failure, result = .error failure ∧ failure ≠ shadowExternalActionDetected

namespace RecordStatement

variable {t : Caller} {input : RecordInput} {world after : RecordWorld} {ρ : Type}

theorem raises_fault {failure : Failure} (outside : input.Outside)
    (fault : input.fault = some failure) : Raises (.error failure : Except Failure ρ) := by
  refine ⟨failure, rfl, ?_⟩
  rintro rfl
  exact outside _ fault

theorem query_cases {read : AlertDb → ρ} {result : Except Failure ρ} (outside : input.Outside)
    (answered : query read t input world = some (result, after)) :
    after = world ∧ (Raises result ∨ result = .ok (read (world.ownDb t))) := by
  unfold query at answered
  split at answered
  case h_1 failure fault =>
    obtain ⟨rfl, rfl⟩ := Prod.mk.inj (Option.some.inj answered)
    exact ⟨rfl, .inl (raises_fault outside fault)⟩
  case h_2 =>
    obtain ⟨rfl, rfl⟩ := Prod.mk.inj (Option.some.inj answered)
    exact ⟨rfl, .inr rfl⟩

theorem advisoryXactLock_cases {key : Int} {result : Except Failure Unit}
    (outside : input.Outside)
    (answered : advisoryXactLock key t input world = some (result, after)) :
    Raises result ∨ result = .ok () ∧ after.own t = world.own t := by
  unfold advisoryXactLock at answered
  split at answered
  case h_1 failure fault =>
    obtain ⟨rfl, rfl⟩ := Prod.mk.inj (Option.some.inj answered)
    exact .inl (raises_fault outside fault)
  case h_2 =>
    split at answered
    case h_1 =>
      obtain ⟨rfl, rfl⟩ := Prod.mk.inj (Option.some.inj answered)
      exact .inr ⟨rfl, rfl⟩
    case h_2 =>
      split at answered
      · obtain ⟨rfl, rfl⟩ := Prod.mk.inj (Option.some.inj answered)
        exact .inr ⟨rfl, rfl⟩
      · cases answered

theorem insertEvaluation_cases {makeRow : Int → EvaluationRow}
    {result : Except Failure EvaluationRow} (outside : input.Outside)
    (answered : insertEvaluation makeRow t input world = some (result, after)) :
    Raises result ∨ ∃ id, result = .ok (makeRow id) ∧
      after = world.addEvaluation t (makeRow id) := by
  unfold insertEvaluation at answered
  split at answered
  case h_1 failure fault =>
    obtain ⟨rfl, rfl⟩ := Prod.mk.inj (Option.some.inj answered)
    exact .inl (raises_fault outside fault)
  case h_2 =>
    simp only at answered
    split at answered
    case isTrue => cases answered
    case isFalse =>
      split at answered
      case h_1 =>
        obtain ⟨rfl, rfl⟩ := Prod.mk.inj (Option.some.inj answered)
        exact .inr ⟨_, rfl, rfl⟩
      case h_2 error _ =>
        obtain ⟨rfl, rfl⟩ := Prod.mk.inj (Option.some.inj answered)
        exact .inl ⟨_, rfl, by simp [shadowExternalActionDetected, Failure.conflict]⟩

/-- What the enqueuer's statement raises of its own. -/
theorem insertIntent_raises {outboxId : Int} {request : EnqueueRequest} {db : AlertDb}
    {failure : Failure}
    (refused : StockoutOps.Alerting.insertIntent outboxId request db = .error failure) :
    failure ≠ shadowExternalActionDetected := by
  rintro rfl
  unfold StockoutOps.Alerting.insertIntent enqueueInTransaction at refused
  split at refused
  case isFalse => cases refused
  case isTrue =>
    split at refused
    case isTrue => cases refused
    case isFalse =>
      obtain raised | ⟨answer, -, returned⟩ := bind_eq_error.mp refused
      · unfold liftSql at raised
        split at raised
        · cases raised
        · cases raised
      · cases returned

theorem insertIntent_cases {request : EnqueueRequest} {result : Except Failure (Option Int)}
    (outside : input.Outside)
    (answered : insertIntent request t input world = some (result, after)) :
    Raises result ∨ ∃ id, result = .ok id ∧
      (after.own t).evaluations = (world.own t).evaluations := by
  unfold insertIntent at answered
  split at answered
  case h_1 failure fault =>
    obtain ⟨rfl, rfl⟩ := Prod.mk.inj (Option.some.inj answered)
    exact .inl (raises_fault outside fault)
  case h_2 =>
    split at answered
    case h_1 failure refused =>
      obtain ⟨rfl, rfl⟩ := Prod.mk.inj (Option.some.inj answered)
      exact .inl ⟨failure, rfl, insertIntent_raises refused⟩
    case h_2 =>
      obtain ⟨rfl, rfl⟩ := Prod.mk.inj (Option.some.inj answered)
      exact .inr ⟨_, rfl, rfl⟩
    case h_3 =>
      split at answered
      case isTrue => cases answered
      case isFalse =>
        obtain ⟨rfl, rfl⟩ := Prod.mk.inj (Option.some.inj answered)
        exact .inr ⟨_, rfl, rfl⟩

theorem commit_cases {result : Except Failure Unit} (outside : input.Outside)
    (answered : commit t input world = some (result, after)) :
    Raises result ∨ result = .ok () ∧ after = world.commit t := by
  unfold commit at answered
  split at answered
  case h_1 =>
    obtain ⟨rfl, rfl⟩ := Prod.mk.inj (Option.some.inj answered)
    exact .inr ⟨rfl, rfl⟩
  case h_2 failure fault =>
    obtain ⟨rfl, rfl⟩ := Prod.mk.inj (Option.some.inj answered)
    exact .inl (raises_fault outside fault)

end RecordStatement

/-! ## What `record` answers -/

/-- The evaluation is that of an event of the request's alert and payload. -/
structure ReadFrom (platform : EvaluationPlatform) (request : RecordRequest)
    (event : EvaluationRow) (evaluation : AlertEvaluation) : Prop where
  ofAlert : event.ofAlert request.principal.tenantId (request.fingerprint platform) = true
  payloadHash : event.payloadHash = request.payloadHash platform
  same : evaluation = rowToEvaluation platform event evaluation.idempotentReplay

/-- The answer inside the transaction: the event is committed, or it is the caller's. -/
def Told (platform : EvaluationPlatform) (t : Caller) (request : RecordRequest) :
    Except Failure AlertEvaluation → RecordWorld → Prop
  | .ok evaluation, world => ∃ event ∈ (world.ownDb t).evaluations,
      ReadFrom platform request event evaluation ∧
        (evaluation.idempotentReplay = false → event ∈ (world.own t).evaluations)
  | .error failure, _ => failure ≠ shadowExternalActionDetected

/-- The answer of the call: the event is committed, by the caller unless replayed. -/
def Evaluated (platform : EvaluationPlatform) (t : Caller) (request : RecordRequest) :
    Except Failure AlertEvaluation → RecordWorld → Prop
  | .ok evaluation, world => ∃ event ∈ world.db.evaluations,
      ReadFrom platform request event evaluation ∧
        (evaluation.idempotentReplay = false → (t, event) ∈ world.log)
  | .error failure, _ => failure ≠ shadowExternalActionDetected

section Answers

variable {platform : EvaluationPlatform} {calls : Caller → Submission} {t : Caller}
  {world later : RecordWorld} {request : RecordRequest} {ρ : Type}
  {result : Except Failure AlertEvaluation} {evaluation : AlertEvaluation}
  {event : EvaluationRow}

theorem ReadFrom.tenantId (read : ReadFrom platform request event evaluation) :
    event.tenantId = request.principal.tenantId := by
  have ofAlert := read.ofAlert
  simp only [EvaluationRow.ofAlert, Bool.and_eq_true, beq_iff_eq] at ofAlert
  exact ofAlert.1

theorem ReadFrom.fingerprint (read : ReadFrom platform request event evaluation) :
    event.alertFingerprint = request.fingerprint platform := by
  have ofAlert := read.ofAlert
  simp only [EvaluationRow.ofAlert, Bool.and_eq_true, beq_iff_eq] at ofAlert
  exact ofAlert.2

theorem ReadFrom.state (read : ReadFrom platform request event evaluation) :
    evaluation.state = event.state := by
  rw [read.same]
  rfl

theorem RecordWorld.Rely.mem_evaluations (rely : world.Rely platform t later)
    (member : event ∈ world.db.evaluations) : event ∈ later.db.evaluations := by
  obtain ⟨grown, same, -⟩ := rely.grown
  rw [same]
  exact List.mem_append_left _ member

theorem RecordWorld.Rely.mem_ownDb (rely : world.Rely platform t later)
    (member : event ∈ (world.ownDb t).evaluations) : event ∈ (later.ownDb t).evaluations := by
  rcases List.mem_append.mp member with committed | own
  · exact List.mem_append_left _ (rely.mem_evaluations committed)
  · exact List.mem_append_right _ (rely.own ▸ own)

theorem Told.rely (told : Told platform t request result world)
    (rely : world.Rely platform t later) : Told platform t request result later := by
  cases result with
  | error failure => exact told
  | ok evaluation =>
      obtain ⟨event, member, ofEvent, own⟩ := told
      exact ⟨event, rely.mem_ownDb member, ofEvent, fun stored => rely.own ▸ own stored⟩

theorem Evaluated.rely (evaluated : Evaluated platform t request result world)
    (rely : world.Rely platform t later) : Evaluated platform t request result later := by
  cases result with
  | error failure => exact evaluated
  | ok evaluation =>
      obtain ⟨event, member, ofEvent, logged⟩ := evaluated
      exact ⟨event, rely.mem_evaluations member, ofEvent,
        fun stored => (rely.log event).mpr (logged stored)⟩

/-- The program, alone with what the caller relies on. -/
abbrev Watched (platform : EvaluationPlatform) (calls : Caller → Submission) (t : Caller)
    {α : Type} (program : RecordProgram α) (Post : Except Failure α → RecordWorld → Prop)
    (world : RecordWorld) : Prop :=
  ((recordDiscipline platform calls).observing t RecordInput.Outside).Safe t program Post world

theorem watched_statement {statement : RecordStatement ρ}
    {follow : ρ → RecordProgram α} {Post : Except Failure α → RecordWorld → Prop}
    (raised : ∀ failure, failure ≠ shadowExternalActionDetected → ∀ last,
      Post (.error failure) last)
    (answers : ∀ later, world.Rely platform t later → ∀ input result after, input.Outside →
      statement t input later = some (result, after) →
        Raises result ∨ ∃ value, result = .ok value ∧
          Watched platform calls t (follow value) Post after) :
    Watched platform calls t (Call.exec statement >>= follow) Post world := by
  refine Discipline.Safe.call_bind (Discipline.Safe.exec fun later rely _ =>
    ⟨.inr trivial, fun input result after allowed answered =>
      ⟨Discipline.observing_guarantee _ _ _ _ _, fun last relyLast _ => ?_⟩⟩)
  obtain ⟨failure, rfl, other⟩ | ⟨value, rfl, rest⟩ :=
    answers later (rely rfl) input result after allowed answered
  · exact fun final _ _ => raised failure other final
  · exact Discipline.Safe.rely rest relyLast

theorem watched_query {read : AlertDb → ρ} {follow : ρ → RecordProgram AlertEvaluation}
    (own : world.own t = .empty)
    (safe : ∀ later : RecordWorld, later.own t = .empty →
      Watched platform calls t (follow (read later.db)) (Told platform t request) later) :
    Watched platform calls t (Call.exec (RecordStatement.query read) >>= follow)
      (Told platform t request) world := by
  refine watched_statement (fun _ other _ => other)
    fun later rely input result after outside answered => ?_
  have ownLater : later.own t = .empty := rely.own.trans own
  obtain ⟨rfl, raises | rfl⟩ := RecordStatement.query_cases outside answered
  · exact .inl raises
  · refine .inr ⟨_, rfl, ?_⟩
    rw [RecordWorld.ownDb, ownLater, AlertDb.grow_empty]
    exact safe _ ownLater

theorem watched_told (told : Told platform t request result world) :
    Watched platform calls t (Prog.ret result) (Told platform t request) world :=
  fun _ rely _ => told.rely (rely rfl)

theorem watched_raise {failure : Failure} (other : failure ≠ shadowExternalActionDetected) :
    Watched platform calls t (Call.raise failure) (Told platform t request) world :=
  fun _ _ _ => other

/-- The row that the caller has inserted is its answer. -/
theorem told_own {row : EvaluationRow} (own : (world.own t).evaluations = [row])
    (ofRow : ReadFrom platform request row (rowToEvaluation platform row false)) :
    Told platform t request (.ok (rowToEvaluation platform row false)) world := by
  have member : row ∈ (world.own t).evaluations := by
    rw [own]
    exact List.mem_singleton.mpr rfl
  exact ⟨row, List.mem_append_right _ member, ofRow, fun _ => member⟩

/-- A row of the alert's history is the answer of a replay. -/
theorem told_replay {row : EvaluationRow} {keep : EvaluationRow → Bool}
    (own : world.own t = .empty)
    (found : (world.db.history request.principal.tenantId
      (request.fingerprint platform)).find? keep = some row)
    (hash : row.payloadHash = request.payloadHash platform) :
    Told platform t request (.ok (rowToEvaluation platform row true)) world := by
  obtain ⟨member, ofAlert⟩ := List.mem_filter.mp (List.mem_of_find?_eq_some found)
  refine ⟨row, ?_, ⟨ofAlert, hash, rfl⟩, nofun⟩
  rw [RecordWorld.ownDb, own, AlertDb.grow_empty]
  exact member

/-- The transaction of `record` answers. -/
theorem watched_recordTransaction {body : RecordProgram AlertEvaluation}
    (watched : Watched platform calls t body (Told platform t request) world) :
    Watched platform calls t (recordTransaction body) (Evaluated platform t request) world := by
  refine Discipline.Safe.attempt_bind (Discipline.Safe.mono (fun result last _ told => ?_) watched)
  cases result with
  | error failure =>
      refine watched_statement (fun _ other _ => other)
        fun later rely input result after outside answered => ?_
      obtain ⟨rfl, rfl⟩ := Prod.mk.inj (Option.some.inj answered)
      exact .inr ⟨(), rfl, fun _ _ _ => told⟩
  | ok evaluation =>
      refine watched_statement (fun _ other _ => other)
        fun later rely input result after outside answered => ?_
      obtain raises | ⟨rfl, rfl⟩ := RecordStatement.commit_cases outside answered
      · exact .inl raises
      · refine .inr ⟨(), rfl, fun final relyFinal _ => Evaluated.rely ?_ (relyFinal rfl)⟩
        obtain ⟨event, member, ofEvent, own⟩ := told.rely rely
        refine ⟨event, member, ofEvent, fun stored => List.mem_append_right _ ?_⟩
        exact List.mem_map_of_mem (own stored)

/-- `record`, from the inside: whatever the others do, the evaluation that it returns is
that of a committed event of its payload. -/
theorem watched_record {submission : Submission} (own : world.own t = .empty) :
    Watched platform calls t (submission.program platform)
      (Evaluated platform t submission.request) world := by
  unfold Submission.program AlertRepository.record
  split
  case isTrue =>
    exact fun _ _ _ => by simp [Evaluated, shadowExternalActionDetected, Failure.conflict]
  case isFalse =>
  refine watched_recordTransaction (watched_statement (fun _ other _ => other)
    fun first relyFirst input result after outside answered => ?_)
  obtain raises | ⟨rfl, kept⟩ := RecordStatement.advisoryXactLock_cases outside answered
  · exact .inl raises
  have ownFirst : after.own t = .empty := kept.trans (relyFirst.own.trans own)
  refine .inr ⟨(), rfl, watched_query ownFirst fun second ownSecond => ?_⟩
  cases bound : second.db.evaluationByKey? submission.request.principal.tenantId
      (submission.request.fingerprint platform) submission.request.idempotencyKey with
  | some existing =>
      simp only
      split
      case isTrue =>
        exact watched_raise (by
          simp [alertIdempotencyConflict, shadowExternalActionDetected, Failure.conflict])
      case isFalse same => exact watched_told (told_replay ownSecond bound (not_not.mp same))
  | none =>
      refine watched_query ownSecond fun third ownThird => ?_
      cases seen : third.db.evaluationByPayload? submission.request.principal.tenantId
          (submission.request.fingerprint platform) (submission.request.payloadHash platform) with
      | some duplicate =>
          have hash := List.find?_some seen
          exact watched_told (told_replay ownThird seen (beq_iff_eq.mp hash))
      | none =>
          refine watched_query ownThird fun fourth ownFourth => ?_
          refine watched_statement (fun _ other _ => other)
            fun last relyLast input result stored outside answered => ?_
          obtain raises | ⟨id, rfl, rfl⟩ := RecordStatement.insertEvaluation_cases outside answered
          · exact .inl raises
          refine .inr ⟨_, rfl, ?_⟩
          have ownLast : last.own t = .empty := relyLast.own.trans ownFourth
          have inserted : ∀ row, ((last.addEvaluation t row).own t).evaluations = [row] := by
            intro row
            have before := congrArg RecordTx.evaluations ownLast
            simpa [RecordWorld.own, RecordWorld.addEvaluation, ownRows_append_self, RecordTx.empty]
              using before
          have ofRow : ∀ previous, ReadFrom platform submission.request
              (submission.request.row platform previous id)
              (rowToEvaluation platform (submission.request.row platform previous id) false) :=
            fun previous => ⟨by simp [EvaluationRow.ofAlert, RecordRequest.row], rfl, rfl⟩
          cases submission.repository.deliveryEnqueuer with
          | none => exact watched_told (told_own (inserted _) (ofRow _))
          | some enqueuer =>
              simp only [WebhookOutboxEnqueuer.enqueue]
              split
              case isFalse => exact watched_told (told_own (inserted _) (ofRow _))
              case isTrue =>
                refine watched_statement (fun _ other _ => other)
                  fun final relyFinal input result after outside answered => ?_
                obtain raises | ⟨id, rfl, kept⟩ :=
                  RecordStatement.insertIntent_cases outside answered
                · exact .inl raises
                · refine .inr ⟨id, rfl, watched_told (told_own ?_ (ofRow _))⟩
                  rw [kept, relyFinal.own]
                  exact inserted _

end Answers

end StockoutOps.Alerting
