import Mathlib.Data.List.Infix
import StockoutOps.Alerting.Repository

/-!
Contract: the tables that calls of `AlertRepository.record` leave behind.

Owns: the histories that atomic calls build (`CallHistory`), and what holds of
each of them: the identity columns, the events with the calls that stored
them, the state every event starts from, and the intents.

Does not own: why interleaved calls build no other histories.

The sequence of evaluation ids is shared by all alerts, so ids increase within
one alert's history only.
-/

namespace StockoutOps.Alerting

open StockoutOps.Sql

variable {τ : Type} {platform : EvaluationPlatform} {calls : τ → Submission}

/-- The tables after some calls, each one atomic, and the events stored so far
with the calls that stored them. -/
inductive CallHistory (platform : EvaluationPlatform) (calls : τ → Submission) :
    List (τ × EvaluationRow) → AlertDb → Prop where
  | empty : CallHistory platform calls [] AlertDb.empty
  | call {t : τ} {log : List (τ × EvaluationRow)} {db next : AlertDb} {ids : RecordIds}
      {evaluation : AlertEvaluation} (before : CallHistory platform calls log db)
      (increasing : ∀ row ∈ db.history (calls t).request.principal.tenantId
        ((calls t).request.fingerprint platform), row.alertEvaluationId < ids.evaluationId)
      (returned : (calls t).repository.recordAtomically platform (calls t).request ids db =
        .ok (evaluation, next))
      (stored : evaluation.idempotentReplay = false) :
      CallHistory platform calls (log ++ [(t, db.newEvent platform (calls t).request ids)]) next

/-! ## The latest state -/

/-- The state of the last measured event. -/
def lastState (events : List EvaluationRow) : Option AlertState :=
  ((events.filter (·.state.isSome)).getLast?).bind (·.state)

theorem latestRow_eq_getLast? {events : List EvaluationRow}
    (increasing : events.Pairwise (fun left right =>
      left.alertEvaluationId < right.alertEvaluationId)) :
    latestRow events = events.getLast? := by
  induction events with
  | nil => rfl
  | cons event rest inductionHypothesis =>
      obtain ⟨below, others⟩ := List.pairwise_cons.mp increasing
      rw [latestRow, inductionHypothesis others, List.getLast?_cons]
      cases last : rest.getLast? with
      | none => rfl
      | some row =>
          have above := below row (List.mem_of_getLast? last)
          simp [Int.not_lt.mpr (Int.le_of_lt above)]

/-- In an ordered history the query finds the last measured event. -/
theorem latestMeasured?_state {db : AlertDb} {tenantId fingerprint : String}
    (increasing : (db.history tenantId fingerprint).Pairwise (fun left right =>
      left.alertEvaluationId < right.alertEvaluationId)) :
    (db.latestMeasured? tenantId fingerprint).bind (·.state) =
      lastState (db.history tenantId fingerprint) := by
  rw [AlertDb.latestMeasured?, latestRow_eq_getLast? (increasing.filter _)]
  rfl

/-! ## The invariant -/

/-- The event is stored by `submission`, from the state of the events before it. -/
structure StoredBy (platform : EvaluationPlatform) (submission : Submission)
    (before : List EvaluationRow) (event : EvaluationRow) : Prop where
  ownTenant : submission.request.snapshot.correlation.tenantId =
    submission.request.principal.tenantId
  row : event = submission.request.row platform (lastState before) event.alertEvaluationId

structure HistoryInvariant (platform : EvaluationPlatform) (calls : τ → Submission)
    (log : List (τ × EvaluationRow)) (db : AlertDb) : Prop where
  events : log.map Prod.snd = db.evaluations
  uniqueIds : (db.evaluations.map (·.alertEvaluationId)).Nodup
  increasing : ∀ tenantId fingerprint, (db.history tenantId fingerprint).Pairwise
    (fun left right => left.alertEvaluationId < right.alertEvaluationId)
  stored : ∀ tenantId fingerprint before event,
    before ++ [event] <+: db.history tenantId fingerprint →
      ∃ t, (t, event) ∈ log ∧ StoredBy platform (calls t) before event
  owners : ∀ row ∈ db.outbox, ∃ event ∈ db.evaluations,
    event.alertEvaluationId = row.evaluationId

theorem historyInvariant_empty : HistoryInvariant platform calls [] AlertDb.empty where
  events := rfl
  uniqueIds := List.nodup_nil
  increasing := fun _ _ => List.Pairwise.nil
  stored := by simp [AlertDb.history, AlertDb.empty]
  owners := by simp [AlertDb.empty]

theorem newEvent_alert {request : RecordRequest} {ids : RecordIds} {db : AlertDb}
    {tenantId fingerprint : String}
    (ofAlert : (db.newEvent platform request ids).ofAlert tenantId fingerprint = true) :
    request.principal.tenantId = tenantId ∧ request.fingerprint platform = fingerprint := by
  simpa [EvaluationRow.ofAlert, AlertDb.newEvent, RecordRequest.row] using ofAlert

/-- A call that is no replay stored its event, and perhaps an intent. -/
theorem recording_stored {submission : Submission} {ids : RecordIds} {db next : AlertDb}
    {evaluation : AlertEvaluation}
    (returned : submission.repository.recordAtomically platform submission.request ids db =
      .ok (evaluation, next)) (stored : evaluation.idempotentReplay = false) :
    submission.request.snapshot.correlation.tenantId = submission.request.principal.tenantId ∧
      (∀ row ∈ db.evaluations, ¬ row.Clashes (db.newEvent platform submission.request ids)) ∧
      Enqueued platform submission.repository submission.request
        (db.newEvent platform submission.request ids)
        { db with evaluations := db.evaluations ++ [db.newEvent platform submission.request ids] }
        next := by
  obtain ⟨tenant, recording⟩ := recordAtomically_eq_ok.mp returned
  cases recording with
  | replayedKey bound hash => cases stored
  | replayedPayload unbound found => cases stored
  | inserted unbound unseen insert enqueued =>
      obtain ⟨-, apart, rfl⟩ := insertEvaluation_eq_ok.mp insert
      exact ⟨tenant, apart, enqueued_of_ok enqueued⟩

section Step

variable {t : τ} {log : List (τ × EvaluationRow)} {db next : AlertDb} {ids : RecordIds}
  {evaluation : AlertEvaluation}

theorem historyInvariant_call (invariant : HistoryInvariant platform calls log db)
    (increasing : ∀ row ∈ db.history (calls t).request.principal.tenantId
      ((calls t).request.fingerprint platform), row.alertEvaluationId < ids.evaluationId)
    (returned : (calls t).repository.recordAtomically platform (calls t).request ids db =
      .ok (evaluation, next)) (stored : evaluation.idempotentReplay = false) :
    HistoryInvariant platform calls
      (log ++ [(t, db.newEvent platform (calls t).request ids)]) next := by
  obtain ⟨tenant, apart, enqueued⟩ := recording_stored returned stored
  have appended := enqueued.evaluations
  refine ⟨?_, ?_, fun tenantId fingerprint => ?_,
    fun tenantId fingerprint before event inside => ?_,
    fun row member => ?_⟩
  · rw [List.map_append, invariant.events, appended]
    rfl
  · rw [appended, List.map_append, List.map_singleton]
    refine List.Nodup.append invariant.uniqueIds (List.nodup_singleton _) ?_
    intro id old new
    obtain ⟨row, member, rfl⟩ := List.mem_map.mp old
    exact apart row member (.inl (List.mem_singleton.mp new))
  · rw [history_append appended]
    refine List.pairwise_append.mpr ⟨invariant.increasing tenantId fingerprint,
      List.Pairwise.filter _ (List.pairwise_singleton _ _), fun row member last new => ?_⟩
    obtain ⟨single, ofAlert⟩ := List.mem_filter.mp new
    obtain rfl := List.mem_singleton.mp single
    obtain ⟨rfl, rfl⟩ := newEvent_alert ofAlert
    exact increasing row member
  · rw [history_append appended] at inside
    cases ofAlert : (db.newEvent platform (calls t).request ids).ofAlert tenantId fingerprint with
    | false =>
        rw [List.filter_cons_of_neg (by simp [ofAlert]), List.filter_nil, List.append_nil] at inside
        obtain ⟨u, member, from_⟩ := invariant.stored tenantId fingerprint before event inside
        exact ⟨u, List.mem_append_left _ member, from_⟩
    | true =>
        rw [List.filter_cons_of_pos ofAlert, List.filter_nil] at inside
        rcases List.prefix_concat_iff.mp inside with last | earlier
        · obtain ⟨rfl, single⟩ := List.append_inj' last rfl
          obtain rfl := List.singleton_inj.mp single
          obtain ⟨rfl, rfl⟩ := newEvent_alert ofAlert
          refine ⟨t, List.mem_append_right _ (List.mem_singleton.mpr rfl), tenant, ?_⟩
          rw [← latestMeasured?_state (invariant.increasing _ _)]
          rfl
        · obtain ⟨u, member, from_⟩ := invariant.stored tenantId fingerprint before event earlier
          exact ⟨u, List.mem_append_left _ member, from_⟩
  · obtain old | ⟨-, id⟩ := enqueued.outbox row member
    · obtain ⟨event, eventMember, same⟩ := invariant.owners row old
      exact ⟨event, appended ▸ List.mem_append_left _ eventMember, same⟩
    · exact ⟨_, appended ▸ List.mem_append_right _ (List.mem_singleton.mpr rfl), id.symm⟩

theorem CallHistory.invariant (history : CallHistory platform calls log db) :
    HistoryInvariant platform calls log db := by
  induction history with
  | empty => exact historyInvariant_empty
  | call before increasing returned stored inductionHypothesis =>
      exact historyInvariant_call inductionHypothesis increasing returned stored

end Step

section Events

variable {log : List (τ × EvaluationRow)} {db : AlertDb}

/-- An event has its place in the history of its alert, where one call has stored it. -/
theorem HistoryInvariant.place (invariant : HistoryInvariant platform calls log db)
    {tenantId fingerprint : String} {event : EvaluationRow}
    (member : event ∈ db.history tenantId fingerprint) :
    ∃ t before after, (t, event) ∈ log ∧
      db.history tenantId fingerprint = before ++ event :: after ∧
      StoredBy platform (calls t) before event := by
  obtain ⟨before, after, split⟩ := List.append_of_mem member
  obtain ⟨t, logged, stored⟩ := invariant.stored tenantId fingerprint before event
    ⟨after, by simp [split]⟩
  exact ⟨t, before, after, logged, split, stored⟩

/-- The event of a row is stored by one call. -/
theorem HistoryInvariant.log_unique (invariant : HistoryInvariant platform calls log db)
    {entry other : τ × EvaluationRow} (member : entry ∈ log) (otherMember : other ∈ log)
    (same : entry.2.alertEvaluationId = other.2.alertEvaluationId) : entry = other := by
  have unique := invariant.uniqueIds
  rw [← invariant.events, List.map_map] at unique
  exact List.inj_on_of_nodup_map unique member otherMember same

/-- The column that `_row_to_evaluation` validates holds the dump of a correlation. -/
theorem HistoryInvariant.correlation (invariant : HistoryInvariant platform calls log db)
    {event : EvaluationRow} (member : event ∈ db.evaluations) :
    ∃ correlation : AlertCorrelation, event.correlationJson = correlation.toJson := by
  have inside : event ∈ db.history event.tenantId event.alertFingerprint :=
    List.mem_filter.mpr ⟨member, by simp [EvaluationRow.ofAlert]⟩
  obtain ⟨t, before, -, -, -, stored⟩ := invariant.place inside
  exact ⟨(calls t).request.snapshot.correlation, congrArg (·.correlationJson) stored.row⟩

end Events

end StockoutOps.Alerting
