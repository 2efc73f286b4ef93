import StockoutOps.Alerting.Repository

/-!
Contract: what an alert idempotency key is bound to.

Owns: sequences of calls of `AlertRepository.record`, the binding of a key to
one payload, and the branch that leaves a key unbound.

Does not own: interleaved calls.

A call that returns has found an event under its key, has stored one, or has
found its payload under another key. Only the last stores nothing under the
caller's key, so a later call can still claim the key for another payload.
-/

namespace StockoutOps.Alerting

open StockoutOps.Sql

/-- A call of `record`, with the values its sequences hand out. -/
structure EvaluationCall extends Submission where
  ids : RecordIds

def EvaluationCall.run (platform : EvaluationPlatform) (call : EvaluationCall) :
    AlertTx AlertEvaluation :=
  call.repository.recordAtomically platform call.request call.ids

/-- The tables after a call; a call that raises leaves them alone. -/
def AlertDb.afterCall (platform : EvaluationPlatform) (db : AlertDb) (call : EvaluationCall) :
    AlertDb :=
  match call.run platform db with
  | .ok (_, next) => next
  | .error _ => db

def AlertDb.afterCalls (platform : EvaluationPlatform) (db : AlertDb)
    (calls : List EvaluationCall) : AlertDb :=
  calls.foldl (AlertDb.afterCall platform) db

/-- The requests name the same alert and the same idempotency key. -/
structure SameKey (platform : EvaluationPlatform) (first later : RecordRequest) : Prop where
  ownTenant : later.snapshot.correlation.tenantId = later.principal.tenantId
  tenantId : later.principal.tenantId = first.principal.tenantId
  fingerprint : later.fingerprint platform = first.fingerprint platform
  idempotencyKey : later.idempotencyKey = first.idempotencyKey

/-- The call would replay the event of its payload under a key of its own that
has none. -/
def ReplaysUnboundKey (platform : EvaluationPlatform) (db : AlertDb) (request : RecordRequest) :
    Prop :=
  request.snapshot.correlation.tenantId = request.principal.tenantId ∧
    db.boundEvent? platform request = none ∧ (db.payloadEvent? platform request).isSome = true

/-- The key of `request` answers with the same event for the same payload, and
refuses every other payload. -/
structure KeyBound (platform : EvaluationPlatform) (request : RecordRequest)
    (evaluation : AlertEvaluation) (later : EvaluationCall) (db : AlertDb) : Prop where
  replay : later.request.payloadHash platform = request.payloadHash platform →
    ∃ replayed, later.run platform db = .ok (replayed, db) ∧
      replayed.alertEvaluationId = evaluation.alertEvaluationId
  refuse : later.request.payloadHash platform ≠ request.payloadHash platform →
    later.run platform db = .error alertIdempotencyConflict ∧
      db.afterCall platform later = db

/-- Every call of the run that returns binds its key for the rest of the run. -/
def KeysBindPayloads (platform : EvaluationPlatform) (db : AlertDb)
    (calls : List EvaluationCall) : Prop :=
  ∀ before call between later after evaluation next,
    calls = before ++ call :: (between ++ later :: after) →
    call.run platform (db.afterCalls platform before) = .ok (evaluation, next) →
    SameKey platform call.request later.request →
    KeyBound platform call.request evaluation later
      (db.afterCalls platform (before ++ call :: between))

section Binding

variable {platform : EvaluationPlatform} {db next : AlertDb} {call : EvaluationCall}
  {request : RecordRequest} {evaluation : AlertEvaluation}

/-- Events are only added. -/
theorem evaluations_of_run (returned : call.run platform db = .ok (evaluation, next)) :
    ∃ added, next.evaluations = db.evaluations ++ added := by
  obtain ⟨-, recorded⟩ := recordAtomically_eq_ok.mp returned
  cases recorded with
  | replayedKey bound hash => exact ⟨[], (List.append_nil _).symm⟩
  | replayedPayload unbound found => exact ⟨[], (List.append_nil _).symm⟩
  | inserted unbound unseen stored enqueued =>
      obtain ⟨-, -, rfl⟩ := insertEvaluation_eq_ok.mp stored
      exact ⟨_, (enqueued_of_ok enqueued).evaluations⟩

theorem boundEvent?_append {added : List EvaluationRow} {event : EvaluationRow}
    (appended : next.evaluations = db.evaluations ++ added)
    (bound : db.boundEvent? platform request = some event) :
    next.boundEvent? platform request = some event := by
  unfold AlertDb.boundEvent? AlertDb.evaluationByKey? at bound ⊢
  rw [history_append appended, List.find?_append, bound]
  rfl

theorem boundEvent?_afterCalls {event : EvaluationRow} (calls : List EvaluationCall)
    (bound : db.boundEvent? platform request = some event) :
    (db.afterCalls platform calls).boundEvent? platform request = some event := by
  induction calls generalizing db with
  | nil => exact bound
  | cons call rest inductionHypothesis =>
      refine inductionHypothesis ?_
      unfold AlertDb.afterCall
      split
      case h_1 evaluation next returned =>
        obtain ⟨added, appended⟩ := evaluations_of_run returned
        exact boundEvent?_append appended bound
      case h_2 => exact bound

/-- A call that returns, other than by replay under an unbound key, leaves its
payload's event under its key. -/
theorem boundEvent?_of_run (returned : call.run platform db = .ok (evaluation, next))
    (binds : ¬ ReplaysUnboundKey platform db call.request) :
    ∃ event, next.boundEvent? platform call.request = some event ∧
      event.payloadHash = call.request.payloadHash platform ∧
      event.alertEvaluationId = evaluation.alertEvaluationId := by
  obtain ⟨tenant, recorded⟩ := recordAtomically_eq_ok.mp returned
  cases recorded with
  | @replayedKey existing bound hash => exact ⟨existing, bound, hash, rfl⟩
  | replayedPayload unbound found =>
      exact absurd ⟨tenant, unbound, by rw [found]; rfl⟩ binds
  | inserted unbound unseen stored enqueued =>
      obtain ⟨-, -, rfl⟩ := insertEvaluation_eq_ok.mp stored
      refine ⟨db.newEvent platform call.request call.ids, ?_, rfl, rfl⟩
      have appended := (enqueued_of_ok enqueued).evaluations
      unfold AlertDb.boundEvent? AlertDb.evaluationByKey? at unbound ⊢
      rw [history_append appended, List.find?_append, unbound,
        List.filter_cons_of_pos (newEvent_ofAlert _ _ _ _)]
      simp [AlertDb.newEvent, RecordRequest.row]

theorem keyBound_of_boundEvent {later : EvaluationCall} {event : EvaluationRow}
    (bound : db.boundEvent? platform request = some event)
    (hash : event.payloadHash = request.payloadHash platform)
    (id : event.alertEvaluationId = evaluation.alertEvaluationId)
    (same : SameKey platform request later.request) :
    KeyBound platform request evaluation later db := by
  have boundLater : db.boundEvent? platform later.request = some event := by
    rw [← bound, AlertDb.boundEvent?, same.tenantId, same.fingerprint, same.idempotencyKey]
    rfl
  constructor
  · intro payload
    refine ⟨_, recordAtomically_eq_ok.mpr ⟨same.ownTenant, .replayedKey boundLater ?_⟩, id⟩
    rw [hash, payload]
  · intro payload
    have refused : later.run platform db = .error alertIdempotencyConflict :=
      recordAtomically_conflict same.ownTenant boundLater (by rw [hash]; exact payload.symm)
    exact ⟨refused, by rw [AlertDb.afterCall, refused]⟩

/-- Without an enqueuer a storable request is stored when neither its key nor its
payload has an event. -/
theorem run_inserts (storable : call.request.Storable)
    (plain : call.repository.deliveryEnqueuer = none)
    (unbound : db.boundEvent? platform call.request = none)
    (unseen : db.payloadEvent? platform call.request = none)
    (fresh : ∀ row ∈ db.evaluations, row.alertEvaluationId ≠ call.ids.evaluationId) :
    call.run platform db =
      .ok (rowToEvaluation platform (db.newEvent platform call.request call.ids) false,
        { db with evaluations := db.evaluations ++
            [db.newEvent platform call.request call.ids] }) := by
  refine recordAtomically_eq_ok.mpr ⟨storable.tenantId, .inserted unbound unseen
    (insertEvaluation_eq_ok.mpr ⟨storable.checks .., fun row member => ?_, rfl⟩) ?_⟩
  · rintro (sameId | ⟨tenantId, fingerprint, same⟩)
    · exact fresh row member sameId
    have ofAlert : row ∈ db.history call.request.principal.tenantId
        (call.request.fingerprint platform) :=
      List.mem_filter.mpr ⟨member, by
        simpa [EvaluationRow.ofAlert] using ⟨tenantId, fingerprint⟩⟩
    rcases same with key | payload
    · have differs := List.find?_eq_none.mp unbound row ofAlert
      exact differs (beq_iff_eq.mpr key)
    · have differs := List.find?_eq_none.mp unseen row ofAlert
      exact differs (beq_iff_eq.mpr payload)
  · rw [AlertRepository.enqueueEvent, plain]

end Binding

/-- A run in which no call replays under an unbound key binds every key it uses. -/
theorem keys_bind_payloads (platform : EvaluationPlatform) (db : AlertDb)
    (calls : List EvaluationCall)
    (binds : ∀ before call after, calls = before ++ call :: after →
      ¬ ReplaysUnboundKey platform (db.afterCalls platform before) call.request) :
    KeysBindPayloads platform db calls := by
  intro before call between later after evaluation next split returned same
  obtain ⟨event, bound, hash, id⟩ := boundEvent?_of_run returned (binds before call _ split)
  refine keyBound_of_boundEvent ?_ hash id same
  have ran : db.afterCalls platform (before ++ call :: between) =
      next.afterCalls platform between := by
    rw [AlertDb.afterCalls, List.foldl_append, List.foldl_cons]
    change ((db.afterCalls platform before).afterCall platform call).afterCalls platform between = _
    rw [AlertDb.afterCall, returned]
  rw [ran]
  exact boundEvent?_afterCalls between bound

/-! ### A key that was only replayed -/

/-- The payload hashes of the requests below, by window. -/
def windowDigest (windowId : String) : String :=
  if windowId = "window-1" then "f2b8752e9ac08d29344061bdbc77af1666557d3cdef0ae7da2246f73e642a4ea"
  else if windowId = "window-2" then
    "77b9e6fb707f9ad6ee5a12136b321ae7a7945edc38667fc31ebaf5b672011de2"
  else "f157bcfa135d95dbe82a04d6233ded7b46aa923794ee322c33bec624b4addb43"

/-- The hashes and the lock key of the source, on the values below. -/
def localPlatform : EvaluationPlatform where
  sha256Text := fun text =>
    if isHex64 text then text else String.ofList (List.replicate 64 '0')
  canonicalJson := fun value =>
    match (value.member? "snapshot").bind (·.member? "window_id") with
    | some (.str windowId) => windowDigest windowId
    | _ => "fffac496cedabd494923c9b78ba329f9c866bcd8a80c21de2899a1ac10bd2b23"
  isoUtc := fun _ => "1970-01-01T00:00:00Z"
  isoformat := fun _ => "1970-01-01T00:00:00+00:00"
  sha256Text_hex := by
    intro text
    split
    · assumption
    · decide
  lockKey := fun _ => 1528754615438657797
  toNumeric := id
  ofNumeric := id

theorem length_demo : lengthBetween 1 100 "demo" = true := by decide

theorem length_unnamed : nullOr (lengthBetween 1 100) none = true := rfl

/-- No external action in the window: the alert is fine. -/
def quietRequest (windowId idempotencyKey : String)
    (windowId_length : lengthBetween 1 200 windowId = true) : RecordRequest where
  principal := ⟨"operator-1", "demo", ["operator"]⟩
  snapshot :=
    { correlation := ⟨"demo", none, none, length_demo, length_unnamed, length_unnamed⟩
      windowId := windowId
      sourceReportSha256 := String.ofList (List.replicate 64 'c')
      evidenceLabel := .simulated
      caseCount := 1
      escalationDisagreementCount := none
      missingRequiredEvidenceCount := none
      unsupportedClaimCount := none
      externalActionCount := some 0
      shadowProcessingFailureCount := none
      deterministicProviderLatencyMs := none
      windowId_length := windowId_length
      sourceReportSha256_hex := by decide
      latency_nonneg := rfl
      disagreement_le := rfl
      failure_le := rfl
      simulated := rfl }
  assessment :=
    { policyId := "shadow-external-action-safety"
      policyVersion := "m2-alert-policy-v1"
      metricName := .externalActionCount
      severity := .sev1
      measurementStatus := .evaluated
      thresholdClassification := .target
      thresholdValue := .finite 0
      window := "one tenant-scoped shadow report batch"
      observedValue := some (.finite 0)
      breached := some false
      evaluated_iff := by decide }
  idempotencyKey := idempotencyKey
  evaluatedAt := 0

theorem quietRequest_storable {windowId idempotencyKey : String}
    {windowId_length : lengthBetween 1 200 windowId = true}
    (key : lengthBetween 1 500 idempotencyKey = true) :
    (quietRequest windowId idempotencyKey windowId_length).Storable where
  tenantId := rfl
  actorId := (by decide : 0 < "operator-1".length)
  policyId := (by decide : 0 < "shadow-external-action-safety".length)
  policyVersion := (by decide : 0 < "m2-alert-policy-v1".length)
  window := (by decide : 0 < "one tenant-scoped shadow report batch".length)
  idempotencyKey := key
  unmeasured := nofun

theorem length_firstWindow : lengthBetween 1 200 "window-1" = true := by decide

theorem length_secondWindow : lengthBetween 1 200 "window-2" = true := by decide

/-- The quiet window reported under a key. -/
def firstWindow (idempotencyKey : String) (id : Int) : EvaluationCall :=
  ⟨⟨⟨none⟩, quietRequest "window-1" idempotencyKey length_firstWindow⟩, ⟨id, id⟩⟩

def secondWindow (idempotencyKey : String) (id : Int) : EvaluationCall :=
  ⟨⟨⟨none⟩, quietRequest "window-2" idempotencyKey length_secondWindow⟩, ⟨id, id⟩⟩

theorem payloadHash_of_window {windowId idempotencyKey : String}
    {windowId_length : lengthBetween 1 200 windowId = true}
    (hex : isHex64 (windowDigest windowId) = true) :
    (quietRequest windowId idempotencyKey windowId_length).payloadHash localPlatform =
      windowDigest windowId := by
  have dumped : localPlatform.canonicalJson (.obj
      [("snapshot", (quietRequest windowId idempotencyKey windowId_length).snapshot.toJson),
        ("assessment", (quietRequest windowId idempotencyKey windowId_length).assessment.toJson)]) =
      windowDigest windowId := rfl
  rw [RecordRequest.payloadHash, Provenance.canonicalHash, dumped]
  exact if_pos hex

theorem firstWindow_payloadHash_ne (firstKey secondKey : String) (firstId secondId : Int) :
    (firstWindow firstKey firstId).request.payloadHash localPlatform ≠
      (secondWindow secondKey secondId).request.payloadHash localPlatform := by
  rw [firstWindow, secondWindow, payloadHash_of_window (by decide +kernel),
    payloadHash_of_window (by decide +kernel)]
  decide +kernel

def firstWindowEvent (idempotencyKey : String) : EvaluationRow :=
  AlertDb.empty.newEvent localPlatform (firstWindow idempotencyKey 1).request ⟨1, 1⟩

/-- The tables once the first window is stored under a key. -/
def firstWindowStored (idempotencyKey : String) : AlertDb :=
  { AlertDb.empty with evaluations := [firstWindowEvent idempotencyKey] }

/-- Every window reports the same alert. -/
theorem quietRequest_fingerprint (windowId idempotencyKey other : String)
    (windowId_length : lengthBetween 1 200 windowId = true) :
    (quietRequest windowId idempotencyKey windowId_length).fingerprint localPlatform =
      (quietRequest "window-1" other (by decide)).fingerprint localPlatform := by
  simp only [RecordRequest.fingerprint, alertFingerprint, quietRequest]

section FirstWindow

variable {idempotencyKey other : String}

theorem firstWindow_run (key : lengthBetween 1 500 idempotencyKey = true) :
    ∃ evaluation, (firstWindow idempotencyKey 1).run localPlatform AlertDb.empty =
      .ok (evaluation, firstWindowStored idempotencyKey) :=
  ⟨_, run_inserts (quietRequest_storable key) rfl rfl rfl (by simp [AlertDb.empty])⟩

theorem history_firstWindowStored {windowId : String}
    {windowId_length : lengthBetween 1 200 windowId = true} :
    (firstWindowStored idempotencyKey).history "demo"
      ((quietRequest windowId other windowId_length).fingerprint localPlatform) =
        [firstWindowEvent idempotencyKey] := by
  rw [quietRequest_fingerprint windowId other idempotencyKey]
  exact List.filter_cons_of_pos (newEvent_ofAlert localPlatform
    (firstWindow idempotencyKey 1).request ⟨1, 1⟩ AlertDb.empty)

theorem firstWindowStored_unbound {windowId : String}
    {windowId_length : lengthBetween 1 200 windowId = true} (differ : idempotencyKey ≠ other) :
    (firstWindowStored idempotencyKey).boundEvent? localPlatform
      (quietRequest windowId other windowId_length) = none := by
  show List.find? _ ((firstWindowStored idempotencyKey).history "demo" _) = none
  rw [history_firstWindowStored]
  refine List.find?_eq_none.mpr fun row member => ?_
  rw [List.mem_singleton.mp member]
  exact fun same => differ (beq_iff_eq.mp same)

theorem firstWindowStored_bound {windowId : String}
    {windowId_length : lengthBetween 1 200 windowId = true} :
    (firstWindowStored idempotencyKey).boundEvent? localPlatform
      (quietRequest windowId idempotencyKey windowId_length) =
        some (firstWindowEvent idempotencyKey) := by
  show List.find? _ ((firstWindowStored idempotencyKey).history "demo" _) = _
  rw [history_firstWindowStored]
  exact List.find?_cons_of_pos (beq_self_eq_true _)

theorem firstWindow_replays (id : Int) (differ : idempotencyKey ≠ other) :
    ∃ evaluation, (firstWindow other id).run localPlatform (firstWindowStored idempotencyKey) =
      .ok (evaluation, firstWindowStored idempotencyKey) := by
  have found : (firstWindowStored idempotencyKey).payloadEvent? localPlatform
      (firstWindow other id).request = some (firstWindowEvent idempotencyKey) := by
    show List.find? _ ((firstWindowStored idempotencyKey).history "demo"
      ((quietRequest "window-1" other _).fingerprint localPlatform)) = _
    rw [history_firstWindowStored]
    exact List.find?_cons_of_pos (beq_self_eq_true _)
  exact ⟨_, recordAtomically_eq_ok.mpr ⟨rfl, .replayedPayload
    (firstWindowStored_unbound differ) found⟩⟩

theorem secondWindow_inserts (id : Int) (new : id ≠ 1) (differ : idempotencyKey ≠ other)
    (key : lengthBetween 1 500 other = true) :
    ∃ result, (secondWindow other id).run localPlatform (firstWindowStored idempotencyKey) =
      .ok result := by
  have unseen : (firstWindowStored idempotencyKey).payloadEvent? localPlatform
      (secondWindow other id).request = none := by
    show List.find? _ ((firstWindowStored idempotencyKey).history "demo"
      ((quietRequest "window-2" other _).fingerprint localPlatform)) = none
    rw [history_firstWindowStored]
    refine List.find?_eq_none.mpr fun row member => ?_
    rw [List.mem_singleton.mp member]
    exact fun same => firstWindow_payloadHash_ne idempotencyKey other 1 id (beq_iff_eq.mp same)
  refine ⟨_, run_inserts (quietRequest_storable key) rfl (firstWindowStored_unbound differ) unseen
    (fun row member => ?_)⟩
  rw [List.mem_singleton.mp member]
  exact new.symm

end FirstWindow

/-- The second call replays the first event under a key that stays free. -/
def reusedReplayKey : List EvaluationCall :=
  [firstWindow "key-1" 1, firstWindow "key-2" 2, secondWindow "key-2" 3]

theorem reused_replay_key_not_bound :
    ¬ KeysBindPayloads localPlatform AlertDb.empty reusedReplayKey := by
  intro bound
  obtain ⟨first, stored⟩ := @firstWindow_run "key-1" (by decide)
  have afterFirst : AlertDb.empty.afterCalls localPlatform [firstWindow "key-1" 1] =
      firstWindowStored "key-1" := by
    simp [AlertDb.afterCalls, AlertDb.afterCall, stored]
  obtain ⟨second, replayed⟩ := @firstWindow_replays "key-1" "key-2" 2 (by decide)
  have afterSecond : AlertDb.empty.afterCalls localPlatform
      [firstWindow "key-1" 1, firstWindow "key-2" 2] = firstWindowStored "key-1" := by
    simp [AlertDb.afterCalls, AlertDb.afterCall, stored, replayed]
  obtain ⟨third, inserted⟩ := @secondWindow_inserts "key-1" "key-2" 3 (by decide)
    (by decide) (by decide)
  have bindsSecond := bound [firstWindow "key-1" 1] (firstWindow "key-2" 2) []
    (secondWindow "key-2" 3) [] second _ rfl (by rw [afterFirst]; exact replayed)
    ⟨rfl, rfl, quietRequest_fingerprint "window-2" "key-2" "key-2" _, rfl⟩
  obtain ⟨refused, -⟩ := bindsSecond.refuse (firstWindow_payloadHash_ne _ _ _ _).symm
  rw [List.cons_append, List.nil_append, afterSecond, inserted] at refused
  cases refused

/-- Keys that store an event of their own bind it. -/
theorem stored_keys_bind_payloads :
    KeysBindPayloads localPlatform AlertDb.empty
      [firstWindow "key-1" 1, firstWindow "key-1" 2, secondWindow "key-1" 3] := by
  refine keys_bind_payloads localPlatform AlertDb.empty _ fun before call after split => ?_
  rintro ⟨-, unbound, found⟩
  cases before with
  | nil =>
      obtain ⟨rfl, -⟩ := List.cons.inj split
      cases found
  | cons head rest =>
      obtain ⟨rfl, tail⟩ := List.cons.inj split
      obtain ⟨evaluation, stored⟩ := @firstWindow_run "key-1" (by decide)
      have bound : ∃ event, (firstWindowStored "key-1").boundEvent? localPlatform call.request =
          some event := by
        have member : call ∈ [firstWindow "key-1" 2, secondWindow "key-1" 3] := by
          rw [tail]
          simp
        rcases List.mem_pair.mp member with rfl | rfl
        · exact ⟨_, firstWindowStored_bound⟩
        · exact ⟨_, firstWindowStored_bound⟩
      obtain ⟨event, bound⟩ := bound
      have afterFirst : AlertDb.empty.afterCall localPlatform (firstWindow "key-1" 1) =
          firstWindowStored "key-1" := by
        rw [AlertDb.afterCall, stored]
      rw [AlertDb.afterCalls, List.foldl_cons, afterFirst] at unbound
      rw [← AlertDb.afterCalls, boundEvent?_afterCalls rest bound] at unbound
      cases unbound

end StockoutOps.Alerting
