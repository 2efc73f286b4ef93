import Mathlib.Data.Set.Function
import StockoutOps.Alerting.EvaluateSafety
import StockoutOps.Alerting.IntentPerEvent

/-!
Contract: what the calls of `AlertService.evaluate` return and leave behind.

Owns: the place that an event has in the history of its alert, whichever call has stored
it; that the safety alert fails closed; and that calls with one snapshot agree.

Does not own: the deliveries of the intents.

The payload hash decides what a retry is, so both results need it to tell the payloads of
the calls apart.
-/

namespace StockoutOps.Alerting

open StockoutOps.Sql StockoutOps.Foundation.Interleaving

variable {platform : EvaluationPlatform} {calls : Caller → EvaluateCall} {u v : Caller}
  {call other : EvaluateCall} {world : RecordWorld} {pool : EvaluatePool}
  {assessments : List PolicyAssessment}

/-! ## The stored events -/

/-- The value that the payload hash is computed from. -/
def RecordRequest.payload (request : RecordRequest) : Json :=
  .obj [("snapshot", request.snapshot.toJson), ("assessment", request.assessment.toJson)]

/-- The payloads that the calls hash. -/
def hashedPayloads (calls : Caller → EvaluateCall) : Set Json :=
  {payload | ∃ session, Opens calls session ∧ payload = (recordCalls calls session).request.payload}

theorem jsonOf_injective {α : Type} {f : α → Json} (injective : Function.Injective f)
    (notNull : ∀ value, f value ≠ .null) : Function.Injective (jsonOf f) := by
  rintro (- | left) (- | right) same
  · rfl
  · exact absurd same.symm (notNull right)
  · exact absurd same (notNull left)
  · exact congrArg some (injective same)

/-- A payload tells the assessment that decides the state. -/
theorem assessment_of_payload {left right : RecordRequest} (same : left.payload = right.payload) :
    left.assessment.policyId = right.assessment.policyId ∧
      left.assessment.severity = right.assessment.severity ∧
      left.assessment.measurementStatus = right.assessment.measurementStatus ∧
      left.assessment.breached = right.assessment.breached := by
  have dumps : left.assessment.toJson = right.assessment.toJson := by
    have members := Json.obj.inj same
    simp only [List.cons.injEq, Prod.mk.injEq, true_and, and_true] at members
    exact members.2
  have bools : Function.Injective (jsonOf Json.bool) :=
    jsonOf_injective (fun _ _ same => Json.bool.inj same) (fun _ => nofun)
  have severities : Function.Injective Severity.text := by
    intro first second same
    cases first <;> cases second <;> first | rfl | (revert same; decide)
  have statuses : Function.Injective MeasurementStatus.text := by
    intro first second same
    cases first <;> cases second <;> first | rfl | (revert same; decide)
  simp only [PolicyAssessment.toJson, Json.obj.injEq, List.cons.injEq, Prod.mk.injEq,
    Json.str.injEq, true_and, and_true] at dumps
  exact ⟨dumps.1, severities dumps.2.2.2.1, statuses dumps.2.2.2.2.1,
    bools dumps.2.2.2.2.2.2.2.2.2⟩

/-- The event has its place in the history of the request's alert, and its state is
what the request's assessment makes of the events before it. -/
structure InHistory (platform : EvaluationPlatform) (request : RecordRequest)
    (event : EvaluationRow) (db : AlertDb) : Prop where
  policyId : event.policyId = request.assessment.policyId
  severity : event.severity = request.assessment.severity
  place : ∃ before after,
    db.history request.principal.tenantId (request.fingerprint platform) =
        before ++ event :: after ∧
      event.previousState = lastState before ∧
      (event.state, event.transition) = nextState (lastState before) request.assessment

/-- Where the payload hash has no collision, an event is as the request itself would
have stored it, whoever has. -/
theorem inHistory_of_readFrom
    (collisionFree : Set.InjOn platform.canonicalHash (hashedPayloads calls))
    (inv : (evaluateDiscipline platform calls).Inv world) {session : Caller}
    (opens : Opens calls session) {event : EvaluationRow} {evaluation : AlertEvaluation}
    (member : event ∈ world.db.evaluations)
    (read : ReadFrom platform (recordCalls calls session).request event evaluation) :
    InHistory platform (recordCalls calls session).request event world.db := by
  obtain ⟨owner, before, after, logged, split, stored⟩ :=
    inv.1.history.invariant.place (List.mem_filter.mpr ⟨member, read.ofAlert⟩)
  have hash : (recordCalls calls owner).request.payloadHash platform =
      (recordCalls calls session).request.payloadHash platform := by
    rw [← read.payloadHash, stored.row]
    rfl
  have payload : (recordCalls calls owner).request.payload =
      (recordCalls calls session).request.payload :=
    collisionFree ⟨owner, inv.2 owner event logged, rfl⟩ ⟨session, opens, rfl⟩ hash
  obtain ⟨policyId, severity, status, breached⟩ := assessment_of_payload payload
  refine ⟨?_, ?_, before, after, split, stored.previousState, ?_⟩
  · rw [← policyId, stored.row]
    rfl
  · rw [← severity, stored.row]
    rfl
  · rw [stored.decided, stored.previousState, nextState, nextState, status, breached]

theorem inHistory_of_assessed
    (collisionFree : Set.InjOn platform.canonicalHash (hashedPayloads calls))
    (inv : (evaluateDiscipline platform calls).Inv world) (entitled : (calls u).Entitled)
    (assessed : assessPolicies (calls u).snapshot = .ok assessments) {index : Nat}
    {assessment : PolicyAssessment} (at_ : assessments[index]? = some assessment)
    {event : EvaluationRow} {evaluation : AlertEvaluation} (member : event ∈ world.db.evaluations)
    (read : ReadFrom platform ((calls u).submission index assessment).request event evaluation) :
    InHistory platform ((calls u).submission index assessment).request event world.db := by
  obtain ⟨opens, records⟩ := opens_of_assessed entitled assessed at_
  rw [← records] at read ⊢
  exact inHistory_of_readFrom collisionFree inv opens member read

theorem CallHistory.apart {τ : Type} {submissions : τ → Submission}
    {log : List (τ × EvaluationRow)} {db : AlertDb}
    (history : CallHistory platform submissions log db) :
    db.evaluations.Pairwise fun left right => ¬ left.Clashes right := by
  induction history with
  | empty => exact List.Pairwise.nil
  | call before increasing returned stored inductionHypothesis =>
      obtain ⟨-, apart, enqueued⟩ := recording_stored returned stored
      rw [enqueued.evaluations]
      refine List.pairwise_append.mpr ⟨inductionHypothesis, List.pairwise_singleton _ _,
        fun row member next new => ?_⟩
      rw [List.mem_singleton.mp new]
      exact apart row member

/-- An alert has one event of a payload. -/
theorem eq_of_payloadHash (inv : (evaluateDiscipline platform calls).Inv world)
    {left right : EvaluationRow} (leftMember : left ∈ world.db.evaluations)
    (rightMember : right ∈ world.db.evaluations) (tenant : left.tenantId = right.tenantId)
    (alert : left.alertFingerprint = right.alertFingerprint)
    (payload : left.payloadHash = right.payloadHash) : left = right := by
  by_contra differ
  have symmetric : Std.Symm fun left right : EvaluationRow => ¬ left.Clashes right :=
    ⟨fun _ _ apart clashes => apart clashes.symm⟩
  exact inv.1.history.apart.forall leftMember rightMember differ
    (.inr ⟨tenant, alert, .inr payload⟩)

/-! ## A window of the demonstration tenant -/

/-- The digests of the source for the assessments of a policy in the window below, with
no external action and with one, and for its alert; and the key of the alert's lock. -/
structure PolicyDigests where
  policyId : String
  quiet : String
  counted : String
  alert : String
  lockKey : Int

def policyDigests : List PolicyDigests :=
  [⟨"shadow-external-action-safety",
      "f2b8752e9ac08d29344061bdbc77af1666557d3cdef0ae7da2246f73e642a4ea",
      "983fc0ec37eba446d62fb260300c2a2f91cd58819763dcd4deb12fa91028f572",
      "fffac496cedabd494923c9b78ba329f9c866bcd8a80c21de2899a1ac10bd2b23", 1528754615438657797⟩,
    ⟨"shadow-escalation-disagreement-rate",
      "bffc7d7714fd4413a00f90cb3d2618af61b788fa4b62686c59638fdf833e484a",
      "4d44d096e2d2839d6349e97c2fa3c4efd10c40c60f5d4cf15906e021e6c61699",
      "862734c6654a320d478380dffbab0b463e160535de8073e73ee04a093f87f57c", -2961829532658708176⟩,
    ⟨"shadow-missing-required-evidence",
      "dd371cf577bc2c2d0aecdfefa9058e6f725a8dae1393648ab603eaf4dadbea30",
      "dc2625adc2144f31fd304b9285145f3f664c25ded84c947a240a92b96570a36b",
      "93754cd8a8a5238b37f3c3f1c172bb2cf92b5ce4314490152e6a7a08c4deaff4", -3844246140939233806⟩,
    ⟨"shadow-unsupported-claim",
      "69fdb91d78677da5567f8fe037b3dc5cad5dba2e4fae68ecf336983c889aada9",
      "97b781fdc797b1f57145b089ec4e61e71504db6294dc81234529c98f82066309",
      "7fa6ead784aedd4ffb0ef2e571d09b4044fff2a98bd8453e23fd2d3e11d31780", 9003060621673453300⟩,
    ⟨"shadow-processing-error-rate",
      "8d52a09108f68b82fb548a3867e63f1a2335d1de62a6ee6cea5aebb6b751dfbc",
      "af764fed91f68f174a04829b58c2427f7c352b55186c611a0baf745ec45774eb",
      "68c85d4fb382cc8758bf348974291e9c6958d5de38135c426920e48173eb96ce", 753285924623037373⟩]

theorem localPlatform_hex (text : String) : isHex64 (localPlatform.sha256Text text) = true :=
  localPlatform.sha256Text_hex text

/-- The hashes and the lock keys of the source, on the values below. -/
def windowPlatform : EvaluationPlatform where
  sha256Text := localPlatform.sha256Text
  canonicalJson := fun value =>
    match (value.member? "assessment").bind (·.member? "policy_id"),
      (value.member? "snapshot").bind (·.member? "external_action_count"),
      value.member? "transition", value.member? "policy_id" with
    | some (.str policyId), some (.int count), _, _ =>
        (policyDigests.find? (·.policyId == policyId)).elim "" fun digests =>
          if count = 0 then digests.quiet else digests.counted
    | _, _, none, some (.str policyId) =>
        (policyDigests.find? (·.policyId == policyId)).elim "" (·.alert)
    -- the notification that the alert has fired
    | _, _, _, _ => "42b73b19589b696350affb89ca089b4057bba1aa3c7c90eb105715912c1f3074"
  isoUtc := localPlatform.isoUtc
  isoformat := localPlatform.isoformat
  sha256Text_hex := localPlatform_hex
  lockKey := fun text =>
    (policyDigests.find? fun digests => text == "alert:demo:" ++ digests.alert).elim 0 (·.lockKey)
  toNumeric := id
  ofNumeric := id

/-- The evaluation of a request's snapshot. -/
def evaluateCall (request : RecordRequest) : EvaluateCall where
  service := { repository := ⟨some webhookEnqueuer⟩ }
  clock := fun _ => 0
  principal := request.principal
  snapshot := request.snapshot
  idempotencyPrefix := "batch-1"

/-- Callers that all make one call hash one payload for each policy. -/
theorem injOn_hashedPayloads {platform : EvaluationPlatform} {call : EvaluateCall}
    (distinct : ∀ left right : Fin policies.length,
      platform.canonicalHash (call.submission left (call.assessment left)).request.payload =
        platform.canonicalHash (call.submission right (call.assessment right)).request.payload →
      left = right) :
    Set.InjOn platform.canonicalHash (hashedPayloads fun _ => call) := by
  have indexed : ∀ session, Opens (fun _ => call) session →
      session.unpair.2 < policies.length := by
    rintro session ⟨-, assessments, assessed, below⟩
    have lengths := congrArg List.length (policyIds_of_mapM assessed)
    rw [List.length_map, List.length_map] at lengths
    exact lengths ▸ below
  rintro _ ⟨left, leftOpens, rfl⟩ _ ⟨right, rightOpens, rfl⟩ same
  have index := congrArg Fin.val
    (distinct ⟨_, indexed left leftOpens⟩ ⟨_, indexed right rightOpens⟩ same)
  simp only [recordCalls]
  rw [show left.unpair.2 = right.unpair.2 from index]

/-- The first callers make their calls one after another. -/
theorem EvaluatePool.reachable_inTurn {platform : EvaluationPlatform}
    {calls : Caller → EvaluateCall} {count : Nat}
    {results : List (Except Failure (List AlertEvaluation))} {world : RecordWorld}
    (ran : (evaluateSystem platform calls).inTurn (fun _ => ⟨none, false⟩) 0
      ((List.range count).map calls) RecordWorld.initial = some (results, world)) :
    ∃ pool : EvaluatePool, EvaluatePool.Reachable platform calls pool ∧ pool.state = world ∧
      ∀ u result, u < count → results[u]? = some result →
        pool.threads u = .running (calls u) (.ret result) := by
  have outside : RecordInput.Outside ⟨none, false⟩ := fun _ => nofun
  have start : EvaluatePool.Reachable platform calls (Pool.start RecordWorld.initial) := .refl
  obtain ⟨pool, reached, state, -, ended⟩ := Reaches.inTurn start (fun _ _ => rfl)
    (fun _ _ => System.starts_range fun _ => rfl) (fun _ => outside) ran
  refine ⟨pool, reached, state, fun u result below at_ => ?_⟩
  rw [← Nat.zero_add u]
  exact ended u _ result (by simp [below]) at_

def countedCall : EvaluateCall := evaluateCall firingRequest

theorem countedCall_collisionFree :
    Set.InjOn windowPlatform.canonicalHash (hashedPayloads fun _ => countedCall) :=
  injOn_hashedPayloads (by decide +kernel)

theorem countedCall_inTurn :
    ((evaluateSystem windowPlatform fun _ => countedCall).inTurn (fun _ => ⟨none, false⟩) 0
        ((List.range 1).map fun _ => countedCall) RecordWorld.initial).map
      (fun last => (last.1, last.2.log.map Prod.fst)) =
      some ([.error shadowExternalActionDetected], [0]) := by
  decide +kernel

def quietCall : EvaluateCall :=
  evaluateCall (quietRequest "window-1" "key-1" length_firstWindow)

theorem quietCall_collisionFree :
    Set.InjOn windowPlatform.canonicalHash (hashedPayloads fun _ => quietCall) :=
  injOn_hashedPayloads (by decide +kernel)

theorem quietCalls_inTurn :
    ((evaluateSystem windowPlatform fun _ => quietCall).inTurn (fun _ => ⟨none, false⟩) 0
        ((List.range 2).map fun _ => quietCall) RecordWorld.initial).map
      (fun last => last.1.map fun result => result.toOption.map (·.map (·.idempotentReplay))) =
      some [some (List.replicate 5 false), some (List.replicate 5 true)] := by
  decide +kernel

/-! ## Who stores events -/

theorem assessment_of_opens {session : Caller} (opens : Opens calls session) :
    ∃ assessments, assessPolicies (calls (sessionCaller session)).snapshot = .ok assessments ∧
      assessments[session.unpair.2]? =
        some ((calls (sessionCaller session)).assessment session.unpair.2) := by
  obtain ⟨-, assessments, assessed, below⟩ := opens
  refine ⟨assessments, assessed, ?_⟩
  simp [EvaluateCall.assessment, assessed, List.getD_eq_getElem?_getD, below]

/-- The event is the row of a policy's assessment, in its place in the alert's history,
by an operator of the tenant. -/
structure RecordedBy (platform : EvaluationPlatform) (call : EvaluateCall) (index : Nat)
    (event : EvaluationRow) (db : AlertDb) : Prop where
  entitled : call.Entitled
  assessed : ∃ assessments, assessPolicies call.snapshot = .ok assessments ∧
    assessments[index]? = some (call.assessment index)
  place : ∃ before after,
    db.history call.principal.tenantId
        ((call.submission index (call.assessment index)).request.fingerprint platform) =
      before ++ event :: after ∧
    event = (call.submission index (call.assessment index)).request.row platform
      (lastState before) event.alertEvaluationId

theorem recordedBy_of_logged (inv : (evaluateDiscipline platform calls).Inv world)
    {session : Caller} {event : EvaluationRow} (logged : (session, event) ∈ world.log) :
    RecordedBy platform (calls (sessionCaller session)) session.unpair.2 event world.db := by
  have opens := inv.2 session event logged
  have member : event ∈ world.db.evaluations := by
    rw [← inv.1.history.invariant.events]
    exact List.mem_map_of_mem logged
  have inside : event ∈ world.db.history event.tenantId event.alertFingerprint :=
    List.mem_filter.mpr ⟨member, by simp [EvaluationRow.ofAlert]⟩
  obtain ⟨owner, before, after, again, split, stored⟩ := inv.1.history.invariant.place inside
  obtain rfl := congrArg Prod.fst (inv.1.history.invariant.log_unique again logged rfl)
  refine ⟨opens.1, assessment_of_opens opens, before, after, ?_, stored.row⟩
  rw [congrArg EvaluationRow.tenantId stored.row,
    congrArg EvaluationRow.alertFingerprint stored.row] at split
  exact split

/-- Only operators store events, and only for their tenant: in every state that
concurrent, crashing and repeated calls reach, the events are those that the sessions of
calls have committed, each is the row of its caller's assessment of the policy, and a
session has stored at most one. -/
theorem events_are_recorded_by_operators
    (reachable : EvaluatePool.Reachable platform calls pool) :
    pool.state.log.map Prod.snd = pool.state.db.evaluations ∧
      (∀ session event, (session, event) ∈ pool.state.log →
        RecordedBy platform (calls (sessionCaller session)) session.unpair.2 event
          pool.state.db) ∧
      ∀ session event next, (session, event) ∈ pool.state.log →
        (session, next) ∈ pool.state.log → event = next := by
  have safe := reachable.safe
  have events := safe.inv.1.history.invariant.events
  refine ⟨events, fun session event logged => recordedBy_of_logged safe.inv logged,
    fun session event next logged again => ?_⟩
  have member : event ∈ pool.state.db.evaluations := events ▸ List.mem_map_of_mem logged
  have nextMember : next ∈ pool.state.db.evaluations := events ▸ List.mem_map_of_mem again
  obtain ⟨before, -, -, row⟩ := (recordedBy_of_logged safe.inv logged).place
  obtain ⟨beforeNext, -, -, nextRow⟩ := (recordedBy_of_logged safe.inv again).place
  refine eq_of_payloadHash safe.inv member nextMember ?_ ?_ ?_
  all_goals
    rw [row, nextRow]
    rfl

theorem operator_records_event : ∃ (pool : EvaluatePool) (event : EvaluationRow),
    EvaluatePool.Reachable windowPlatform (fun _ => countedCall) pool ∧
      (0, event) ∈ pool.state.log ∧
      RecordedBy windowPlatform countedCall 0 event pool.state.db := by
  obtain ⟨⟨results, world⟩, ran, ended⟩ := Option.map_eq_some_iff.mp countedCall_inTurn
  obtain ⟨pool, reached, rfl, -⟩ := EvaluatePool.reachable_inTurn ran
  obtain ⟨⟨session, event⟩, log, rfl⟩ := List.map_eq_singleton_iff.mp (congrArg Prod.snd ended)
  have logged : (0, event) ∈ pool.state.log := by
    rw [log]
    exact List.mem_singleton.mpr rfl
  exact ⟨pool, event, reached, logged,
    (events_are_recorded_by_operators reached).2.1 0 event logged⟩

/-! ## The safety alert -/

/-- The evidence of a detected external action. -/
structure SafetyEvent (platform : EvaluationPlatform) (call : EvaluateCall)
    (event : EvaluationRow) (db : AlertDb) : Prop where
  member : event ∈ db.evaluations
  tenantId : event.tenantId = call.principal.tenantId
  policyId : event.policyId = externalActionSafety
  severity : event.severity = .sev1
  firing : event.state = some .firing
  payloadHash : ∃ assessment, externalActionPolicy.assess call.snapshot = .ok assessment ∧
    event.payloadHash = (call.submission 0 assessment).request.payloadHash platform

theorem nextState_eq_firing {previous : Option AlertState} {assessment : PolicyAssessment} :
    (nextState previous assessment).1 = some .firing ↔
      assessment.measurementStatus = .evaluated ∧ assessment.breached = some true := by
  unfold nextState
  split
  case isTrue unmeasured => simp [unmeasured]
  case isFalse measured =>
    have evaluated := MeasurementStatus.eq_evaluated measured
    split
    case isTrue breached => simp [evaluated, breached]
    case isFalse calm => split <;> simp [calm]

/-- In its place in the history, the event of the safety policy fires exactly when an
external action is counted. -/
theorem firing_iff_counted {first : PolicyAssessment} {event : EvaluationRow} {db : AlertDb}
    (head : externalActionPolicy.assess call.snapshot = .ok first)
    (inside : InHistory platform (call.submission 0 first).request event db) :
    event.state = some .firing ↔ ∃ count, call.snapshot.externalActionCount = some (count + 1) := by
  obtain ⟨before, after, -, -, decided⟩ := inside.place
  have state : event.state = (nextState (lastState before) first).1 := congrArg Prod.fst decided
  rw [state, nextState_eq_firing, ← breached_iff head]
  exact ⟨And.right, fun breached => ⟨evaluated_of_breached head breached, breached⟩⟩

theorem safetyEvent_of_readFrom {first : PolicyAssessment} {event : EvaluationRow}
    {evaluation : AlertEvaluation} {db : AlertDb}
    (head : externalActionPolicy.assess call.snapshot = .ok first)
    (member : event ∈ db.evaluations)
    (read : ReadFrom platform (call.submission 0 first).request event evaluation)
    (inside : InHistory platform (call.submission 0 first).request event db)
    (firing : event.state = some .firing) : SafetyEvent platform call event db where
  member := member
  tenantId := read.tenantId
  policyId := inside.policyId.trans (policyId_of_assess head)
  severity := by
    obtain ⟨observed, -, rfl⟩ := assess_eq_ok.mp head
    exact inside.severity
  firing := firing
  payloadHash := ⟨first, head, read.payloadHash⟩

/-- The safety alert fails closed, in every run of concurrent, crashing and repeated
calls: a call whose snapshot counts an external action never returns; a call that
raises the detection has counted one, its event is committed, firing, with its intent
where the repositories enqueue, and the call has recorded none of the other policies. -/
theorem safety_alert_fails_closed
    (collisionFree : Set.InjOn platform.canonicalHash (hashedPayloads calls))
    (sinks : ∀ evaluation, call.service.sink call.principal evaluation ≠
      .error shadowExternalActionDetected)
    (reachable : EvaluatePool.Reachable platform calls pool)
    {result : Except Failure (List AlertEvaluation)}
    (ended : pool.threads u = .running call (.ret result)) :
    (∀ count evaluations, call.snapshot.externalActionCount = some (count + 1) →
      result ≠ .ok evaluations) ∧
    (result = .error shadowExternalActionDetected →
      (∃ count, call.snapshot.externalActionCount = some (count + 1)) ∧
      (∃ event, SafetyEvent platform call event pool.state.db ∧
        ((∀ t, (calls t).service.repository.deliveryEnqueuer.isSome = true) →
          event.isLifecycle = true → ∃ intent, pool.state.db.intentsOf event = [intent] ∧
            Reports platform event intent)) ∧
      ∀ index row, (policySession (index + 1) u, row) ∉ pool.state.log) := by
  have safe := reachable.safe
  obtain ⟨rfl, ends⟩ := safe.ended ended
  constructor
  · rintro count evaluations counted rfl
    obtain ⟨assessments, entitled, assessed, looped⟩ | ⟨failure, raised, -⟩ := ends
    case inr => cases raised
    obtain ⟨first, rest, rfl, head, -⟩ := assessPolicies_eq_ok assessed
    cases looped with
    | cons evaluated calm _ =>
        obtain ⟨event, member, read, -⟩ := evaluated
        have inside :=
          inHistory_of_assessed collisionFree safe.inv entitled assessed rfl member read
        exact calm ⟨policyId_of_assess head,
          read.state.trans ((firing_iff_counted head inside).mpr ⟨count, counted⟩)⟩
  · rintro rfl
    obtain ⟨assessments, entitled, assessed, looped⟩ | ⟨failure, raised, other⟩ := ends
    case inr => exact absurd (Except.error.inj raised).symm other
    obtain ⟨first, rest, rfl, head, others⟩ := assessPolicies_eq_ok assessed
    obtain ⟨evaluation, raised⟩ | ⟨passed, assessment, evaluation, at_, detected⟩ := looped rfl
    case inl => exact absurd raised (sinks evaluation)
    cases passed with
    | succ passed =>
        -- no other policy is the safety policy
        have member : assessment ∈ rest := List.mem_of_getElem? (by simpa using at_)
        exact absurd detected.safety (others assessment member)
    | zero =>
        obtain rfl : first = assessment := by simpa using at_
        obtain ⟨event, member, read, -⟩ := detected.evaluated
        have inside :=
          inHistory_of_assessed collisionFree safe.inv entitled assessed rfl member read
        have firing : event.state = some .firing := read.state.symm.trans detected.firing
        refine ⟨(firing_iff_counted head inside).mp firing,
          ⟨event, safetyEvent_of_readFrom head member read inside firing,
            fun enqueues lifecycle => ?_⟩, fun index row logged => ?_⟩
        · have history := safe.inv.1.history
          have each := (history.paired fun session => enqueues _).oneIntentEach history.invariant
          exact each.lifecycle event member lifecycle
        · exact (detected.unopened (index + 1) (by omega)).unlogged row logged

theorem counted_action_fails_closed : ∃ pool event,
    EvaluatePool.Reachable windowPlatform (fun _ => countedCall) pool ∧
      pool.threads 0 = .running countedCall (.ret (.error shadowExternalActionDetected)) ∧
      SafetyEvent windowPlatform countedCall event pool.state.db ∧
      (event.isLifecycle = true → ∃ intent, pool.state.db.intentsOf event = [intent] ∧
        Reports windowPlatform event intent) := by
  obtain ⟨⟨results, world⟩, ran, ended⟩ := Option.map_eq_some_iff.mp countedCall_inTurn
  obtain rfl : results = [.error shadowExternalActionDetected] := congrArg Prod.fst ended
  obtain ⟨pool, reached, -, threads⟩ := EvaluatePool.reachable_inTurn ran
  have thread := threads 0 _ Nat.one_pos rfl
  have closed := (safety_alert_fails_closed countedCall_collisionFree
    (by intro evaluation raised; cases raised) reached thread).2 rfl
  obtain ⟨event, safety, notified⟩ := closed.2.1
  exact ⟨pool, event, reached, thread, safety, notified fun _ => rfl⟩

/-! ## Retries -/

/-- What a loop that went through says of each policy. -/
theorem Evaluations.get {index : Nat} {evaluations : List AlertEvaluation}
    (told : Evaluations platform u call world index assessments evaluations) :
    evaluations.length = assessments.length ∧
      ∀ passed assessment evaluation, assessments[passed]? = some assessment →
        evaluations[passed]? = some evaluation →
        Evaluated platform (policySession (index + passed) u)
          (call.submission (index + passed) assessment).request (.ok evaluation) world := by
  induction told with
  | nil index => exact ⟨rfl, fun _ _ _ at_ => by simp at at_⟩
  | @cons index assessment assessments evaluation evaluations evaluated _ _ inductionHypothesis =>
      refine ⟨congrArg (· + 1) inductionHypothesis.1, fun passed later next at_ found => ?_⟩
      cases passed with
      | zero =>
          obtain rfl : assessment = later := by simpa using at_
          obtain rfl : evaluation = next := by simpa using found
          exact evaluated
      | succ passed =>
          have rest := inductionHypothesis.2 passed later next (by simpa using at_)
            (by simpa using found)
          rwa [show index + (passed + 1) = index + 1 + passed by omega]

/-- The row is an event of the request's alert and payload. -/
def RecordRequest.tells (platform : EvaluationPlatform) (request : RecordRequest)
    (row : EvaluationRow) : Bool :=
  row.ofAlert request.principal.tenantId (request.fingerprint platform) &&
    row.payloadHash == request.payloadHash platform

/-- The event is the only one of the request's alert and payload, in its place. -/
structure OneEvent (platform : EvaluationPlatform) (request : RecordRequest)
    (event : EvaluationRow) (db : AlertDb) : Prop where
  only : db.evaluations.filter (request.tells platform) = [event]
  inHistory : InHistory platform request event db

theorem filter_tells (inv : (evaluateDiscipline platform calls).Inv world)
    {request : RecordRequest} {event : EvaluationRow} {evaluation : AlertEvaluation}
    (member : event ∈ world.db.evaluations) (read : ReadFrom platform request event evaluation) :
    world.db.evaluations.filter (request.tells platform) = [event] := by
  have ofEvent : ∀ row ∈ world.db.evaluations.filter (request.tells platform), row = event := by
    intro row found
    obtain ⟨inside, ofRow⟩ := List.mem_filter.mp found
    simp only [RecordRequest.tells, EvaluationRow.ofAlert, Bool.and_eq_true, beq_iff_eq] at ofRow
    exact eq_of_payloadHash inv inside member (ofRow.1.1.trans read.tenantId.symm)
      (ofRow.1.2.trans read.fingerprint.symm) (ofRow.2.trans read.payloadHash.symm)
  have found : event ∈ world.db.evaluations.filter (request.tells platform) :=
    List.mem_filter.mpr ⟨member, by simp [RecordRequest.tells, read.ofAlert, read.payloadHash]⟩
  have apart := inv.1.history.apart.filter (request.tells platform)
  revert ofEvent found apart
  generalize world.db.evaluations.filter (request.tells platform) = rows
  intro ofEvent found apart
  rcases rows with _ | ⟨row, _ | ⟨next, rest⟩⟩
  · cases found
  · rw [ofEvent row (List.mem_singleton.mpr rfl)]
  · have clash := (List.pairwise_cons.mp apart).1 next List.mem_cons_self
    rw [ofEvent row List.mem_cons_self,
      ofEvent next (List.mem_cons_of_mem _ List.mem_cons_self)] at clash
    exact absurd (.inl rfl) clash

/-- What two calls with the same snapshot were told of one policy. -/
structure SameEvent (platform : EvaluationPlatform) (call : EvaluateCall) (u v : Caller)
    (index : Nat) (assessment : PolicyAssessment) (evaluation twin : AlertEvaluation)
    (event : EvaluationRow) (db : AlertDb) : Prop where
  one : OneEvent platform (call.submission index assessment).request event db
  first : evaluation = rowToEvaluation platform event evaluation.idempotentReplay
  second : twin = rowToEvaluation platform event twin.idempotentReplay
  stored : evaluation.idempotentReplay = false → twin.idempotentReplay = false → u = v

/-- Calls agree, however they interleave, crash and are repeated, under whatever
prefixes: two calls with the same snapshot that return tell of the same events, one
for each policy. Each is the only event of its payload, its state is what the
assessment makes of the events before it, and at most one call has stored it. -/
theorem evaluations_agree
    (collisionFree : Set.InjOn platform.canonicalHash (hashedPayloads calls))
    (reachable : EvaluatePool.Reachable platform calls pool)
    {evaluations others : List AlertEvaluation}
    (first : pool.threads u = .running call (.ret (.ok evaluations)))
    (second : pool.threads v = .running other (.ret (.ok others)))
    (same : call.snapshot = other.snapshot) :
    ∃ assessments, assessPolicies call.snapshot = .ok assessments ∧
      evaluations.length = assessments.length ∧ others.length = assessments.length ∧
      ∀ index assessment evaluation twin, assessments[index]? = some assessment →
        evaluations[index]? = some evaluation → others[index]? = some twin →
        ∃ event, SameEvent platform call u v index assessment evaluation twin event
          pool.state.db := by
  have safe := reachable.safe
  obtain ⟨rfl, ends⟩ := safe.ended first
  obtain ⟨rfl, endsOther⟩ := safe.ended second
  obtain ⟨assessments, entitled, assessed, looped⟩ | ⟨failure, raised, -⟩ := ends
  case inr => cases raised
  obtain ⟨_, entitledOther, assessedOther, loopedOther⟩ | ⟨failure, raised, -⟩ := endsOther
  case inr => cases raised
  obtain rfl := Except.ok.inj (assessedOther.symm.trans (same ▸ assessed))
  obtain ⟨length, told⟩ := looped.get
  obtain ⟨lengthOther, toldOther⟩ := loopedOther.get
  refine ⟨_, assessed, length, lengthOther, fun index assessment evaluation twin at_ found
    foundOther => ?_⟩
  obtain ⟨event, member, read, logged⟩ := told index assessment evaluation at_ found
  obtain ⟨event', member', read', logged'⟩ := toldOther index assessment twin at_ foundOther
  rw [Nat.zero_add] at read logged read' logged'
  have fingerprint : ((calls v).submission index assessment).request.fingerprint platform =
      ((calls u).submission index assessment).request.fingerprint platform := by
    simp only [RecordRequest.fingerprint, EvaluateCall.submission, same]
  have payload : ((calls v).submission index assessment).request.payloadHash platform =
      ((calls u).submission index assessment).request.payloadHash platform := by
    simp only [RecordRequest.payloadHash, EvaluateCall.submission, same]
  have tenant : (calls v).principal.tenantId = (calls u).principal.tenantId := by
    rw [← entitled.ownTenant, ← entitledOther.ownTenant, same]
  obtain rfl : event = event' := eq_of_payloadHash safe.inv member member'
    (read.tenantId.trans (tenant.symm.trans read'.tenantId.symm))
    (read.fingerprint.trans (fingerprint.symm.trans read'.fingerprint.symm))
    (read.payloadHash.trans (payload.symm.trans read'.payloadHash.symm))
  have inside := inHistory_of_assessed collisionFree safe.inv entitled assessed at_ member read
  refine ⟨event, ⟨⟨filter_tells safe.inv member read, inside⟩, read.same, read'.same,
    fun stored storedOther => ?_⟩⟩
  have sessions := safe.inv.1.history.invariant.log_unique (logged stored) (logged' storedOther) rfl
  by_contra differ
  exact policySession_ne (.inr differ) (congrArg Prod.fst sessions)

theorem repeated_call_agrees : ∃ (pool : EvaluatePool) (evaluations others : List AlertEvaluation)
    (assessments : List PolicyAssessment),
    EvaluatePool.Reachable windowPlatform (fun _ => quietCall) pool ∧
      pool.threads 0 = .running quietCall (.ret (.ok evaluations)) ∧
      pool.threads 1 = .running quietCall (.ret (.ok others)) ∧
      others.map (·.idempotentReplay) = List.replicate 5 true ∧
      assessPolicies quietCall.snapshot = .ok assessments ∧
      evaluations.length = assessments.length ∧ others.length = assessments.length ∧
      ∀ index assessment evaluation twin, assessments[index]? = some assessment →
        evaluations[index]? = some evaluation → others[index]? = some twin →
        ∃ event, SameEvent windowPlatform quietCall 0 1 index assessment evaluation twin event
          pool.state.db := by
  obtain ⟨⟨results, world⟩, ran, ended⟩ := Option.map_eq_some_iff.mp quietCalls_inTurn
  obtain ⟨pool, reached, -, threads⟩ := EvaluatePool.reachable_inTurn ran
  obtain ⟨first, rest, rfl, returned, others⟩ := List.map_eq_cons_iff.mp ended
  obtain ⟨second, rfl, replays⟩ := List.map_eq_singleton_iff.mp others
  obtain ⟨evaluations, evaluated, -⟩ := Option.map_eq_some_iff.mp returned
  obtain ⟨twins, repeated, replayed⟩ := Option.map_eq_some_iff.mp replays
  have once := threads 0 first (by decide) rfl
  have again := threads 1 second (by decide) rfl
  cases first with
  | error failure => cases evaluated
  | ok told =>
      obtain rfl := Option.some.inj evaluated
      cases second with
      | error failure => cases repeated
      | ok told =>
          obtain rfl := Option.some.inj repeated
          obtain ⟨assessments, agree⟩ := evaluations_agree quietCall_collisionFree reached once
            again rfl
          exact ⟨pool, _, _, assessments, reached, once, again, replayed, agree⟩

end StockoutOps.Alerting
