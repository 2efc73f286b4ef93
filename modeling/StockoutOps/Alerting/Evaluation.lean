import StockoutOps.Alerting.Outbox
import StockoutOps.Identity
import StockoutOps.Provenance

/-!
Contract: what an alert evaluation is, apart from where it is stored.

Owns: the request of one evaluation, its fingerprint and payload hash, the
next state, the row it is stored as, the evaluation read back from a row, and
the notification payload.

Does not own: the transaction that stores it. The digest, the texts, the
advisory-lock key and the conversion between `float` and `numeric` are an
`EvaluationPlatform`.
-/

namespace StockoutOps.Alerting

open StockoutOps.Sql

structure EvaluationPlatform extends Provenance where
  /-- `_lock_key` -/
  lockKey : String → Int
  toNumeric : PyFloat → PyFloat
  ofNumeric : PyFloat → PyFloat

/-- The arguments of `AlertRepository.record`. -/
structure RecordRequest where
  principal : Principal
  snapshot : AlertMetricSnapshot
  assessment : PolicyAssessment
  idempotencyKey : String
  evaluatedAt : Timestamp

/-- An evaluation has the columns of its row, and says whether it was replayed. -/
structure AlertEvaluation extends EvaluationRow where
  idempotentReplay : Bool
deriving DecidableEq

/-- `_row_to_evaluation`; the correlation it validates is one that `record` has dumped. -/
def rowToEvaluation (platform : EvaluationPlatform) (row : EvaluationRow)
    (idempotentReplay : Bool) : AlertEvaluation where
  toEvaluationRow := { row with
    thresholdValue := platform.ofNumeric row.thresholdValue
    observedValue := row.observedValue.map platform.ofNumeric }
  idempotentReplay := idempotentReplay

/-- The window and the input values are left out, so a later window can resolve
the alert. -/
def alertFingerprint (platform : EvaluationPlatform) (snapshot : AlertMetricSnapshot)
    (assessment : PolicyAssessment) : String :=
  platform.canonicalHash
    (.obj [("policy_id", .str assessment.policyId),
      ("policy_version", .str assessment.policyVersion),
      ("tenant_id", .str snapshot.correlation.tenantId),
      ("run_id", jsonOf .str snapshot.correlation.runId),
      ("case_id", jsonOf .str snapshot.correlation.caseId)])

/-- `_next_state` -/
def nextState (previous : Option AlertState) (assessment : PolicyAssessment) :
    Option AlertState × Transition :=
  if assessment.measurementStatus = .unmeasured then (none, .unmeasured)
  else if assessment.breached = some true then
    (some .firing, if previous = some .firing then .stillFiring else .fired)
  else if previous = some .firing then (some .resolved, .resolved)
  else (some .ok, if previous.isSome then .stillOk else .initialOk)

theorem MeasurementStatus.eq_evaluated {status : MeasurementStatus}
    (measured : status ≠ .unmeasured) : status = .evaluated := by
  cases status with
  | evaluated => rfl
  | unmeasured => exact absurd rfl measured

section NextState

variable {previous : Option AlertState} {assessment : PolicyAssessment}

theorem nextState_of_unmeasured (unmeasured : assessment.measurementStatus = .unmeasured) :
    nextState previous assessment = (none, .unmeasured) :=
  if_pos unmeasured

theorem nextState_of_evaluated (evaluated : assessment.measurementStatus = .evaluated) :
    (nextState previous assessment).1.isSome = true ∧
      (nextState previous assessment).2 ≠ .unmeasured := by
  simp only [nextState, evaluated]
  split
  case isTrue impossible => cases impossible
  case isFalse =>
    split
    · refine ⟨rfl, ?_⟩
      show (if _ then _ else _) ≠ _
      split <;> exact nofun
    · split
      · exact ⟨rfl, nofun⟩
      · refine ⟨rfl, ?_⟩
        show (if _ then _ else _) ≠ _
        split <;> exact nofun

end NextState

namespace RecordRequest

variable (platform : EvaluationPlatform) (request : RecordRequest)

def fingerprint : String :=
  alertFingerprint platform request.snapshot request.assessment

def payloadHash : String :=
  platform.canonicalHash
    (.obj [("snapshot", request.snapshot.toJson), ("assessment", request.assessment.toJson)])

/-- `alert:{tenant_id}:{fingerprint}` -/
def lockText : String :=
  "alert:" ++ request.principal.tenantId ++ ":" ++ request.fingerprint platform

/-- The inserted columns, for the previous state and the identity value. -/
def row (previous : Option AlertState) (alertEvaluationId : Int) : EvaluationRow where
  policyId := request.assessment.policyId
  policyVersion := request.assessment.policyVersion
  metricName := request.assessment.metricName
  severity := request.assessment.severity
  thresholdClassification := request.assessment.thresholdClassification
  thresholdValue := platform.toNumeric request.assessment.thresholdValue
  windowLabel := request.assessment.window
  windowId := request.snapshot.windowId
  evidenceLabel := request.snapshot.evidenceLabel
  sourceReportSha256 := request.snapshot.sourceReportSha256
  correlationJson := request.snapshot.correlation.toJson
  actorId := request.principal.actorId
  alertEvaluationId := alertEvaluationId
  alertFingerprint := request.fingerprint platform
  tenantId := request.principal.tenantId
  state := (nextState previous request.assessment).1
  previousState := previous
  transition := (nextState previous request.assessment).2
  measurementStatus := request.assessment.measurementStatus
  observedValue := request.assessment.observedValue.map platform.toNumeric
  payloadHash := request.payloadHash platform
  idempotencyKey := request.idempotencyKey
  evaluatedAt := request.evaluatedAt

/-- What the constraints of the table ask beyond the validators of the contracts. -/
structure Storable : Prop where
  tenantId : request.snapshot.correlation.tenantId = request.principal.tenantId
  actorId : 0 < request.principal.actorId.length
  policyId : 0 < request.assessment.policyId.length
  policyVersion : 0 < request.assessment.policyVersion.length
  window : 0 < request.assessment.window.length
  idempotencyKey : lengthBetween 1 500 request.idempotencyKey = true
  unmeasured : request.assessment.measurementStatus = .unmeasured →
    request.assessment.observedValue = none

variable {request}

/-- The row of a storable request passes every CHECK. -/
theorem Storable.checks (storable : request.Storable) (previous : Option AlertState) (id : Int) :
    checkAll (request.row platform previous id).checks = .ok () := by
  have tenant : 0 < request.principal.tenantId.length := by
    have bounds := request.snapshot.correlation.tenantId_length
    rw [storable.tenantId] at bounds
    simp only [lengthBetween, Bool.and_eq_true, decide_eq_true_eq] at bounds
    omega
  simp only [checkAll_eq_ok, EvaluationRow.checks, List.forall_mem_cons, row]
  refine ⟨platform.canonicalHash_hex _, decide_eq_true tenant, decide_eq_true storable.policyId,
    decide_eq_true storable.policyVersion, decide_eq_true storable.window,
    request.snapshot.windowId_length, decide_eq_true request.snapshot.simulated,
    request.snapshot.sourceReportSha256_hex, platform.canonicalHash_hex _,
    storable.idempotencyKey, decide_eq_true storable.actorId, decide_eq_true ?_, by simp⟩
  by_cases status : request.assessment.measurementStatus = .unmeasured
  · rw [nextState_of_unmeasured status]
    exact .inr ⟨status, rfl, by rw [storable.unmeasured status]; rfl, rfl⟩
  · have evaluated := MeasurementStatus.eq_evaluated status
    obtain ⟨state, transition⟩ := @nextState_of_evaluated previous _ evaluated
    have observed := (request.assessment.evaluated_iff.mp evaluated).1
    exact .inl ⟨evaluated, state, by simpa using observed, transition⟩

end RecordRequest

/-! ## Notification -/

/-- `transition in LIFECYCLE_TRANSITIONS` -/
def Transition.isLifecycle (transition : Transition) : Bool :=
  transition = .fired || transition = .resolved

def shouldNotify (evaluation : AlertEvaluation) : Bool :=
  !evaluation.idempotentReplay && evaluation.transition.isLifecycle

def webhookPayload (platform : EvaluationPlatform) (evaluation : AlertEvaluation) : Json :=
  .obj [("alert_fingerprint", .str evaluation.alertFingerprint),
    ("comparator", .str comparator),
    ("correlation", evaluation.correlationJson),
    ("evaluated_at", .str (platform.isoformat evaluation.evaluatedAt)),
    ("evaluation_id", .int evaluation.alertEvaluationId),
    ("evidence_label", .str evaluation.evidenceLabel.text),
    ("execute", .bool false),
    ("idempotency_key", .str evaluation.idempotencyKey),
    ("live_slo_evidence_eligible", .bool false),
    ("measurement_status", .str evaluation.measurementStatus.text),
    ("metric_name", .str evaluation.metricName.text),
    ("observed_value", jsonOf .float evaluation.observedValue),
    ("payload_hash", .str evaluation.payloadHash),
    ("policy_id", .str evaluation.policyId),
    ("policy_version", .str evaluation.policyVersion),
    ("previous_state", jsonOf (fun state => .str state.text) evaluation.previousState),
    ("severity", .str evaluation.severity.text),
    ("state", jsonOf (fun state => .str state.text) evaluation.state),
    ("tenant_id", .str evaluation.tenantId),
    ("threshold_classification", .str evaluation.thresholdClassification.text),
    ("threshold_value", .float evaluation.thresholdValue),
    ("transition", .str evaluation.transition.text),
    ("window", .str evaluation.windowLabel),
    ("window_id", .str evaluation.windowId)]

end StockoutOps.Alerting
