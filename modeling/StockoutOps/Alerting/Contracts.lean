import StockoutOps.Json
import StockoutOps.Sql

/-!
Contract: the typed contracts of the shadow alert-policy evaluation,
`alerting/contracts.py`.

Owns: the literal types with their texts, and the correlation, the metric
snapshot and the policy assessment with what their validators require and the
values that `model_dump(mode="json")` makes of them.

Does not own: `AlertEvaluation`, which is read from a row.

A literal type with one value has no field: the dump writes the value. A count
with `ge=0` is a natural number.
-/

namespace StockoutOps.Alerting

open StockoutOps.Sql

/-! ## Literal types -/

inductive Transition where
  | initialOk | fired | stillFiring | resolved | stillOk | unmeasured
deriving DecidableEq, Repr

def Transition.text : Transition → String
  | .initialOk => "INITIAL_OK"
  | .fired => "FIRED"
  | .stillFiring => "STILL_FIRING"
  | .resolved => "RESOLVED"
  | .stillOk => "STILL_OK"
  | .unmeasured => "UNMEASURED"

inductive AlertState where
  | ok | firing | resolved
deriving DecidableEq, Repr

inductive MeasurementStatus where
  | evaluated | unmeasured
deriving DecidableEq, Repr

def AlertState.text : AlertState → String
  | .ok => "OK"
  | .firing => "FIRING"
  | .resolved => "RESOLVED"

def MeasurementStatus.text : MeasurementStatus → String
  | .evaluated => "EVALUATED"
  | .unmeasured => "UNMEASURED"

inductive Severity where
  | sev1 | sev2 | sev3
deriving DecidableEq, Repr

def Severity.text : Severity → String
  | .sev1 => "SEV1"
  | .sev2 => "SEV2"
  | .sev3 => "SEV3"

inductive ThresholdClassification where
  | target | engineeringTestThreshold
deriving DecidableEq, Repr

def ThresholdClassification.text : ThresholdClassification → String
  | .target => "TARGET"
  | .engineeringTestThreshold => "ENGINEERING TEST THRESHOLD"

inductive EvidenceLabel where
  | simulated | measured
deriving DecidableEq, Repr

def EvidenceLabel.text : EvidenceLabel → String
  | .simulated => "SIMULATED"
  | .measured => "MEASURED"

inductive MetricName where
  | externalActionCount | escalationDisagreementRate | missingRequiredEvidenceCount
  | unsupportedClaimCount | shadowProcessingErrorRate
deriving DecidableEq, Repr

def MetricName.text : MetricName → String
  | .externalActionCount => "external_action_count"
  | .escalationDisagreementRate => "escalation_disagreement_rate"
  | .missingRequiredEvidenceCount => "missing_required_evidence_count"
  | .unsupportedClaimCount => "unsupported_claim_count"
  | .shadowProcessingErrorRate => "shadow_processing_error_rate"

/-- A field that may be `None`. -/
def jsonOf {α : Type} (dump : α → Json) : Option α → Json
  | none => .null
  | some value => dump value

/-! ## Models -/

structure AlertCorrelation where
  tenantId : String
  runId : Option String
  caseId : Option String
  tenantId_length : lengthBetween 1 100 tenantId = true
  runId_length : nullOr (lengthBetween 1 100) runId = true
  caseId_length : nullOr (lengthBetween 1 100) caseId = true
deriving DecidableEq

def AlertCorrelation.toJson (correlation : AlertCorrelation) : Json :=
  .obj [("tenant_id", .str correlation.tenantId), ("run_id", jsonOf .str correlation.runId),
    ("case_id", jsonOf .str correlation.caseId)]

/-- `ge=0` on a float; a NaN does not pass. -/
def atLeastZero : PyFloat → Bool
  | .finite value => 0 ≤ value
  | .posInf => true
  | .negInf | .nan => false

/-- One tenant-scoped, execute-false shadow report window. -/
structure AlertMetricSnapshot where
  correlation : AlertCorrelation
  windowId : String
  sourceReportSha256 : String
  evidenceLabel : EvidenceLabel
  caseCount : Nat
  escalationDisagreementCount : Option Nat
  missingRequiredEvidenceCount : Option Nat
  unsupportedClaimCount : Option Nat
  externalActionCount : Option Nat
  shadowProcessingFailureCount : Option Nat
  deterministicProviderLatencyMs : Option PyFloat
  windowId_length : lengthBetween 1 200 windowId = true
  sourceReportSha256_hex : isHex64 sourceReportSha256 = true
  latency_nonneg : nullOr atLeastZero deterministicProviderLatencyMs = true
  disagreement_le :
    nullOr (fun count => decide (count ≤ caseCount)) escalationDisagreementCount = true
  failure_le : nullOr (fun count => decide (count ≤ caseCount)) shadowProcessingFailureCount = true
  simulated : evidenceLabel = .simulated

def sourceReportLabel : String := "M2 SHADOW FOUNDATION — SIMULATED ENGINEERING REHEARSAL"

def jsonCount : Option Nat → Json :=
  jsonOf (fun count => .int count)

def AlertMetricSnapshot.toJson (snapshot : AlertMetricSnapshot) : Json :=
  .obj [("correlation", snapshot.correlation.toJson), ("window_id", .str snapshot.windowId),
    ("source_report_sha256", .str snapshot.sourceReportSha256),
    ("source_report_label", .str sourceReportLabel),
    ("evidence_label", .str snapshot.evidenceLabel.text), ("execute", .bool false),
    ("case_count", .int snapshot.caseCount),
    ("escalation_disagreement_count", jsonCount snapshot.escalationDisagreementCount),
    ("missing_required_evidence_count", jsonCount snapshot.missingRequiredEvidenceCount),
    ("unsupported_claim_count", jsonCount snapshot.unsupportedClaimCount),
    ("external_action_count", jsonCount snapshot.externalActionCount),
    ("shadow_processing_failure_count", jsonCount snapshot.shadowProcessingFailureCount),
    ("deterministic_provider_latency_ms",
      jsonOf .float snapshot.deterministicProviderLatencyMs)]

structure PolicyAssessment where
  policyId : String
  policyVersion : String
  metricName : MetricName
  severity : Severity
  measurementStatus : MeasurementStatus
  thresholdClassification : ThresholdClassification
  thresholdValue : PyFloat
  window : String
  observedValue : Option PyFloat
  breached : Option Bool
  /-- EVALUATED requires an observed value and a breach result. -/
  evaluated_iff : measurementStatus = .evaluated ↔ observedValue.isSome ∧ breached.isSome

def comparator : String := ">"

def PolicyAssessment.toJson (assessment : PolicyAssessment) : Json :=
  .obj [("policy_id", .str assessment.policyId),
    ("policy_version", .str assessment.policyVersion),
    ("metric_name", .str assessment.metricName.text),
    ("severity", .str assessment.severity.text),
    ("measurement_status", .str assessment.measurementStatus.text),
    ("threshold_classification", .str assessment.thresholdClassification.text),
    ("threshold_value", .float assessment.thresholdValue), ("comparator", .str comparator),
    ("window", .str assessment.window),
    ("observed_value", jsonOf .float assessment.observedValue),
    ("breached", jsonOf .bool assessment.breached)]

end StockoutOps.Alerting
