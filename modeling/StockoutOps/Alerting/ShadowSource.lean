import StockoutOps.Alerting.Contracts
import StockoutOps.Shadow.Report

/-!
Contract: the metric snapshots of a shadow report, `load_shadow_alert_source` of
`alerting/report.py`.

Owns: the readers of JSON members with their messages, the counts of one tenant,
and the loader on the JSON value of a file.

Does not own: the text of the file.
-/

namespace StockoutOps.Alerting

open StockoutOps.Foundation.Grouping
open StockoutOps.Shadow StockoutOps.Sql

/-! ## Readers -/

/-- `_mapping` -/
def mapping (value : Option Json) (name : String) : Except ReportFailure Json :=
  match value with
  | some (.obj members) => .ok (.obj members)
  | _ => .error (.valueError (name ++ " must be an object"))

/-- `_items` -/
def items (value : Option Json) (name : String) : Except ReportFailure (List Json) :=
  match value with
  | some (.arr values) => .ok values
  | _ => .error (.valueError (name ++ " must be an array"))

/-- `_integer` -/
def integer (value : Option Json) (name : String) : Except ReportFailure Nat :=
  match value with
  | some (.int value) =>
      if value < 0 then .error (.valueError (name ++ " must be a non-negative integer"))
      else .ok value.toNat
  | _ => .error (.valueError (name ++ " must be a non-negative integer"))

def latencyInvalid : ReportFailure :=
  .valueError "actual.latency_ms must be a non-negative number"

/-- The check of `latency_ms`, with `float(latency)`. -/
def latency (platform : ReportPlatform) : Option Json → Except ReportFailure PyFloat
  | some (.int value) =>
      if value < 0 then .error latencyInvalid
      else
        match platform.floatOfInt value with
        | some converted => .ok converted
        | none => .error .overflowError
  | some (.float value) => if floatLess value (.finite 0) then .error latencyInvalid else .ok value
  | _ => .error latencyInvalid

/-- `str(value)`, where an absent member is `""`. -/
def text (platform : ReportPlatform) : Option Json → String
  | none => ""
  | some (.str value) => value
  | some value => platform.repr value

/-! ## One tenant -/

/-- The variables of the loop over the results of a tenant. -/
structure TenantCounts where
  escalationDisagreements : Nat
  missingEvidence : Nat
  unsupportedClaims : Nat
  externalActions : Nat
  latencies : List PyFloat

def TenantCounts.empty : TenantCounts := ⟨0, 0, 0, 0, []⟩

/-- `isinstance(entry, dict) and entry.get("field_name") == "escalated"` -/
def isEscalationEntry (entry : Json) : Bool :=
  entry.member? "field_name" == some (.str "escalated")

def countResult (platform : ReportPlatform) (counts : TenantCounts) (result : Json) :
    Except ReportFailure TenantCounts := do
  let actual ← mapping (result.member? "actual") "result.actual"
  let comparison ← mapping (result.member? "comparison") "result.comparison"
  if actual.member? "execute" ≠ some (.bool false) then
    throw (.valueError "Every shadow case must have execute=false")
  let external ← integer (actual.member? "external_action_count") "actual.external_action_count"
  let missing ← integer (comparison.member? "missing_required_evidence_count")
    "comparison.missing_required_evidence_count"
  let unsupported ← integer (comparison.member? "unsupported_citation_count")
    "comparison.unsupported_citation_count"
  let latencyMs ← latency platform (actual.member? "latency_ms")
  let entries ← items (comparison.member? "entries") "comparison.entries"
  match entries.find? isEscalationEntry with
  | none => throw (.valueError "Every comparison requires an escalated field")
  | some escalation =>
      pure
        { escalationDisagreements := counts.escalationDisagreements +
            if escalation.member? "agreement" ≠ some (.str "exact") then 1 else 0
          missingEvidence := counts.missingEvidence + missing
          unsupportedClaims := counts.unsupportedClaims + unsupported
          externalActions := counts.externalActions + external
          latencies := counts.latencies ++ [latencyMs] }

/-- A pydantic `ValidationError`; its message lists the failed checks. -/
def snapshotInvalid : ReportFailure := .valueError "validation error for AlertMetricSnapshot"

/-- `AlertMetricSnapshot(...)` with its `AlertCorrelation`; the label of the source
and `execute` have one value. -/
def metricSnapshot (tenantId windowId sourceHash : String) (caseCount : Nat)
    (counts : TenantCounts) (average : PyFloat) : Except ReportFailure AlertMetricSnapshot :=
  if tenant : lengthBetween 1 100 tenantId = true then
    if valid : lengthBetween 1 200 windowId = true ∧ isHex64 sourceHash = true ∧
        atLeastZero average = true ∧ counts.escalationDisagreements ≤ caseCount then
      .ok
        { correlation := ⟨tenantId, none, none, tenant, rfl, rfl⟩
          windowId := windowId
          sourceReportSha256 := sourceHash
          evidenceLabel := .simulated
          caseCount := caseCount
          escalationDisagreementCount := some counts.escalationDisagreements
          missingRequiredEvidenceCount := some counts.missingEvidence
          unsupportedClaimCount := some counts.unsupportedClaims
          externalActionCount := some counts.externalActions
          shadowProcessingFailureCount := none
          deterministicProviderLatencyMs := some average
          windowId_length := valid.1
          sourceReportSha256_hex := valid.2.1
          latency_nonneg := valid.2.2.1
          disagreement_le := decide_eq_true valid.2.2.2
          failure_le := rfl
          simulated := rfl }
    else .error snapshotInvalid
  else .error snapshotInvalid

/-- The body of the loop over the tenants, with the external actions it observed. -/
def tenantSnapshot (platform : ReportPlatform) (windowId sourceHash : String)
    (entry : String × List Json) : Except ReportFailure (AlertMetricSnapshot × Nat) := do
  let counts ← entry.2.foldlM (countResult platform) .empty
  let snapshot ← metricSnapshot entry.1 windowId sourceHash entry.2.length counts
    (platform.floatQuotient (platform.floatSum counts.latencies) counts.latencies.length)
  pure (snapshot, counts.externalActions)

/-! ## The loader -/

structure LoadedAlertSource where
  sourceReportSha256 : String
  sourceShadowGitSha : String
  casePackVersion : String
  snapshots : List AlertMetricSnapshot

/-- `tenant_id` and `result` of one item of `cases`. -/
def tenantResult (platform : ReportPlatform) (item : Json) :
    Except ReportFailure (String × Json) := do
  let case ← mapping (some item) "case"
  let result ← mapping (case.member? "result") "case.result"
  let tenantId := text platform (result.member? "tenant_id")
  if tenantId = "" then throw (.valueError "Every shadow result requires tenant_id")
  pure (tenantId, result)

def perTenant (results : List (String × Json)) : List (String × List Json) :=
  results.foldl (fun table result => push result.1 result.2 table) []

def loadShadowAlertSource (platform : ReportPlatform) (file : Json) :
    Except ReportFailure LoadedAlertSource := do
  let payload ← mapping (some file) "shadow report"
  if payload.member? "title" ≠ some (.str sourceReportLabel) ∨
      payload.member? "evidence_label" ≠ some (.str "SIMULATED") then
    throw (.valueError "Alert pilot accepts only the labelled simulated M2 shadow report")
  let controls ← mapping (payload.member? "controls") "controls"
  if controls.member? "execute" ≠ some (.bool false) then
    throw (.valueError "Shadow alert source must be hard-locked to execute=false")
  if controls.member? "provider" ≠ some (.str "deterministic-stub-v1") then
    throw (.valueError "Alert pilot accepts only deterministic-stub shadow evidence")
  let pack ← mapping (payload.member? "case_pack") "case_pack"
  let packVersion := text platform (pack.member? "version")
  let generatedAt := text platform (payload.member? "generated_at")
  let sourceHash := platform.fileSha256 file
  let cases ← items (payload.member? "cases") "cases"
  let results ← cases.mapM (tenantResult platform)
  if results = [] then
    throw (.valueError "Shadow alert source requires at least one case result")
  let observed ← (sortedItems (perTenant results)).mapM
    (tenantSnapshot platform (packVersion ++ ":" ++ generatedAt) sourceHash)
  let external ← integer (controls.member? "external_action_count")
    "controls.external_action_count"
  if external ≠ (observed.map Prod.snd).sum then
    throw (.valueError "Aggregate and per-case external action counts disagree")
  pure
    { sourceReportSha256 := sourceHash
      sourceShadowGitSha := text platform (payload.member? "exact_git_sha")
      casePackVersion := packVersion
      snapshots := observed.map Prod.fst }

end StockoutOps.Alerting
