import Mathlib.Data.String.Basic
import StockoutOps.Floats
import StockoutOps.Foundation.Grouping
import StockoutOps.Shadow.Comparison

/-!
Contract: the aggregate of shadow results, `aggregate_report` of
`shadow/report.py`.

Owns: the JSON of a result, the loaded case pack with what its validators
require, and the report as a JSON value.

Does not own: the arithmetic of floats, the digests and the text of a UUID, which
are parameters; the Markdown rendering and the files.

A text of the report that quotes a time is given as that text.
-/

namespace StockoutOps.Shadow

open StockoutOps.Foundation.Grouping
open StockoutOps.Investigation StockoutOps.Sql

/-! ## Floats -/

/-- `min(items, default=0.0)` -/
def minimum : List PyFloat → PyFloat
  | [] => .finite 0
  | first :: rest =>
      rest.foldl (fun best item => if floatLess item best then item else best) first

/-- `max(items, default=0.0)` -/
def maximum : List PyFloat → PyFloat
  | [] => .finite 0
  | first :: rest =>
      rest.foldl (fun best item => if floatLess best item then item else best) first

/-- What the reports take from the interpreter: the arithmetic of their averages,
`str` of a UUID and of a value that is no text, `float` of an integer (`none` is an
`OverflowError`), and the digests of a case and of a written file. The average of
finite floats that are not negative is not negative; it may be infinite. -/
structure ReportPlatform where
  floatAdd : PyFloat → PyFloat → PyFloat
  floatSum : List PyFloat → PyFloat
  floatQuotient : PyFloat → Nat → PyFloat
  floatOfInt : Int → Option PyFloat
  uuidText : Nat → String
  repr : Json → String
  caseSha256 : Json → String
  fileSha256 : Json → String
  average_nonneg : ∀ items : List PyFloat, items ≠ [] →
    (∀ item ∈ items, ∃ value, 0 ≤ value ∧ item = .finite value) →
      floatLess (floatQuotient (floatSum items) items.length) (.finite 0) = false ∧
        floatQuotient (floatSum items) items.length ≠ .nan
  fileSha256_hex : ∀ value, isHex64 (fileSha256 value) = true

/-! ## JSON of a result -/

def Agreement.value : Agreement → String
  | .exact => "exact"
  | .partly => "partial"
  | .disagree => "disagree"

theorem Agreement.value_eq_exact {agreement : Agreement} :
    agreement.value = "exact" ↔ agreement = .exact := by
  cases agreement <;> simp [Agreement.value]

def CostEvidenceLabel.value : CostEvidenceLabel → String
  | .simulated => "SIMULATED"
  | .unmeasured => "UNMEASURED"

def floatOrNull : Option PyFloat → Json
  | none => .null
  | some value => .float value

def ShadowActualOutcome.modelDump (actual : ShadowActualOutcome) : Json :=
  .obj [("state", .str actual.state), ("escalated", .bool actual.escalated),
    ("escalation_code", textOrNull actual.escalationCode),
    ("root_cause_statement", textOrNull actual.rootCauseStatement),
    ("recommendation_action_type", textOrNull actual.recommendationActionType),
    ("confidence", textOrNull actual.confidence),
    ("evidence_tools", texts actual.evidenceTools), ("evidence_ids", texts actual.evidenceIds),
    ("citation_ids", texts actual.citationIds),
    ("unsupported_citation_count", .int actual.unsupportedCitationCount),
    ("missing_required_evidence_count", .int actual.missingRequiredEvidenceCount),
    ("citation_coverage", .float (.finite actual.citationCoverage)),
    ("schema_valid", .bool actual.schemaValid),
    ("reasoning_invoked", .bool actual.reasoningInvoked),
    ("provider_label", .str actual.providerLabel), ("latency_ms", .float actual.latencyMs),
    ("estimated_cost_usd", floatOrNull actual.estimatedCostUsd),
    ("cost_evidence_label", .str actual.costEvidenceLabel.value), ("execute", .bool false),
    ("external_action_count", .int 0)]

def ShadowDiffEntry.modelDump (entry : ShadowDiffEntry) : Json :=
  .obj [("field_name", .str entry.fieldName), ("agreement", .str entry.agreement.value),
    ("expected", entry.expected), ("actual", entry.actual), ("category", .str entry.category)]

def ShadowComparison.modelDump (comparison : ShadowComparison) : Json :=
  .obj [("exact_agreement", .bool comparison.exactAgreement),
    ("entries", .arr (comparison.entries.map ShadowDiffEntry.modelDump)),
    ("disagreement_categories", texts comparison.disagreementCategories),
    ("unsupported_citation_count", .int comparison.unsupportedCitationCount),
    ("missing_required_evidence_count", .int comparison.missingRequiredEvidenceCount),
    ("citation_coverage", .float (.finite comparison.citationCoverage))]

def ShadowResult.modelDump (platform : ReportPlatform) (result : ShadowResult) : Json :=
  .obj [("shadow_run_id", .str (platform.uuidText result.shadowRunId)),
    ("investigation_run_id", .str (platform.uuidText result.investigationRunId)),
    ("case_id", .str result.caseId), ("case_version", .str result.caseVersion),
    ("case_pack_version", .str result.casePackVersion), ("tenant_id", .str result.tenantId),
    ("processor_version", .str result.processorVersion),
    ("prompt_version", .str result.promptVersion), ("tool_schema_version", .str "v1"),
    ("provenance_label", .str result.provenanceLabel.value),
    ("baseline_source", .str result.baselineSource.value),
    ("output_hash", .str result.outputHash), ("diff_hash", .str result.diffHash),
    ("actual", result.actual.modelDump), ("comparison", result.comparison.modelDump),
    ("idempotent_replay", .bool result.idempotentReplay)]

/-! ## The case pack -/

def isDigit (char : Char) : Bool := '0' ≤ char && char ≤ '9'

/-- `^m2-shadow-cases-v[1-9][0-9]*-[0-9]{4}-[0-9]{2}-[0-9]{2}$` -/
def isPackVersion (value : String) : Bool :=
  let rest := value.toList.drop 17
  let number := rest.takeWhile isDigit
  value.toList.take 17 == "m2-shadow-cases-v".toList && number != [] && number.head? != some '0' &&
    match rest.drop number.length with
    | ['-', a, b, c, d, '-', e, f, '-', g, h] => [a, b, c, d, e, f, g, h].all isDigit
    | _ => false

def ShadowCase.identity (case : ShadowCase) : String × String := (case.caseId, case.caseVersion)

structure ShadowCasePack where
  casePackVersion : String
  cases : List ShadowCase
  casePackVersion_pattern : isPackVersion casePackVersion = true
  cases_length : 12 ≤ cases.length
  /-- `validate_unique_cases` -/
  unique : (cases.map ShadowCase.identity).Nodup
  categories : 4 ≤ (cases.map ShadowCase.category).dedup.length
  simulated : ∀ case ∈ cases, case.provenanceLabel = .simulated
  synthetic : ∀ case ∈ cases, case.baselineSource = .controlledSyntheticReference

structure LoadedCasePack where
  pack : ShadowCasePack
  casesSha256 : String
  manifestSha256 : String

/-! ## `aggregate_report` -/

/-- An exception of the reports. A pydantic `ValidationError` is a `ValueError`. -/
inductive ReportFailure where
  | keyError (identity : String × String)
  | stopIteration
  | valueError (message : String)
  | attributeError
  | typeError
  | overflowError
deriving DecidableEq

def reportTitle : String := "M2 SHADOW FOUNDATION — SIMULATED ENGINEERING REHEARSAL"

/-- `next(entry for entry in … if entry.field_name == "escalated")` -/
def escalationEntry (comparison : ShadowComparison) : Except ReportFailure ShadowDiffEntry :=
  match comparison.entries.find? (fun entry => entry.fieldName == "escalated") with
  | some entry => .ok entry
  | none => .error .stopIteration

/-- `cases[(case_id, case_version)]` -/
def LoadedCasePack.case (loaded : LoadedCasePack) (identity : String × String) :
    Except ReportFailure ShadowCase :=
  match loaded.pack.cases.find? (fun case => case.identity == identity) with
  | some case => .ok case
  | none => .error (.keyError identity)

/-- The variables of the loop over the results. -/
structure Aggregation where
  disagreementCategories : List (String × Nat)
  fieldDisagreements : List (String × Nat)
  caseCategories : List (String × Nat)
  escalationAgreements : Nat
  totalCoverage : PyFloat
  latencies : List PyFloat
  perCase : List Json

def Aggregation.empty : Aggregation := ⟨[], [], [], 0, .finite 0, [], []⟩

def aggregateResult (platform : ReportPlatform) (loaded : LoadedCasePack)
    (sofar : Aggregation) (result : ShadowResult) : Except ReportFailure Aggregation := do
  let case ← loaded.case (result.caseId, result.caseVersion)
  let escalation ← escalationEntry result.comparison
  pure
    { disagreementCategories :=
        update sofar.disagreementCategories result.comparison.disagreementCategories
      fieldDisagreements := update sofar.fieldDisagreements
        ((result.comparison.entries.filter (fun entry => entry.agreement ≠ .exact)).map
          ShadowDiffEntry.fieldName)
      caseCategories := update sofar.caseCategories [case.category]
      escalationAgreements :=
        sofar.escalationAgreements + if escalation.agreement = .exact then 1 else 0
      totalCoverage := platform.floatAdd sofar.totalCoverage
        (.finite result.comparison.citationCoverage)
      latencies := sofar.latencies ++ [result.actual.latencyMs]
      perCase := sofar.perCase ++
        [.obj [("category", .str case.category),
          ("case_payload_sha256", .str (platform.caseSha256 case.modelDump)),
          ("result", result.modelDump platform)]] }

/-- `dict(sorted(counter.items()))` -/
def sortedCounts (counter : List (String × Nat)) : Json :=
  .obj ((sortedItems counter).map fun entry => (entry.1, .int entry.2))

def exactAgreements (results : List ShadowResult) : Nat :=
  results.countP (fun result => result.comparison.exactAgreement)

def partialAgreements (results : List ShadowResult) : Nat :=
  results.countP (fun result => !result.comparison.exactAgreement &&
    result.comparison.entries.any (fun entry => entry.agreement = .exact))

def reportMetrics (platform : ReportPlatform) (results : List ShadowResult)
    (sums : Aggregation) : Json :=
  let count := results.length
  let exact := exactAgreements results
  .obj [("case_count", .int count), ("exact_agreements", .int exact),
    ("partial_agreements", .int (partialAgreements results)),
    ("disagreements", .int (count - exact)),
    ("escalation_agreements", .int sums.escalationAgreements),
    ("citation_coverage", .float
      (if count = 0 then .finite 0 else platform.floatQuotient sums.totalCoverage count)),
    ("unsupported_claim_count", .int
      ((results.map fun result => result.comparison.unsupportedCitationCount).sum : Nat)),
    ("missing_required_evidence_count", .int
      ((results.map fun result => result.comparison.missingRequiredEvidenceCount).sum : Nat)),
    ("latency_ms", .obj [("minimum", .float (minimum sums.latencies)),
      ("average", .float (if count = 0 then .finite 0 else
        platform.floatQuotient (platform.floatSum sums.latencies) count)),
      ("maximum", .float (maximum sums.latencies)),
      ("label", .str "SIMULATED deterministic-provider metadata")]),
    ("disagreement_categories", sortedCounts sums.disagreementCategories),
    ("field_disagreements", sortedCounts sums.fieldDisagreements)]

/-- Every outcome has the literal `external_action_count` 0. -/
def reportControls (results : List ShadowResult) : Json :=
  .obj [("provider", .str "deterministic-stub-v1"), ("execute", .bool false),
    ("external_action_count", .int ((results.map fun _ => 0).sum : Nat)),
    ("openai_calls", .obj [("count", .int 0),
      ("label", .str "CODE/CONFIGURATION EVIDENCE — not network telemetry")]),
    ("aws_resources_used", .obj [("count", .int 0),
      ("label", .str "TASK-SCOPE EVIDENCE — no AWS command or integration path")])]

def aggregateReport (platform : ReportPlatform) (results : List ShadowResult)
    (loaded : LoadedCasePack) (gitSha generatedAt testEvidence : String) :
    Except ReportFailure Json := do
  let sums ← results.foldlM (aggregateResult platform loaded) .empty
  pure (.obj [("title", .str reportTitle), ("evidence_label", .str "SIMULATED"),
    ("claim_boundary", .str ("Controlled-synthetic deterministic engineering rehearsal only; " ++
      "not analyst agreement, model quality, UAT, production operation, or G1 exit evidence.")),
    ("exact_git_sha", .str gitSha), ("generated_at", .str generatedAt),
    ("case_pack", .obj [("version", .str loaded.pack.casePackVersion),
      ("cases_sha256", .str loaded.casesSha256),
      ("manifest_sha256", .str loaded.manifestSha256), ("case_count", .int results.length),
      ("categories", sortedCounts sums.caseCategories),
      ("baseline_source", .str "controlled_synthetic_reference"),
      ("provenance_label", .str "SIMULATED")]),
    ("controls", reportControls results),
    ("metrics", reportMetrics platform results sums),
    ("test_evidence", .str testEvidence),
    ("limitations", texts
      ["All cases and reference outcomes are controlled synthetic fixtures.",
        "No genuine analyst decisions, UAT users, live stockout cases, or model call exist.",
        "Synthetic agreement cannot establish reasoning quality or operational reliability.",
        "missing_required_evidence_count uses each case's required_tools set; " ++
          "see evaluation/shadow/METRICS.md.",
        "M2-04 SLO alerts are pending; no SLO compliance is claimed."]),
    ("m2_status", .obj [("M2-01", .str "merged engineering foundation (PR #18)"),
      ("M2-02", .str "merged engineering foundation (PR #18)"),
      ("M2-03", .str "PENDING — no users recruited"), ("M2-04", .str "PENDING — no SLO alerts"),
      ("M2-05", .str "PENDING — no first 100 genuine shadow cases"),
      ("M2-06", .str "PENDING — no G1 exit report or verdict")]),
    ("cases", .arr sums.perCase)])

end StockoutOps.Shadow
