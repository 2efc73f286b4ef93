import Mathlib.Algebra.Order.Field.Rat
import Mathlib.Tactic.NormNum
import StockoutOps.Shadow.ComparisonLaws
import StockoutOps.Shadow.Outcomes
import StockoutOps.Shadow.Report

/-!
Contract: the two numbers that are called `citation_coverage`.

Owns: what it means that they measure the citations of a run, in a batch of
processed runs and in its report, and when they do.

Does not own: the rounding of the ratios, which are exact here.
-/

namespace StockoutOps.Shadow

open StockoutOps.Investigation StockoutOps.Sql

/-- A run with its outcome and its comparison, as `process` computes them. -/
structure ProcessedRun (service : ShadowService) where
  case : ShadowCase
  observed : Observed
  result : ShadowResult
  assembled : service.assemble case observed = .ok result.actual
  compared : Shadow.compare case result.actual = .ok result.comparison

/-- The evidence ids that the accepted draft cites. -/
def Observed.citedIds (observed : Observed) : List String :=
  observed.evidenceIds.dedup.filter fun evidenceId => evidenceId ∈ observed.citationIds

/-- The fraction of the evidence ids that the accepted draft cites. -/
def Observed.citedShare (observed : Observed) : ℚ :=
  if observed.evidenceIds = [] then 0
  else ratio observed.citedIds.length observed.evidenceIds.dedup.length

/-- Sums and quotients of zeros are zero. -/
structure ExactZeros (platform : ReportPlatform) : Prop where
  sum : platform.floatAdd (.finite 0) (.finite 0) = .finite 0
  quotient : ∀ count, 0 < count → platform.floatQuotient (.finite 0) count = .finite 0

section Batches

variable {service : ShadowService}

/-- Both numbers measure the citations of every run, and the report of runs that cite
nothing has no coverage. -/
structure CoverageMeasuresCitations (runs : List (ProcessedRun service)) : Prop where
  same : ∀ run ∈ runs, run.result.comparison.citationCoverage = run.result.actual.citationCoverage
  measures : ∀ run ∈ runs, run.result.actual.citationCoverage = run.observed.citedShare
  report : (∀ run ∈ runs, run.observed.citationIds = []) →
    ∀ platform loaded gitSha generatedAt testEvidence report, ExactZeros platform →
      aggregateReport platform (runs.map ProcessedRun.result) loaded gitSha generatedAt
        testEvidence = .ok report →
      ∃ metrics, report.member? "metrics" = some metrics ∧
        metrics.member? "citation_coverage" = some (.float (.finite 0))

/-- The required tools that were retrieved are as large a part of the required tools
as the cited ids are of the evidence ids; or there is no evidence. -/
def SharesAgree (run : ProcessedRun service) : Prop :=
  let required := run.case.minimumEvidenceCitationExpectations.requiredTools
  let retrieved := required.filter fun tool =>
    tool ∈ run.observed.detail.evidence.map Evidence.tool
  run.observed.evidenceIds = [] ∨
    retrieved.length * run.observed.evidenceIds.dedup.length =
      run.observed.citedIds.length * required.length

end Batches

/-! ## One run -/

section Runs

variable {service : ShadowService}

/-- What is cited of the evidence is what of the evidence is cited. -/
theorem citedIds_length (observed : Observed) :
    (observed.citationIds.dedup.filter fun citation => citation ∈ observed.evidenceIds).length =
      observed.citedIds.length := by
  refine (List.Perm.length_eq ?_)
  refine (List.perm_ext_iff_of_nodup ((List.nodup_dedup _).filter _)
    ((List.nodup_dedup _).filter _)).mpr fun id => ?_
  simp [and_comm]

theorem coverage_measures (run : ProcessedRun service) :
    run.result.actual.citationCoverage = run.observed.citedShare := by
  rw [(outcomeOf_assemble run.assembled).coverage, citedIds_length]
  rfl

theorem citedShare_of_uncited {observed : Observed} (uncited : observed.citationIds = []) :
    observed.citedShare = 0 := by
  simp [Observed.citedShare, Observed.citedIds, uncited, ratio]

/-- The required tools that were retrieved. -/
def retrievedTools (run : ProcessedRun service) : List ToolName :=
  run.case.minimumEvidenceCitationExpectations.requiredTools.filter fun tool =>
    tool ∈ run.observed.detail.evidence.map Evidence.tool

theorem comparison_coverage (run : ProcessedRun service) :
    run.result.comparison.citationCoverage = ratio (retrievedTools run).length
      run.case.minimumEvidenceCitationExpectations.requiredTools.length := by
  have compared := run.compared
  rw [compare_eq] at compared
  rw [← Except.ok.inj compared]
  have unique := List.Nodup.map ToolName.value_injective
    run.case.minimumEvidenceCitationExpectations.unique
  have named : ∀ tool : ToolName, tool.value ∈ run.result.actual.evidenceTools ↔
      tool ∈ run.observed.detail.evidence.map Evidence.tool := by
    intro tool
    rw [(outcomeOf_assemble run.assembled).evidenceTools]
    simp only [List.mem_map, ToolName.value_injective.eq_iff]
  simp only [toolCoverage, MinimumEvidenceExpectation.toolNames, unique.dedup, List.filter_map,
    List.length_map, Function.comp_def, named, retrievedTools]

theorem sharesAgree_iff (run : ProcessedRun service) :
    run.result.comparison.citationCoverage = run.observed.citedShare ↔ SharesAgree run := by
  have required : (0 : ℚ) <
      run.case.minimumEvidenceCitationExpectations.requiredTools.length := by
    exact_mod_cast List.length_pos_iff.mpr run.case.minimumEvidenceCitationExpectations.notEmpty
  rw [comparison_coverage, Observed.citedShare]
  by_cases none_ : run.observed.evidenceIds = []
  · have evidence : run.observed.detail.evidence = [] := List.map_eq_nil_iff.mp none_
    simp [none_, SharesAgree, retrievedTools, evidence, ratio]
  · have ids : (0 : ℚ) < run.observed.evidenceIds.dedup.length := by
      exact_mod_cast List.length_pos_iff.mpr fun nil => none_ ((List.dedup_eq_nil _).mp nil)
    rw [if_neg none_, ratio, ratio, div_eq_div_iff required.ne' ids.ne']
    simp only [SharesAgree, none_, false_or, retrievedTools]
    norm_cast

end Runs

/-! ## The report -/

section Reports

variable {platform : ReportPlatform} {loaded : LoadedCasePack} {results : List ShadowResult}

/-- The sum of coverages that are zero is zero. -/
theorem totalCoverage_zero (exact : ExactZeros platform)
    (zero : ∀ result ∈ results, result.comparison.citationCoverage = 0)
    {sofar sums : Aggregation} (started : sofar.totalCoverage = .finite 0)
    (summed : results.foldlM (aggregateResult platform loaded) sofar = .ok sums) :
    sums.totalCoverage = .finite 0 := by
  induction results generalizing sofar with
  | nil =>
      obtain rfl := Except.ok.inj summed
      exact started
  | cons result rest inductionHypothesis =>
      rw [List.foldlM_cons] at summed
      obtain ⟨next, first, later⟩ := bind_eq_ok.mp summed
      unfold aggregateResult at first
      obtain ⟨case, -, first⟩ := bind_eq_ok.mp first
      obtain ⟨escalation, -, first⟩ := bind_eq_ok.mp first
      obtain rfl := Except.ok.inj first
      refine inductionHypothesis (fun other member => zero other (List.mem_cons_of_mem _ member))
        ?_ later
      rw [started, zero result List.mem_cons_self]
      exact exact.sum

theorem report_coverage_zero (exact : ExactZeros platform)
    (zero : ∀ result ∈ results, result.comparison.citationCoverage = 0)
    {gitSha generatedAt testEvidence : String} {report : Json}
    (made : aggregateReport platform results loaded gitSha generatedAt testEvidence =
      .ok report) :
    ∃ metrics, report.member? "metrics" = some metrics ∧
      metrics.member? "citation_coverage" = some (.float (.finite 0)) := by
  unfold aggregateReport at made
  obtain ⟨sums, summed, made⟩ := bind_eq_ok.mp made
  obtain rfl := Except.ok.inj made
  have total := totalCoverage_zero exact zero rfl summed
  refine ⟨reportMetrics platform results sums, by simp [Json.member?], ?_⟩
  have average : (if results.length = 0 then PyFloat.finite 0 else
      platform.floatQuotient sums.totalCoverage results.length) = .finite 0 := by
    split
    case isTrue => rfl
    case isFalse some_ => rw [total, exact.quotient _ (Nat.pos_of_ne_zero some_)]
  rw [reportMetrics]
  simp only [average]
  rfl

end Reports

/-- The coverage of the comparison measures citations exactly where the retrieved
tools are the same share as the cited ids. -/
theorem coverageMeasuresCitations_iff {service : ShadowService}
    (runs : List (ProcessedRun service)) :
    CoverageMeasuresCitations runs ↔ ∀ run ∈ runs, SharesAgree run := by
  constructor
  · intro measured run listed
    exact (sharesAgree_iff run).mp ((measured.same run listed).trans (coverage_measures run))
  · intro agree
    have cited : ∀ run ∈ runs, run.result.comparison.citationCoverage = run.observed.citedShare :=
      fun run listed => (sharesAgree_iff run).mpr (agree run listed)
    refine ⟨fun run listed => (cited run listed).trans (coverage_measures run).symm,
      fun run _ => coverage_measures run, ?_⟩
    intro uncited platform loaded gitSha generatedAt testEvidence report exact made
    refine report_coverage_zero exact (fun result listed => ?_) made
    obtain ⟨run, there, rfl⟩ := List.mem_map.mp listed
    rw [cited run there, citedShare_of_uncited (uncited run there)]

/-! ### An escalated run with its evidence -/

def escalatedOutcome : ShadowActualOutcome where
  state := "escalated"
  escalated := true
  escalationCode := none
  rootCauseStatement := none
  recommendationActionType := none
  confidence := none
  evidenceTools := ["T1_inventory"]
  evidenceIds := [shelfItem.evidenceId]
  citationIds := []
  unsupportedCitationCount := 0
  missingRequiredEvidenceCount := 0
  citationCoverage := ratio 0 1
  schemaValid := true
  reasoningInvoked := false
  providerLabel := "not-invoked"
  latencyMs := .finite 0
  estimatedCostUsd := none
  costEvidenceLabel := .unmeasured

def escalatedComparison : ShadowComparison where
  exactAgreement := (disagreements (entries genuineCase escalatedOutcome)).isEmpty
  entries := entries genuineCase escalatedOutcome
  disagreementCategories := disagreements (entries genuineCase escalatedOutcome)
  unsupportedCitationCount := 0
  missingRequiredEvidenceCount :=
    missingCount genuineCase.minimumEvidenceCitationExpectations.toolNames ["T1_inventory"]
  citationCoverage := toolCoverage genuineCase ["T1_inventory"]

/-- The run escalated with its inventory evidence and without a draft. -/
def escalatedRun : ProcessedRun outcomeService where
  case := genuineCase
  observed := shelfRun .escalated none
  result :=
    { shadowRunId := 1
      investigationRunId := 1
      caseId := genuineCase.caseId
      caseVersion := genuineCase.caseVersion
      casePackVersion := "m2-shadow-cases-v1-2026-01-01"
      tenantId := genuineCase.tenantId
      processorVersion := processorVersion
      promptVersion := promptVersion
      provenanceLabel := .genuineUatAnalystLabelled
      baselineSource := .analystReference
      outputHash := "454349e422f05297191ead13e21d3db520e5abef52055e4964b82fb213f593a1"
      diffHash := "454349e422f05297191ead13e21d3db520e5abef52055e4964b82fb213f593a1"
      actual := escalatedOutcome
      comparison := escalatedComparison
      idempotentReplay := false }
  assembled := rfl
  compared := compare_eq genuineCase escalatedOutcome

/-- Nothing is cited, and the comparison says that everything is. -/
theorem escalated_run_fully_covered :
    escalatedRun.observed.citationIds = [] ∧
      escalatedRun.result.actual.citationCoverage = 0 ∧
      escalatedRun.result.comparison.citationCoverage = 1 ∧
      ¬ CoverageMeasuresCitations [escalatedRun] := by
  have uncited : escalatedRun.observed.citationIds = [] := rfl
  have none_ : escalatedRun.result.actual.citationCoverage = 0 :=
    (coverage_measures escalatedRun).trans (citedShare_of_uncited uncited)
  have all : escalatedRun.result.comparison.citationCoverage = 1 := by
    rw [comparison_coverage]
    have retrieved : (retrievedTools escalatedRun).length = 1 := by decide
    have required :
        escalatedRun.case.minimumEvidenceCitationExpectations.requiredTools.length = 1 := rfl
    rw [retrieved, required]
    norm_num [ratio]
  refine ⟨uncited, none_, all, fun measured => ?_⟩
  have same := measured.same escalatedRun List.mem_cons_self
  rw [none_, all] at same
  exact one_ne_zero same

end StockoutOps.Shadow
