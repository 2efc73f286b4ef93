import StockoutOps.Alerting.Policies
import StockoutOps.Alerting.ShadowAggregations
import StockoutOps.Shadow.Outcomes

/-!
Contract: the citations of a draft that are no evidence of its run, from the outcome
to the alert.

Owns: what it means that they are counted, that a count which is not zero reaches
the alert policy, and when they are counted.

Does not own: the reading of the run, and the file that the report is written to.
-/

namespace StockoutOps.Alerting

open StockoutOps.Investigation StockoutOps.Shadow StockoutOps.Sql

/-- The distinct cited ids that are no evidence ids of the run. -/
def unknownCitations (reasoning : ReasoningResult) (observed : Observed) : List String :=
  reasoning.citations.dedup.filter fun citation => citation ∉ observed.evidenceIds

/-- Results that the report and the alert source process. -/
structure ReportedBatch (loaded : LoadedCasePack) (results : List ShadowResult)
    (generatedAt : String) : Prop where
  compared : ∀ result ∈ results, Compared loaded result
  finite : ∀ result ∈ results, FiniteLatency result
  tenants : ∀ result ∈ results, lengthBetween 1 100 result.tenantId = true
  window : lengthBetween 1 200 (loaded.pack.casePackVersion ++ ":" ++ generatedAt) = true

/-- The report counts a claim, and the policy is breached for a tenant. -/
structure AlertsOn (platform : ReportPlatform) (report : Json) : Prop where
  counted : ∃ metrics count, report.member? "metrics" = some metrics ∧
    metrics.member? "unsupported_claim_count" = some (.int count) ∧ 0 < count
  breached : ∃ source, loadShadowAlertSource platform report = .ok source ∧
    ∃ snapshot ∈ source.snapshots, ∀ policy ∈ policies,
      policy.policyId = "shadow-unsupported-claim" → ∀ assessment,
        policy.assess snapshot = .ok assessment → assessment.breached = some true

/-- The count of the outcome is not zero, nor is any count that is made from it. -/
structure RaisesAlert (case : ShadowCase) (actual : ShadowActualOutcome) : Prop where
  outcome : 0 < actual.unsupportedCitationCount
  comparison : ∀ comparison, compare case actual = .ok comparison →
    0 < comparison.unsupportedCitationCount
  alerts : ∀ platform loaded results gitSha generatedAt testEvidence,
    ReportedBatch loaded results generatedAt → (∃ result ∈ results, result.actual = actual) →
      ∃ report, aggregateReport platform results loaded gitSha generatedAt testEvidence =
        .ok report ∧ AlertsOn platform report

/-- The outcome counts the unknown citations of a draft that parses. -/
structure CitationsCounted (case : ShadowCase) (observed : Observed)
    (reasoning : ReasoningResult) (actual : ShadowActualOutcome) : Prop where
  count : actual.unsupportedCitationCount = (unknownCitations reasoning observed).length
  schemaValid : actual.schemaValid = true
  raises : unknownCitations reasoning observed ≠ [] → RaisesAlert case actual

/-! ## From the outcome to the alert -/

theorem unsupported_of_compare {case : ShadowCase} {actual : ShadowActualOutcome}
    {comparison : ShadowComparison} (made : Shadow.compare case actual = .ok comparison) :
    comparison.unsupportedCitationCount = actual.unsupportedCitationCount := by
  unfold Shadow.compare at made
  obtain ⟨missing, -, made⟩ := bind_eq_ok.mp made
  obtain rfl := Except.ok.inj made
  rfl

/-- The policy is breached by a snapshot that counts a claim. -/
theorem breached_of_unsupported {snapshot : AlertMetricSnapshot} {count : Nat}
    {policy : AlertPolicy} {assessment : PolicyAssessment}
    (counted : snapshot.unsupportedClaimCount = some (count + 1)) (listed : policy ∈ policies)
    (named : policy.policyId = "shadow-unsupported-claim")
    (assessed : policy.assess snapshot = .ok assessment) : assessment.breached = some true := by
  simp only [policies, List.mem_cons, List.not_mem_nil, or_false] at listed
  rcases listed with rfl | rfl | rfl | rfl | rfl
  · exact absurd named (by decide)
  · exact absurd named (by decide)
  · exact absurd named (by decide)
  · exact breached_of_count assessed rfl (congrArg countValue counted)
  · exact absurd named (by decide)

/-- A count that is not zero is not lost on its way to the policy. -/
theorem raisesAlert_of_positive {case : ShadowCase} {actual : ShadowActualOutcome}
    (positive : 0 < actual.unsupportedCitationCount) : RaisesAlert case actual := by
  refine ⟨positive, fun comparison made => unsupported_of_compare made ▸ positive, ?_⟩
  rintro platform loaded results gitSha generatedAt testEvidence batch ⟨result, listed, rfl⟩
  obtain ⟨sums, written, summed, -, -, cases, reports⟩ :=
    aggregate_results platform batch.compared .empty
  obtain ⟨report, made, members⟩ :=
    aggregateReport_members gitSha generatedAt testEvidence summed
  rw [show sums.perCase = written from cases] at members
  obtain ⟨source, accepted, summarized⟩ := load_report members reports
    (List.ne_nil_of_mem listed) batch.compared batch.finite batch.tenants batch.window
  have counts : 0 < result.comparison.unsupportedCitationCount := by
    obtain ⟨case, -, -, compared⟩ := batch.compared result listed
    exact unsupported_of_compare compared ▸ positive
  have positiveSum : ∀ batch : List ShadowResult, result ∈ batch →
      0 < (batch.map fun result => result.comparison.unsupportedCitationCount).sum :=
    fun batch inside => counts.trans_le (List.le_sum_of_mem (List.mem_map_of_mem inside))
  refine ⟨report, made, ⟨_, ((results.map fun result =>
    result.comparison.unsupportedCitationCount).sum : Nat), members.metrics,
    by simp [reportMetrics, Json.member?], ?_⟩, source, accepted, ?_⟩
  · exact_mod_cast positiveSum results listed
  · have once := countedOnce summarized
    obtain ⟨snapshot, taken, tenant⟩ := once.covered result listed
    have inside : result ∈ results.filter fun result =>
        result.tenantId = snapshot.correlation.tenantId :=
      List.mem_filter.mpr ⟨listed, decide_eq_true tenant.symm⟩
    obtain ⟨less, total⟩ := Nat.exists_eq_succ_of_ne_zero (positiveSum _ inside).ne'
    refine ⟨snapshot, taken, fun policy inPolicies named assessment assessed => ?_⟩
    exact breached_of_unsupported ((once.counts snapshot taken).unsupported.trans
      (congrArg some total)) inPolicies named assessed

/-! ## When the unknown citations are counted -/

section Counted

variable {service : ShadowService} {case : ShadowCase} {observed : Observed} {payload : Json}
  {reasoning : ReasoningResult} {actual : ShadowActualOutcome}

theorem citationsCounted_of_count
    (count : actual.unsupportedCitationCount = (unknownCitations reasoning observed).length)
    (schemaValid : actual.schemaValid = true) : CitationsCounted case observed reasoning actual :=
  ⟨count, schemaValid, fun unknown =>
    raisesAlert_of_positive (count ▸ List.length_pos_iff.mpr unknown)⟩

/-- The unknown citations of a draft are counted exactly where there are none. -/
theorem citationsCounted_iff (stored : observed.draft = some payload)
    (parses : ReasoningResult.modelValidate payload = some reasoning)
    (returned : service.assemble case observed = .ok actual) :
    CitationsCounted case observed reasoning actual ↔
      ∀ citation ∈ reasoning.citations, citation ∈ observed.evidenceIds := by
  have outcome := outcomeOf_assemble returned
  constructor
  · intro counted
    by_contra unsupported
    have read := readDraft_unsupported stored parses unsupported
    have invalid := counted.schemaValid
    rw [outcome.schemaValid, read] at invalid
    cases invalid
  · intro supported
    have read := readDraft_supported stored parses supported
    refine citationsCounted_of_count ?_ ?_
    · rw [outcome.unsupported, unknownCitations, Observed.citationIds, read]
      rfl
    · rw [outcome.schemaValid, read]

end Counted

/-! ### A draft that cites an item of another run -/

def citing (citation : String) : ReasoningResult where
  rootCauseHypothesis :=
    { statement := ⟨"A late delivery.", by decide⟩
      confidence := .low
      citations := ⟨[shelfItem.evidenceId], by decide⟩ }
  recommendationDraft :=
    { actionType := .monitor
      rationale := ⟨"Stock is in transit.", by decide⟩
      citations := ⟨[citation], by simp⟩ }

def citingRun (citation : String) : Observed :=
  shelfRun .awaitingHuman (some (citing citation).modelDump)

theorem citingRun_returns (citation : String) :
    ∃ actual, outcomeService.assemble genuineCase (citingRun citation) = .ok actual :=
  ⟨_, rfl⟩

/-- What the draft cites is its evidence. -/
theorem shelf_citations_counted :
    ∃ actual, CitationsCounted genuineCase (citingRun shelfItem.evidenceId)
      (citing shelfItem.evidenceId) actual := by
  obtain ⟨actual, returned⟩ := citingRun_returns shelfItem.evidenceId
  exact ⟨actual, (citationsCounted_iff rfl (ReasoningResult.modelValidate_modelDump _)
    returned).mpr (by decide)⟩

/-- One of the two cited ids is unknown, and the outcome counts none. -/
theorem stray_citation_uncounted :
    ∃ actual, outcomeService.assemble genuineCase (citingRun "ev_other") = .ok actual ∧
      ReasoningResult.modelValidate (citing "ev_other").modelDump = some (citing "ev_other") ∧
      unknownCitations (citing "ev_other") (citingRun "ev_other") = ["ev_other"] ∧
      actual.unsupportedCitationCount = 0 ∧
      ¬ CitationsCounted genuineCase (citingRun "ev_other") (citing "ev_other") actual := by
  obtain ⟨actual, returned⟩ := citingRun_returns "ev_other"
  have unknown : unknownCitations (citing "ev_other") (citingRun "ev_other") = ["ev_other"] := by
    decide
  have parses := ReasoningResult.modelValidate_modelDump (citing "ev_other")
  have outcome := outcomeOf_assemble returned
  have read : readDraft (citingRun "ev_other").draft (citingRun "ev_other").evidenceIds =
      ⟨false, none⟩ := readDraft_unsupported rfl parses (by decide)
  have none_ : actual.unsupportedCitationCount = 0 := by
    rw [outcome.unsupported, Observed.citationIds, read]
    rfl
  refine ⟨actual, returned, parses, unknown, none_, fun counted => ?_⟩
  have one := counted.count
  rw [unknown, none_] at one
  cases one

end StockoutOps.Alerting
