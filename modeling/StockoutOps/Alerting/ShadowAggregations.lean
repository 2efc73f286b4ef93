import Mathlib.Data.Nat.Cast.Order.Field
import Mathlib.Tactic.NormNum
import StockoutOps.Alerting.ShadowSource
import StockoutOps.Shadow.Collection

/-!
Contract: three modules count the same shadow results.

Owns: what it means that the snapshots of a report, its metrics and the statistics
of the collection agree, and the proof that they do for every report of compared
results.

Does not own: the JSON text of the report and the validation of its results, which
give back what was written.
-/

namespace StockoutOps.Alerting

open StockoutOps.Foundation.Grouping
open StockoutOps.Shadow StockoutOps.Sql

/-! ## The statement -/

/-- The result compares the outcome with its case of the pack. -/
def Compared (loaded : LoadedCasePack) (result : ShadowResult) : Prop :=
  ∃ case ∈ loaded.pack.cases, case.identity = (result.caseId, result.caseVersion) ∧
    compare case result.actual = .ok result.comparison

/-- A finite latency that `ge=0` accepts. -/
def FiniteLatency (result : ShadowResult) : Prop :=
  ∃ value, 0 ≤ value ∧ result.actual.latencyMs = .finite value

def agreesOnEscalation (result : ShadowResult) : Bool :=
  (result.comparison.entries.find? fun entry => entry.fieldName == "escalated").any
    fun entry => entry.agreement = .exact

/-- The sum of a metric; `none` when a snapshot does not measure it. -/
def total (metric : AlertMetricSnapshot → Option Nat) (snapshots : List AlertMetricSnapshot) :
    Option Nat :=
  (snapshots.mapM metric).map List.sum

/-- A snapshot has the counts of these results. -/
structure CountsExactly (results : List ShadowResult) (snapshot : AlertMetricSnapshot) :
    Prop where
  caseCount : snapshot.caseCount = results.length
  escalation : snapshot.escalationDisagreementCount =
    some (results.countP fun result => !agreesOnEscalation result)
  missing : snapshot.missingRequiredEvidenceCount =
    some (results.map fun result => result.comparison.missingRequiredEvidenceCount).sum
  unsupported : snapshot.unsupportedClaimCount =
    some (results.map fun result => result.comparison.unsupportedCitationCount).sum
  external : snapshot.externalActionCount = some 0

/-- Every result is counted in one snapshot, that of its tenant. -/
structure CountedOnce (results : List ShadowResult) (snapshots : List AlertMetricSnapshot) :
    Prop where
  tenants : (snapshots.map (·.correlation.tenantId)).Nodup
  covered : ∀ result ∈ results, ∃ snapshot ∈ snapshots,
    snapshot.correlation.tenantId = result.tenantId
  counts : ∀ snapshot ∈ snapshots, CountsExactly
    (results.filter fun result => result.tenantId = snapshot.correlation.tenantId) snapshot

/-- The sums over the snapshots are the metrics and the controls of the report. -/
structure TotalsAgree (metrics controls : Json) (snapshots : List AlertMetricSnapshot) :
    Prop where
  cases : metrics.member? "case_count" = some (.int ((snapshots.map (·.caseCount)).sum : Nat))
  missing : ∃ count, total (·.missingRequiredEvidenceCount) snapshots = some count ∧
    metrics.member? "missing_required_evidence_count" = some (.int count)
  unsupported : ∃ count, total (·.unsupportedClaimCount) snapshots = some count ∧
    metrics.member? "unsupported_claim_count" = some (.int count)
  external : ∃ count, total (·.externalActionCount) snapshots = some count ∧
    controls.member? "external_action_count" = some (.int count)
  escalation : ∃ disagreements agreements : Nat,
    total (·.escalationDisagreementCount) snapshots = some disagreements ∧
      metrics.member? "escalation_agreements" = some (.int agreements) ∧
      disagreements + agreements = (snapshots.map (·.caseCount)).sum

def agreementKeys : List String :=
  ["case_count", "exact_agreements", "partial_agreements", "disagreements",
    "escalation_agreements", "unsupported_claim_count", "missing_required_evidence_count",
    "disagreement_categories"]

/-- The statistics of the collection are the metrics of the report. -/
def StatsAgree (stats metrics : Json) : Prop :=
  ∀ key ∈ agreementKeys, ∃ value, stats.member? key = some value ∧
    metrics.member? key = some value

/-! ## Loops that raise nothing -/

theorem foldlM_eq_ok_foldl {ε σ α : Type} {f : σ → α → Except ε σ} {g : σ → α → σ}
    {items : List α} (runs : ∀ state, ∀ item ∈ items, f state item = .ok (g state item))
    (state : σ) : items.foldlM f state = .ok (items.foldl g state) := by
  induction items generalizing state with
  | nil => rfl
  | cons head tail inductionHypothesis =>
      rw [List.foldlM_cons, runs state head List.mem_cons_self]
      exact inductionHypothesis (fun state item member =>
        runs state item (List.mem_cons_of_mem _ member)) _

theorem exists_mapM_eq_ok {ε α β : Type} {f : α → Except ε β} {Related : α → β → Prop}
    {items : List α} (runs : ∀ item ∈ items, ∃ value, f item = .ok value ∧ Related item value) :
    ∃ values, items.mapM f = .ok values ∧ List.Forall₂ Related items values := by
  induction items with
  | nil => exact ⟨[], rfl, .nil⟩
  | cons head tail inductionHypothesis =>
      obtain ⟨value, first, related⟩ := runs head List.mem_cons_self
      obtain ⟨values, rest, others⟩ := inductionHypothesis fun item member =>
        runs item (List.mem_cons_of_mem _ member)
      refine ⟨value :: values, mapM_eq_ok.mpr (.cons first (mapM_eq_ok.mp rest)), ?_⟩
      exact .cons related others

/-! ## Escalation entries -/

/-- The comparison of a case has an entry for the escalation. -/
theorem escalationEntry_of_compared {loaded : LoadedCasePack} {result : ShadowResult}
    (compared : Compared loaded result) :
    ∃ entry, result.comparison.entries.find? (fun entry => entry.fieldName == "escalated") =
        some entry ∧ escalationEntry result.comparison = .ok entry ∧
      agreesOnEscalation result = decide (entry.agreement = .exact) := by
  obtain ⟨case, -, -, same⟩ := compared
  obtain ⟨comparison, made, listed, -⟩ := compare_eq_ok case result.actual
  obtain rfl := Except.ok.inj (same.symm.trans made)
  have found : ∃ entry, result.comparison.entries.find?
      (fun entry => entry.fieldName == "escalated") = some entry := by
    rw [listed]
    exact ⟨_, rfl⟩
  obtain ⟨entry, found⟩ := found
  exact ⟨entry, found, by rw [escalationEntry, found],
    by rw [agreesOnEscalation, found]; rfl⟩

/-! ## The report -/

section Report

variable {platform : ReportPlatform} {loaded : LoadedCasePack} {results : List ShadowResult}

/-- What the report writes for a result. -/
def ItemOf (platform : ReportPlatform) (item : Json) (result : ShadowResult) : Prop :=
  ∃ category hash, item =
    .obj [("category", category), ("case_payload_sha256", hash),
      ("result", result.modelDump platform)]

theorem case_of_compared {result : ShadowResult} (compared : Compared loaded result) :
    ∃ case, loaded.case (result.caseId, result.caseVersion) = .ok case := by
  obtain ⟨case, listed, same, -⟩ := compared
  have found : (loaded.pack.cases.find? fun case =>
      case.identity == (result.caseId, result.caseVersion)).isSome := by
    exact List.find?_isSome.mpr ⟨case, listed, beq_iff_eq.mpr same⟩
  obtain ⟨first, found⟩ := Option.isSome_iff_exists.mp found
  exact ⟨first, by rw [LoadedCasePack.case, found]⟩

/-- The loop of `aggregate_report`. -/
theorem aggregate_results (platform : ReportPlatform)
    (compared : ∀ result ∈ results, Compared loaded result)
    (sofar : Aggregation) :
    ∃ sums written, results.foldlM (aggregateResult platform loaded) sofar = .ok sums ∧
      sums.escalationAgreements =
        sofar.escalationAgreements + results.countP agreesOnEscalation ∧
      sums.disagreementCategories = results.foldl (fun counter result =>
        update counter result.comparison.disagreementCategories) sofar.disagreementCategories ∧
      sums.perCase = sofar.perCase ++ written ∧
      List.Forall₂ (ItemOf platform) written results := by
  induction results generalizing sofar with
  | nil => exact ⟨sofar, [], rfl, rfl, rfl, (List.append_nil _).symm, .nil⟩
  | cons result rest inductionHypothesis =>
      obtain ⟨case, found⟩ := case_of_compared (compared result List.mem_cons_self)
      obtain ⟨entry, -, escalation, agrees⟩ :=
        escalationEntry_of_compared (compared result List.mem_cons_self)
      have first : ∃ next item, aggregateResult platform loaded sofar result = .ok next ∧
          next.escalationAgreements = sofar.escalationAgreements +
            (if entry.agreement = .exact then 1 else 0) ∧
          next.disagreementCategories = update sofar.disagreementCategories
            result.comparison.disagreementCategories ∧
          next.perCase = sofar.perCase ++ [item] ∧ ItemOf platform item result := by
        rw [aggregateResult, found, escalation]
        exact ⟨_, _, rfl, rfl, rfl, rfl, _, _, rfl⟩
      obtain ⟨next, item, ran, counted, tallied, listed, reported⟩ := first
      obtain ⟨sums, written, done, agreements, categories, cases, reports⟩ :=
        inductionHypothesis (fun other member => compared other (List.mem_cons_of_mem _ member))
          next
      refine ⟨sums, item :: written, ?_, ?_, ?_, ?_, .cons reported reports⟩
      · rw [List.foldlM_cons, ran]
        exact done
      · rw [agreements, counted, List.countP_cons, agrees]
        simp only [decide_eq_true_eq]
        omega
      · rw [categories, tallied, List.foldl_cons]
      · rw [cases, listed, List.append_assoc]
        rfl

end Report

/-! ## The snapshots -/

section Snapshots

variable {platform : ReportPlatform} {loaded : LoadedCasePack} {result : ShadowResult}

theorem integer_natCast (count : Nat) (name : String) :
    integer (some (.int count)) name = .ok count := by
  simp [integer]

theorem isEscalationEntry_modelDump (entry : ShadowDiffEntry) :
    isEscalationEntry entry.modelDump = (entry.fieldName == "escalated") := by
  simp [isEscalationEntry, ShadowDiffEntry.modelDump, Json.member?]

theorem agreement_modelDump (entry : ShadowDiffEntry) :
    entry.modelDump.member? "agreement" = some (.str entry.agreement.value) := by
  simp [ShadowDiffEntry.modelDump, Json.member?]

/-- What one result adds to the counts of its tenant. -/
def TenantCounts.add (counts : TenantCounts) (result : ShadowResult) : TenantCounts where
  escalationDisagreements :=
    counts.escalationDisagreements + if !agreesOnEscalation result then 1 else 0
  missingEvidence := counts.missingEvidence + result.comparison.missingRequiredEvidenceCount
  unsupportedClaims := counts.unsupportedClaims + result.comparison.unsupportedCitationCount
  externalActions := counts.externalActions
  latencies := counts.latencies ++ [result.actual.latencyMs]

theorem countResult_modelDump (compared : Compared loaded result)
    (finite : FiniteLatency result) (counts : TenantCounts) :
    countResult platform counts (result.modelDump platform) = .ok (counts.add result) := by
  obtain ⟨entry, found, -, agrees⟩ := escalationEntry_of_compared compared
  obtain ⟨value, nonnegative, latencyMs⟩ := finite
  have actual : (result.modelDump platform).member? "actual" = some result.actual.modelDump := by
    simp [ShadowResult.modelDump, Json.member?]
  have comparison : (result.modelDump platform).member? "comparison" =
      some result.comparison.modelDump := by
    simp [ShadowResult.modelDump, Json.member?]
  have execute : result.actual.modelDump.member? "execute" = some (.bool false) := by
    simp [ShadowActualOutcome.modelDump, Json.member?]
  have external : result.actual.modelDump.member? "external_action_count" =
      some (.int (0 : Nat)) := by
    simp [ShadowActualOutcome.modelDump, Json.member?]
  have measured : result.actual.modelDump.member? "latency_ms" =
      some (.float (.finite value)) := by
    simp [ShadowActualOutcome.modelDump, Json.member?, latencyMs]
  have missing : result.comparison.modelDump.member? "missing_required_evidence_count" =
      some (.int result.comparison.missingRequiredEvidenceCount) := by
    simp [ShadowComparison.modelDump, Json.member?]
  have unsupported : result.comparison.modelDump.member? "unsupported_citation_count" =
      some (.int result.comparison.unsupportedCitationCount) := by
    simp [ShadowComparison.modelDump, Json.member?]
  have entries : result.comparison.modelDump.member? "entries" =
      some (.arr (result.comparison.entries.map ShadowDiffEntry.modelDump)) := by
    simp [ShadowComparison.modelDump, Json.member?]
  have accepted : latency platform (some (.float (.finite value))) = .ok (.finite value) := by
    simp [latency, floatLess, nonnegative]
  have escalated : (result.comparison.entries.map ShadowDiffEntry.modelDump).find?
      isEscalationEntry = some entry.modelDump := by
    rw [List.find?_map, show isEscalationEntry ∘ ShadowDiffEntry.modelDump =
      fun entry => entry.fieldName == "escalated" from funext isEscalationEntry_modelDump, found]
    rfl
  unfold countResult
  rw [actual, comparison, show mapping (some result.actual.modelDump) "result.actual" =
    .ok result.actual.modelDump from rfl, show mapping (some result.comparison.modelDump)
      "result.comparison" = .ok result.comparison.modelDump from rfl]
  simp only [bind, Except.bind]
  rw [execute, external, integer_natCast, missing, integer_natCast, unsupported, integer_natCast,
    measured, accepted, entries]
  simp only [ne_eq, not_true_eq_false, if_false, items]
  rw [escalated]
  simp only [agreement_modelDump, Option.some.injEq, Json.str.injEq, Agreement.value_eq_exact,
    pure, Except.pure, Except.ok.injEq, TenantCounts.add, agrees, latencyMs]
  simp

theorem countResults_foldl (results : List ShadowResult) (counts : TenantCounts) :
    results.foldl TenantCounts.add counts =
      { escalationDisagreements := counts.escalationDisagreements +
          results.countP fun result => !agreesOnEscalation result
        missingEvidence := counts.missingEvidence +
          (results.map fun result => result.comparison.missingRequiredEvidenceCount).sum
        unsupportedClaims := counts.unsupportedClaims +
          (results.map fun result => result.comparison.unsupportedCitationCount).sum
        externalActions := counts.externalActions
        latencies := counts.latencies ++ results.map (·.actual.latencyMs) } := by
  induction results generalizing counts with
  | nil => simp
  | cons result rest inductionHypothesis =>
      rw [List.foldl_cons, inductionHypothesis]
      simp only [TenantCounts.add, List.countP_cons, List.map_cons, List.sum_cons,
        TenantCounts.mk.injEq, List.append_assoc, List.singleton_append, and_true]
      omega

/-- The counts of a tenant are those of its results. -/
theorem countResults_modelDump {results : List ShadowResult}
    (compared : ∀ result ∈ results, Compared loaded result)
    (finite : ∀ result ∈ results, FiniteLatency result) :
    (results.map (ShadowResult.modelDump platform)).foldlM (countResult platform) .empty =
      .ok (results.foldl TenantCounts.add .empty) := by
  rw [List.foldlM_map]
  exact foldlM_eq_ok_foldl (fun counts result member =>
    countResult_modelDump (compared result member) (finite result member) counts) _

theorem atLeastZero_of_not_less {value : PyFloat} (notLess : floatLess value (.finite 0) = false)
    (number : value ≠ .nan) : atLeastZero value = true := by
  cases value with
  | finite value => simpa [floatLess, atLeastZero] using notLess
  | posInf => rfl
  | negInf => cases notLess
  | nan => exact absurd rfl number

/-- A tenant with results has a snapshot of them. -/
theorem tenantSnapshot_modelDump {results : List ShadowResult} {tenantId windowId : String}
    (file : Json) (nonempty : results ≠ [])
    (compared : ∀ result ∈ results, Compared loaded result)
    (finite : ∀ result ∈ results, FiniteLatency result)
    (tenant : lengthBetween 1 100 tenantId = true)
    (window : lengthBetween 1 200 windowId = true) :
    ∃ snapshot, tenantSnapshot platform windowId (platform.fileSha256 file)
        (tenantId, results.map (ShadowResult.modelDump platform)) = .ok (snapshot, 0) ∧
      snapshot.correlation.tenantId = tenantId ∧ CountsExactly results snapshot := by
  have latencies : results.map (·.actual.latencyMs) ≠ [] := by simpa using nonempty
  obtain ⟨notLess, number⟩ := platform.average_nonneg _ latencies (by
    intro item member
    obtain ⟨result, listed, rfl⟩ := List.mem_map.mp member
    exact finite result listed)
  have average := atLeastZero_of_not_less notLess number
  have disagreements : (results.countP fun result => !agreesOnEscalation result) ≤
      results.length := List.countP_le_length
  unfold tenantSnapshot
  rw [countResults_modelDump compared finite, countResults_foldl]
  simp only [bind, Except.bind, TenantCounts.empty, Nat.zero_add, List.nil_append,
    List.length_map, metricSnapshot]
  rw [dif_pos tenant, dif_pos ⟨window, platform.fileSha256_hex file, by simpa using average,
    disagreements⟩]
  exact ⟨_, rfl, rfl, rfl, rfl, rfl, rfl, rfl⟩

end Snapshots

/-! ## Sums over the snapshots -/

/-- The results of each tenant, in the order of the snapshots. -/
def tenantGroups (results : List ShadowResult) : List (String × List ShadowResult) :=
  sortedItems (grouped (·.tenantId) results)

/-- A snapshot of a group. -/
structure Summarizes (entry : String × List ShadowResult) (snapshot : AlertMetricSnapshot) :
    Prop where
  tenant : snapshot.correlation.tenantId = entry.1
  counts : CountsExactly entry.2 snapshot

section Sums

variable {results : List ShadowResult} {snapshots : List AlertMetricSnapshot}

theorem sum_tenantGroups (count : ShadowResult → Nat) :
    ((tenantGroups results).map fun entry => (entry.2.map count).sum).sum =
      (results.map count).sum := by
  rw [tenantGroups, ((sortedItems_perm _).map _).sum_eq, sum_grouped]

theorem mem_tenantGroups {entry : String × List ShadowResult} :
    entry ∈ tenantGroups results ↔ entry ∈ grouped (·.tenantId) results :=
  (sortedItems_perm _).mem_iff

theorem countP_eq_sum {α : Type} (holds : α → Bool) (items : List α) :
    items.countP holds = (items.map fun item => if holds item then 1 else 0).sum := by
  induction items with
  | nil => rfl
  | cons head tail inductionHypothesis =>
      rw [List.countP_cons, inductionHypothesis, List.map_cons, List.sum_cons, Nat.add_comm]

variable (summarized : List.Forall₂ Summarizes (tenantGroups results) snapshots)

include summarized

theorem total_eq {metric : AlertMetricSnapshot → Option Nat} (count : ShadowResult → Nat)
    (measures : ∀ entry snapshot, CountsExactly entry snapshot →
      metric snapshot = some (entry.map count).sum) :
    total metric snapshots = some (results.map count).sum := by
  have measured : snapshots.mapM metric =
      some ((tenantGroups results).map fun entry => (entry.2.map count).sum) := by
    generalize tenantGroups results = groups at summarized
    induction summarized with
    | nil => rfl
    | cons first _ inductionHypothesis =>
        rw [List.mapM_cons, measures _ _ first.counts, inductionHypothesis]
        rfl
  rw [total, measured, Option.map_some, sum_tenantGroups]

theorem sum_caseCount : (snapshots.map (·.caseCount)).sum = results.length := by
  have counted : snapshots.map (·.caseCount) =
      (tenantGroups results).map fun entry => (entry.2.map fun _ => 1).sum :=
    map_eq_of_forall₂ (fun entry snapshot related => by simp [related.counts.caseCount])
      summarized
  rw [counted, sum_tenantGroups]
  simp

theorem countedOnce : CountedOnce results snapshots where
  tenants := by
    have same : snapshots.map (·.correlation.tenantId) = (tenantGroups results).map Prod.fst :=
      map_eq_of_forall₂ (fun _ _ related => related.tenant) summarized
    rw [same]
    exact ((sortedItems_perm _).map Prod.fst).nodup_iff.mpr (nodup_keys_grouped _ _)
  covered := by
    intro result listed
    have keyed : result.tenantId ∈ (grouped (·.tenantId) results).map Prod.fst :=
      mem_keys_grouped.mpr ⟨result, listed, rfl⟩
    obtain ⟨entry, member, same⟩ := List.mem_map.mp keyed
    obtain ⟨snapshot, taken, related⟩ :=
      exists_new_of_mem summarized (mem_tenantGroups.mpr member)
    exact ⟨snapshot, taken, related.tenant.trans same⟩
  counts := by
    intro snapshot taken
    obtain ⟨entry, member, related⟩ := exists_old_of_mem summarized taken
    rw [related.tenant, ← group_eq_filter (mem_tenantGroups.mp member)]
    exact related.counts

end Sums

/-! ## The members of a report -/

/-- What the other modules read in a report. -/
structure ReportMembers (loaded : LoadedCasePack) (results : List ShadowResult)
    (metrics controls : Json) (generatedAt : String) (written : List Json) (report : Json) :
    Prop where
  isObject : mapping (some report) "shadow report" = .ok report
  title : report.member? "title" = some (.str sourceReportLabel)
  label : report.member? "evidence_label" = some (.str "SIMULATED")
  controls : report.member? "controls" = some controls
  metrics : report.member? "metrics" = some metrics
  version : ∃ members, report.member? "case_pack" = some (.obj members) ∧
    (Json.obj members).member? "version" = some (.str loaded.pack.casePackVersion)
  generatedAt : report.member? "generated_at" = some (.str generatedAt)
  cases : report.member? "cases" = some (.arr written)

section Members

variable {platform : ReportPlatform} {loaded : LoadedCasePack} {results : List ShadowResult}

theorem aggregateReport_members {sums : Aggregation} (gitSha generatedAt testEvidence : String)
    (summed : results.foldlM (aggregateResult platform loaded) .empty = .ok sums) :
    ∃ report, aggregateReport platform results loaded gitSha generatedAt testEvidence =
        .ok report ∧
      ReportMembers loaded results (reportMetrics platform results sums) (reportControls results)
        generatedAt sums.perCase report := by
  unfold aggregateReport
  rw [summed]
  refine ⟨_, rfl, rfl, ?_, ?_, ?_, ?_, ⟨_, rfl, rfl⟩, ?_, ?_⟩
  all_goals simp [Json.member?, reportTitle, sourceReportLabel]

theorem cases_of_reports {written : List Json}
    (reports : List.Forall₂ (ItemOf platform) written results)
    (tenants : ∀ result ∈ results, lengthBetween 1 100 result.tenantId = true) :
    written.mapM (tenantResult platform) =
      .ok (results.map fun result => (result.tenantId, result.modelDump platform)) := by
  rw [mapM_eq_ok, List.forall₂_map_right_iff]
  induction reports with
  | nil => exact .nil
  | @cons item result _ _ first _ inductionHypothesis =>
      refine .cons ?_ (inductionHypothesis fun other member =>
        tenants other (List.mem_cons_of_mem _ member))
      obtain ⟨category, hash, rfl⟩ := first
      have named : result.tenantId ≠ "" := by
        intro empty
        have := tenants result List.mem_cons_self
        rw [empty] at this
        exact absurd this (by decide)
      have tenant : (result.modelDump platform).member? "tenant_id" =
          some (.str result.tenantId) := by
        simp [ShadowResult.modelDump, Json.member?]
      have found : mapping ((Json.obj [("category", category), ("case_payload_sha256", hash),
          ("result", result.modelDump platform)]).member? "result") "case.result" =
            .ok (result.modelDump platform) := by
        simp [Json.member?, mapping, ShadowResult.modelDump]
      unfold tenantResult
      rw [show mapping (some (Json.obj [("category", category), ("case_payload_sha256", hash),
        ("result", result.modelDump platform)])) "case" = .ok _ from rfl]
      simp only [bind, Except.bind]
      rw [found]
      simp only [tenant, text, if_neg named]
      rfl

theorem perTenant_results (results : List ShadowResult) :
    sortedItems (perTenant (results.map fun result =>
      (result.tenantId, result.modelDump platform))) =
        (tenantGroups results).map
          fun entry => (entry.1, entry.2.map (ShadowResult.modelDump platform)) := by
  rw [perTenant, List.foldl_map, foldl_push (fun result : ShadowResult => result.tenantId)
    (ShadowResult.modelDump platform), sortedItems_map]
  rfl

/-- The loader accepts a report and summarizes each tenant. -/
theorem load_report {metrics report : Json} {written : List Json} {generatedAt : String}
    (members : ReportMembers loaded results metrics (reportControls results) generatedAt written
      report)
    (reports : List.Forall₂ (ItemOf platform) written results) (nonempty : results ≠ [])
    (compared : ∀ result ∈ results, Compared loaded result)
    (finite : ∀ result ∈ results, FiniteLatency result)
    (tenants : ∀ result ∈ results, lengthBetween 1 100 result.tenantId = true)
    (window : lengthBetween 1 200 (loaded.pack.casePackVersion ++ ":" ++ generatedAt) = true) :
    ∃ source, loadShadowAlertSource platform report = .ok source ∧
      List.Forall₂ Summarizes (tenantGroups results) source.snapshots := by
  obtain ⟨pack, stored, version⟩ := members.version
  have execute : (reportControls results).member? "execute" = some (.bool false) := by
    simp [reportControls, Json.member?]
  have provider : (reportControls results).member? "provider" =
      some (.str "deterministic-stub-v1") := by
    simp [reportControls, Json.member?]
  have external : (reportControls results).member? "external_action_count" =
      some (.int (0 : Nat)) := by
    simp [reportControls, Json.member?]
  have snapshot : ∀ entry ∈ tenantGroups results, ∃ value,
      tenantSnapshot platform (loaded.pack.casePackVersion ++ ":" ++ generatedAt)
        (platform.fileSha256 report)
        (entry.1, entry.2.map (ShadowResult.modelDump platform)) = .ok value ∧
      value.2 = 0 ∧ Summarizes entry value.1 := by
    intro entry member
    have grouped := mem_tenantGroups.mp member
    have listed : ∀ result ∈ entry.2, result ∈ results ∧ result.tenantId = entry.1 := by
      intro result inside
      rw [group_eq_filter grouped] at inside
      exact ⟨(List.mem_filter.mp inside).1, of_decide_eq_true (List.mem_filter.mp inside).2⟩
    obtain ⟨first, rest⟩ := List.exists_mem_of_ne_nil _ (group_ne_nil grouped)
    obtain ⟨snapshot, made, tenant, counts⟩ := tenantSnapshot_modelDump
      report (group_ne_nil grouped)
      (fun result inside => compared result (listed result inside).1)
      (fun result inside => finite result (listed result inside).1)
      ((listed first rest).2 ▸ tenants first (listed first rest).1) window
    exact ⟨(snapshot, 0), made, rfl, tenant, counts⟩
  obtain ⟨observed, ran, related⟩ := exists_mapM_eq_ok snapshot
  have none_ : (observed.map Prod.snd).sum = 0 := by
    have zeros : observed.map Prod.snd = (tenantGroups results).map fun _ => 0 :=
      map_eq_of_forall₂ (fun _ _ related => related.1) related
    rw [zeros]
    simp
  have pairs : (results.map fun result => (result.tenantId, result.modelDump platform)) ≠ [] := by
    simpa using nonempty
  refine ⟨⟨platform.fileSha256 report, text platform (report.member? "exact_git_sha"),
    loaded.pack.casePackVersion, observed.map Prod.fst⟩, ?_, ?_⟩
  · unfold loadShadowAlertSource
    rw [members.isObject]
    simp only [bind, Except.bind, members.title, members.label, ne_eq, not_true_eq_false, or_self,
      if_false, members.controls, members.generatedAt, members.cases, stored]
    rw [show mapping (some (reportControls results)) "controls" = .ok (reportControls results)
      from rfl, show mapping (some (.obj pack)) "case_pack" = .ok (.obj pack) from rfl]
    simp only [execute, provider, not_true_eq_false, if_false, version, items, text,
      cases_of_reports reports tenants, if_neg pairs, perTenant_results, List.mapM_map]
    rw [show (List.mapM (tenantSnapshot platform (loaded.pack.casePackVersion ++ ":" ++ generatedAt)
      (platform.fileSha256 report) ∘ fun entry =>
        (entry.1, entry.2.map (ShadowResult.modelDump platform))) (tenantGroups results)) =
          .ok observed from ran]
    simp only [external, integer_natCast, none_, not_true_eq_false, if_false]
    rfl
  · rw [List.forall₂_map_right_iff]
    exact related.imp fun _ _ related => related.2

/-- Every written item holds its result. -/
theorem mapM_written {written : List Json} {validate : Json → Except String ShadowResult}
    (reports : List.Forall₂ (ItemOf platform) written results)
    (reread : ∀ result ∈ results, validate (result.modelDump platform) = .ok result) :
    written.mapM (fun item => do
      match validate (← getMember item "result" item) with
      | .ok result => .ok result
      | .error message => .error (.valueError message)) =
        (.ok results : Except ReportFailure (List ShadowResult)) := by
  rw [mapM_eq_ok]
  induction reports with
  | nil => exact .nil
  | @cons item result _ _ first _ inductionHypothesis =>
      refine .cons ?_ (inductionHypothesis fun other member =>
        reread other (List.mem_cons_of_mem _ member))
      obtain ⟨category, hash, rfl⟩ := first
      have found : getMember (.obj [("category", category), ("case_payload_sha256", hash),
          ("result", result.modelDump platform)]) "result" (.obj [("category", category),
            ("case_payload_sha256", hash), ("result", result.modelDump platform)]) =
              .ok (result.modelDump platform) := by
        simp [getMember, Json.member?]
      rw [found]
      simp only [bind, Except.bind, reread result List.mem_cons_self]

/-- The collection reads the results of a report back. -/
theorem loadOptionalResults_report {metrics controls report : Json} {written : List Json}
    {generatedAt : String} {validate : Json → Except String ShadowResult}
    (members : ReportMembers loaded results metrics controls generatedAt written report)
    (reports : List.Forall₂ (ItemOf platform) written results)
    (reread : ∀ result ∈ results, validate (result.modelDump platform) = .ok result) :
    loadOptionalResults validate (some report) = .ok results := by
  have cases : getMember report "cases" (.arr []) = .ok (.arr written) := by
    have found := members.cases
    cases report with
    | obj members => rw [getMember, found]; rfl
    | null | bool _ | int _ | float _ | str _ | arr _ => cases found
  unfold loadOptionalResults
  simp only [cases]
  exact mapM_written reports reread

/-- The loop of `_agreement_stats`. -/
theorem countAgreement_results (compared : ∀ result ∈ results, Compared loaded result)
    (counts : AgreementCounts) :
    results.foldlM countAgreement counts =
      .ok ⟨counts.escalation + results.countP agreesOnEscalation, results.foldl
        (fun counter result => update counter result.comparison.disagreementCategories)
        counts.categories⟩ := by
  refine foldlM_countAgreement (fun result member => ?_) counts
  obtain ⟨entry, -, escalation, agrees⟩ := escalationEntry_of_compared (compared result member)
  exact ⟨entry, escalation, agrees⟩

theorem agreementStats_metrics (platform : ReportPlatform) {sums : Aggregation}
    (nonempty : results ≠ [])
    (compared : ∀ result ∈ results, Compared loaded result)
    (agreements : sums.escalationAgreements = results.countP agreesOnEscalation)
    (categories : sums.disagreementCategories = results.foldl
      (fun counter result => update counter result.comparison.disagreementCategories) []) :
    ∃ stats, agreementStats results = .ok stats ∧
      StatsAgree stats (reportMetrics platform results sums) := by
  unfold agreementStats
  rw [if_neg nonempty, countAgreement_results compared]
  refine ⟨_, rfl, fun key listed => ?_⟩
  simp only [agreementKeys, List.mem_cons, List.not_mem_nil, or_false] at listed
  rcases listed with rfl | rfl | rfl | rfl | rfl | rfl | rfl | rfl
  all_goals
    refine ⟨_, rfl, ?_⟩
    simp [reportMetrics, Json.member?, agreements, categories]

end Members

/-! ## Agreement -/

/-- The report of compared results is accepted as an alert source; its snapshots add
up to its metrics and controls and count every result once, for its tenant; the
statistics of the results read back are its metrics. -/
theorem shadow_aggregations_agree (platform : ReportPlatform) (loaded : LoadedCasePack)
    (results : List ShadowResult) (gitSha generatedAt testEvidence : String)
    (validate : Json → Except String ShadowResult) (nonempty : results ≠ [])
    (compared : ∀ result ∈ results, Compared loaded result)
    (finite : ∀ result ∈ results, FiniteLatency result)
    (tenants : ∀ result ∈ results, lengthBetween 1 100 result.tenantId = true)
    (window : (loaded.pack.casePackVersion ++ ":" ++ generatedAt).length ≤ 200)
    (reread : ∀ result ∈ results, validate (result.modelDump platform) = .ok result) :
    ∃ report metrics controls source stats,
      aggregateReport platform results loaded gitSha generatedAt testEvidence = .ok report ∧
      report.member? "metrics" = some metrics ∧ report.member? "controls" = some controls ∧
      loadShadowAlertSource platform report = .ok source ∧
      (loadOptionalResults validate (some report) >>= agreementStats) = .ok stats ∧
      TotalsAgree metrics controls source.snapshots ∧ CountedOnce results source.snapshots ∧
      StatsAgree stats metrics := by
  have windowId : lengthBetween 1 200 (loaded.pack.casePackVersion ++ ":" ++ generatedAt) =
      true := by
    simp only [lengthBetween, Bool.and_eq_true, decide_eq_true_eq]
    refine ⟨?_, window⟩
    simp only [String.length_append]
    have : (":" : String).length = 1 := rfl
    omega
  obtain ⟨sums, written, summed, agreements, categories, cases, reports⟩ :=
    aggregate_results platform compared .empty
  obtain ⟨report, made, members⟩ :=
    aggregateReport_members gitSha generatedAt testEvidence summed
  rw [show sums.perCase = written from cases] at members
  obtain ⟨source, accepted, summarized⟩ :=
    load_report members reports nonempty compared finite tenants windowId
  obtain ⟨stats, counted, statsAgree⟩ := agreementStats_metrics platform nonempty compared
    (agreements.trans (Nat.zero_add _)) categories
  refine ⟨report, _, _, source, stats, made, members.metrics, members.controls, accepted, ?_, ?_,
    countedOnce summarized, statsAgree⟩
  · rw [loadOptionalResults_report members reports reread]
    exact counted
  have disagreements : ∀ entry snapshot, CountsExactly entry snapshot →
      snapshot.escalationDisagreementCount =
        some (entry.map fun result => if !agreesOnEscalation result then 1 else 0).sum :=
    fun entry snapshot counts => by rw [counts.escalation, countP_eq_sum]
  have external : ∀ entry snapshot, CountsExactly entry snapshot →
      snapshot.externalActionCount = some (entry.map fun _ => 0).sum :=
    fun entry snapshot counts => by simp [counts.external]
  refine ⟨?_, ⟨_, total_eq summarized _ fun _ _ counts => counts.missing, ?_⟩,
    ⟨_, total_eq summarized _ fun _ _ counts => counts.unsupported, ?_⟩,
    ⟨_, total_eq summarized _ external, ?_⟩,
    ⟨_, sums.escalationAgreements, total_eq summarized _ disagreements, ?_, ?_⟩⟩
  · rw [sum_caseCount summarized]
    simp [reportMetrics, Json.member?]
  · simp [reportMetrics, Json.member?]
  · simp [reportMetrics, Json.member?]
  · simp [reportControls, Json.member?]
  · simp [reportMetrics, Json.member?]
  · rw [← countP_eq_sum, agreements, sum_caseCount summarized,
      List.length_eq_countP_add_countP agreesOnEscalation]
    simp [Aggregation.empty, Nat.add_comm]

/-! ## A rehearsal -/

/-- Floats without rounding. -/
def exactAdd : PyFloat → PyFloat → PyFloat
  | .finite left, .finite right => .finite (left + right)
  | _, _ => .nan

def exactQuotient : PyFloat → Nat → PyFloat
  | .finite value, count => .finite (value / count)
  | value, _ => value

theorem exactSum_nonneg {items : List PyFloat}
    (finite : ∀ item ∈ items, ∃ value, 0 ≤ value ∧ item = .finite value) :
    ∃ value, 0 ≤ value ∧ items.foldr exactAdd (.finite 0) = .finite value := by
  induction items with
  | nil => exact ⟨0, le_refl 0, rfl⟩
  | cons head tail inductionHypothesis =>
      obtain ⟨first, firstNonneg, rfl⟩ := finite head List.mem_cons_self
      obtain ⟨rest, restNonneg, summed⟩ := inductionHypothesis fun item member =>
        finite item (List.mem_cons_of_mem _ member)
      exact ⟨first + rest, add_nonneg firstNonneg restNonneg, by
        rw [List.foldr_cons, summed]; rfl⟩

def exactPlatform : ReportPlatform where
  floatAdd := exactAdd
  floatSum := fun items => items.foldr exactAdd (.finite 0)
  floatQuotient := exactQuotient
  floatOfInt := fun value => some (.finite value)
  uuidText := fun _ => "00000000-0000-4000-8000-000000000001"
  repr := fun _ => "None"
  caseSha256 := fun _ => "e3b0c44298fc1c149afbf4c8996fb92427ae41e4649b934ca495991b7852b855"
  fileSha256 := fun _ => "e3b0c44298fc1c149afbf4c8996fb92427ae41e4649b934ca495991b7852b855"
  average_nonneg := by
    intro items _ finite
    obtain ⟨value, nonnegative, summed⟩ := exactSum_nonneg finite
    have average : 0 ≤ value / items.length := div_nonneg nonnegative (Nat.cast_nonneg _)
    rw [summed]
    exact ⟨by simpa [exactQuotient, floatLess] using average, nofun⟩
  fileSha256_hex := fun _ => by decide +kernel

/-- A case of the pack that expects a monitored stockout. -/
def rehearsalCase (caseId category tenantId : String)
    (caseId_bounds : lengthBetween 1 100 caseId = true)
    (category_bounds : lengthBetween 1 80 category = true)
    (tenantId_literal : tenantId = "t_alpha" ∨ tenantId = "t_beta") : ShadowCase where
  caseId := caseId
  caseVersion := "v1"
  category := category
  tenantId := tenantId
  input :=
    { skuId := "M2-SKU-001"
      storeId := "M2-STORE-001"
      supplierId := "M2-SUPPLIER-001"
      asOfTs := 604800 * second
      windowStart := 0
      windowEnd := 604800 * second
      skuId_bounds := by decide
      storeId_bounds := by decide
      supplierId_bounds := by decide
      timestamps := by decide }
  inputDump := .obj [("sku_id", .str "M2-SKU-001"), ("store_id", .str "M2-STORE-001"),
    ("supplier_id", .str "M2-SUPPLIER-001"), ("as_of_ts", .str "1970-01-08T00:00:00Z"),
    ("window_start", .str "1970-01-01T00:00:00Z"), ("window_end", .str "1970-01-08T00:00:00Z")]
  baselineSource := .controlledSyntheticReference
  referenceOutcome := ⟨.awaitingHuman, some "Inventory is low.", some .monitor, some .medium⟩
  referenceEscalationExpectation := ⟨false, none, by decide⟩
  minimumEvidenceCitationExpectations :=
    ⟨[.inventory, .salesDemand], 1, by decide, by decide, by decide, by decide⟩
  provenanceLabel := .simulated
  deidentificationStatus := .notApplicableControlledSynthetic
  consentDataUseStatus := .notApplicableControlledSynthetic
  consentDataUseReference := none
  others := [("as_of_timestamp", .str "1970-01-08T00:00:00Z"),
    ("fixture_setup", .obj [("inventory", .null), ("demand", .null), ("supplier", .null)]),
    ("notes", .str "Rehearsal."), ("limitations", .arr [.str "Synthetic facts."])]
  caseId_bounds := caseId_bounds
  caseVersion_pattern := by decide
  category_bounds := category_bounds
  consentReference_pattern := by decide
  tenantId_literal := tenantId_literal
  escalationAgrees := by decide
  escalatedBare := nofun
  provenance := by decide

def supplierDelay : ShadowCase :=
  rehearsalCase "m2-supplier-delay-001" "supplier_delay" "t_alpha" (by decide) (by decide)
    (.inl rfl)

def demandSpike : ShadowCase :=
  rehearsalCase "m2-demand-spike-004" "demand_spike" "t_beta" (by decide) (by decide) (.inr rfl)

/-- The identities and the categories of the pack in the source. -/
def rehearsalPack : LoadedCasePack where
  pack :=
    { casePackVersion := "m2-shadow-cases-v1-2026-08-13"
      cases := [supplierDelay,
        rehearsalCase "m2-supplier-delay-002" "supplier_delay" "t_beta" (by decide) (by decide)
          (.inr rfl),
        rehearsalCase "m2-lead-time-003" "supplier_lead_time" "t_alpha" (by decide) (by decide)
          (.inl rfl),
        demandSpike,
        rehearsalCase "m2-demand-spike-005" "demand_spike" "t_alpha" (by decide) (by decide)
          (.inl rfl),
        rehearsalCase "m2-inventory-mismatch-006" "inventory_demand_mismatch" "t_beta" (by decide)
          (by decide) (.inr rfl),
        rehearsalCase "m2-missing-supplier-007" "missing_evidence" "t_alpha" (by decide)
          (by decide) (.inl rfl),
        rehearsalCase "m2-missing-demand-008" "missing_evidence" "t_beta" (by decide) (by decide)
          (.inr rfl),
        rehearsalCase "m2-stale-inventory-009" "stale_evidence" "t_alpha" (by decide) (by decide)
          (.inl rfl),
        rehearsalCase "m2-stale-supplier-010" "stale_evidence" "t_beta" (by decide) (by decide)
          (.inr rfl),
        rehearsalCase "m2-ambiguous-011" "ambiguous_evidence" "t_alpha" (by decide) (by decide)
          (.inl rfl),
        rehearsalCase "m2-normal-monitor-012" "normal_inventory_demand" "t_beta" (by decide)
          (by decide) (.inr rfl)]
      casePackVersion_pattern := by decide +kernel
      cases_length := by decide
      unique := by decide +kernel
      categories := by decide +kernel
      simulated := by simp [supplierDelay, demandSpike, rehearsalCase]
      synthetic := by simp [supplierDelay, demandSpike, rehearsalCase] }
  casesSha256 := "e3b0c44298fc1c149afbf4c8996fb92427ae41e4649b934ca495991b7852b855"
  manifestSha256 := "e3b0c44298fc1c149afbf4c8996fb92427ae41e4649b934ca495991b7852b855"

/-- An outcome that escalates or is reviewed, with one citation. -/
def rehearsalOutcome (escalated : Bool) (code : Option String) : ShadowActualOutcome where
  state := if escalated then "escalated" else "awaiting_human"
  escalated := escalated
  escalationCode := code
  rootCauseStatement := some "Inventory is low."
  recommendationActionType := some "monitor"
  confidence := some "medium"
  evidenceTools := ["T1_inventory"]
  evidenceIds := ["E1"]
  citationIds := ["E1"]
  unsupportedCitationCount := 1
  missingRequiredEvidenceCount := 1
  citationCoverage := 1 / 2
  schemaValid := true
  reasoningInvoked := true
  providerLabel := "deterministic-stub-v1"
  latencyMs := .finite 3
  estimatedCostUsd := none
  costEvidenceLabel := .simulated

def comparisonOf (case : ShadowCase) (actual : ShadowActualOutcome) : ShadowComparison :=
  match compare case actual with
  | .ok comparison => comparison
  | .error _ => ⟨false, [], [], 0, 0, 0⟩

theorem compare_eq_comparisonOf (case : ShadowCase) (actual : ShadowActualOutcome) :
    compare case actual = .ok (comparisonOf case actual) := by
  obtain ⟨comparison, made, -⟩ := compare_eq_ok case actual
  rw [comparisonOf, made]

def rehearsalResult (case : ShadowCase) (actual : ShadowActualOutcome) : ShadowResult where
  shadowRunId := 1
  investigationRunId := 2
  caseId := case.caseId
  caseVersion := case.caseVersion
  casePackVersion := rehearsalPack.pack.casePackVersion
  tenantId := case.tenantId
  processorVersion := "m2-shadow-processor-v1"
  promptVersion := "stub-v1"
  provenanceLabel := case.provenanceLabel
  baselineSource := case.baselineSource
  outputHash := "e3b0c44298fc1c149afbf4c8996fb92427ae41e4649b934ca495991b7852b855"
  diffHash := "e3b0c44298fc1c149afbf4c8996fb92427ae41e4649b934ca495991b7852b855"
  actual := actual
  comparison := comparisonOf case actual
  idempotentReplay := false

def agreed : ShadowResult := rehearsalResult supplierDelay (rehearsalOutcome false none)

def escalatedInstead : ShadowResult :=
  rehearsalResult demandSpike (rehearsalOutcome true (some "EVIDENCE_MISSING"))

/-- Two tenants, one of which escalated against its reference. -/
theorem rehearsal_aggregations_agree : ∃ report metrics controls source stats,
    aggregateReport exactPlatform [agreed, escalatedInstead] rehearsalPack "0000000"
      "2026-08-13T00:00:00+00:00" "passed" = .ok report ∧
    report.member? "metrics" = some metrics ∧ report.member? "controls" = some controls ∧
    loadShadowAlertSource exactPlatform report = .ok source ∧
    (loadOptionalResults (fun value =>
      if value = agreed.modelDump exactPlatform then .ok agreed else .ok escalatedInstead)
      (some report) >>= agreementStats) = .ok stats ∧
    TotalsAgree metrics controls source.snapshots ∧
    CountedOnce [agreed, escalatedInstead] source.snapshots ∧ StatsAgree stats metrics := by
  have different : escalatedInstead.modelDump exactPlatform ≠ agreed.modelDump exactPlatform := by
    intro same
    simp [ShadowResult.modelDump, escalatedInstead, agreed, rehearsalResult, demandSpike,
      supplierDelay, rehearsalCase] at same
  refine shadow_aggregations_agree exactPlatform rehearsalPack [agreed, escalatedInstead] "0000000"
    "2026-08-13T00:00:00+00:00" "passed" _ nofun ?_ ?_ ?_ (by decide +kernel) ?_
  all_goals
    intro result member
    simp only [List.mem_cons, List.not_mem_nil, or_false] at member
    rcases member with rfl | rfl
  · exact ⟨supplierDelay, by simp [rehearsalPack], rfl, compare_eq_comparisonOf _ _⟩
  · exact ⟨demandSpike, by simp [rehearsalPack], rfl, compare_eq_comparisonOf _ _⟩
  · exact ⟨3, by norm_num, rfl⟩
  · exact ⟨3, by norm_num, rfl⟩
  · decide
  · decide
  · exact if_pos rfl
  · exact if_neg different

end StockoutOps.Alerting
