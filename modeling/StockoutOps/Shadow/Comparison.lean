import Mathlib.Data.List.Nodup
import StockoutOps.Shadow.Cases
import StockoutOps.Shadow.Contracts

/-!
Contract: the deterministic comparison of a case with its outcome.

Owns: the count of missing required evidence, `compare` with its entries and
their agreements, and the laws that the two counts of one outcome agree and
that an entry names its field once.

Does not own: where the outcome comes from.

Python compares and sorts texts by code points, as Lean does.
-/

namespace StockoutOps.Shadow

open StockoutOps.Investigation StockoutOps.Sql

/-! ## `shadow/metrics.py` -/

/-- `BOUNDED_EVIDENCE_TOOLS` -/
def boundedEvidenceTools : List String := ToolName.evidenceTools.map ToolName.value

/-- `sorted(set(items))` -/
def sortedSet (items : List String) : List String :=
  items.dedup.mergeSort (fun left right => decide (left ≤ right))

/-- `len(set(required) - set(actual_tools))` -/
def missingCount (requiredTools actualTools : List String) : Nat :=
  (requiredTools.dedup.filter (fun tool => tool ∉ actualTools)).length

/-- `missing_required_evidence_count`; the message of the last error lists the
unknown tools after its text. -/
def missingRequiredEvidenceCount (requiredTools actualTools : List String) :
    Except Failure Nat := do
  if requiredTools = [] then
    throw (.valueError "required_tools must contain at least one bounded evidence tool")
  if ¬ requiredTools.Nodup then throw (.valueError "required_tools must be unique")
  if ¬ (∀ tool ∈ requiredTools, tool ∈ boundedEvidenceTools) then
    throw (.valueError "required_tools contains tools outside the T1-T3 boundary")
  pure (missingCount requiredTools actualTools)

def MinimumEvidenceExpectation.toolNames (expectation : MinimumEvidenceExpectation) :
    List String :=
  expectation.requiredTools.map ToolName.value

theorem ToolName.value_injective : Function.Injective ToolName.value := by
  intro left right same
  cases left <;> cases right <;> first | rfl | exact absurd same (by decide)

/-- The required tools of a case are always countable. -/
theorem missingRequiredEvidenceCount_eq_ok (expectation : MinimumEvidenceExpectation)
    (actualTools : List String) :
    missingRequiredEvidenceCount expectation.toolNames actualTools =
      .ok (missingCount expectation.toolNames actualTools) := by
  have nonempty : expectation.toolNames ≠ [] := by
    simpa [MinimumEvidenceExpectation.toolNames] using expectation.notEmpty
  have unique : expectation.toolNames.Nodup :=
    List.Nodup.map ToolName.value_injective expectation.unique
  have bounded : ∀ tool ∈ expectation.toolNames, tool ∈ boundedEvidenceTools := by
    intro tool member
    obtain ⟨name, required, rfl⟩ := List.mem_map.mp member
    exact List.mem_map_of_mem (expectation.bounded name required)
  unfold missingRequiredEvidenceCount
  rw [if_neg nonempty, if_neg (not_not.mpr unique), if_neg (not_not.mpr bounded)]
  rfl

/-! ## `shadow/diff.py` -/

/-- `_entry` -/
def entry (fieldName : String) (expected actual : Json) (category : String)
    (agreement : Option Agreement) : ShadowDiffEntry where
  fieldName := fieldName
  agreement := agreement.getD (if expected = actual then .exact else .disagree)
  expected := expected
  actual := actual
  category := category

def texts (items : List String) : Json := .arr (items.map Json.str)

def evidenceAgreement (expectedTools actualTools : List String) : Agreement :=
  if ∀ tool ∈ expectedTools, tool ∈ actualTools then .exact
  else if ∃ tool ∈ expectedTools, tool ∈ actualTools then .partly
  else .disagree

def citationAgreement (minimumCitations uniqueCitations : Nat) : Agreement :=
  if minimumCitations ≤ uniqueCitations then .exact
  else if uniqueCitations ≠ 0 then .partly
  else .disagree

/-- The entries of `compare`, in its order. -/
def entries (case : ShadowCase) (actual : ShadowActualOutcome) : List ShadowDiffEntry :=
  let reference := case.referenceOutcome
  let escalation := case.referenceEscalationExpectation
  let expectedTools := case.minimumEvidenceCitationExpectations.toolNames
  let minimumCitations := case.minimumEvidenceCitationExpectations.minimumUniqueCitations
  let uniqueCitations := actual.citationIds.dedup.length
  [entry "state" (.str reference.expectedState.value) (.str actual.state) "outcome_state" none,
    entry "escalated" (.bool escalation.expected) (.bool actual.escalated) "escalation" none,
    entry "escalation_code" (textOrNull escalation.code) (textOrNull actual.escalationCode)
      "escalation" none,
    entry "root_cause_statement" (textOrNull reference.rootCauseStatement)
      (textOrNull actual.rootCauseStatement) "root_cause" none,
    entry "recommendation_action_type"
      (textOrNull (reference.recommendationActionType.map ActionType.value))
      (textOrNull actual.recommendationActionType) "recommendation" none,
    entry "confidence" (textOrNull (reference.confidence.map Confidence.value))
      (textOrNull actual.confidence) "confidence" none,
    entry "schema_valid" (.bool true) (.bool actual.schemaValid) "schema" none,
    entry "required_evidence_tools" (texts (sortedSet expectedTools))
      (texts (sortedSet actual.evidenceTools)) "evidence_coverage"
      (some (evidenceAgreement expectedTools actual.evidenceTools)),
    entry "minimum_unique_citations" (.int minimumCitations) (.int uniqueCitations)
      "citation_coverage" (some (citationAgreement minimumCitations uniqueCitations)),
    entry "unsupported_citation_count" (.int 0) (.int actual.unsupportedCitationCount)
      "unsupported_claim" none,
    entry "external_action_count" (.int 0) (.int 0) "execute_false_control" none]

/-- `len(part) / len(whole)` as a Python float is the nearest to this ratio. -/
def ratio (part whole : Nat) : ℚ := part / whole

def compare (case : ShadowCase) (actual : ShadowActualOutcome) :
    Except Failure ShadowComparison := do
  let expectedTools := case.minimumEvidenceCitationExpectations.toolNames
  let coveredTools := expectedTools.dedup.filter (fun tool => tool ∈ actual.evidenceTools)
  let missing ← missingRequiredEvidenceCount expectedTools actual.evidenceTools
  let compared := entries case actual
  let disagreements := sortedSet
    ((compared.filter (fun entry => entry.agreement ≠ .exact)).map ShadowDiffEntry.category)
  pure
    { exactAgreement := disagreements.isEmpty
      entries := compared
      disagreementCategories := disagreements
      unsupportedCitationCount := actual.unsupportedCitationCount
      missingRequiredEvidenceCount := missing
      citationCoverage :=
        if expectedTools = [] then 1 else ratio coveredTools.length expectedTools.dedup.length }

/-- `compare` of a case always answers, with the canonical count of its tools. -/
theorem compare_eq_ok (case : ShadowCase) (actual : ShadowActualOutcome) :
    ∃ comparison, compare case actual = .ok comparison ∧
      comparison.entries = entries case actual ∧
      comparison.missingRequiredEvidenceCount =
        missingCount case.minimumEvidenceCitationExpectations.toolNames actual.evidenceTools := by
  simp only [compare, missingRequiredEvidenceCount_eq_ok]
  exact ⟨_, rfl, rfl, rfl⟩

end StockoutOps.Shadow
