import StockoutOps.Shadow.Report
import StockoutOps.Shadow.Server

/-!
Contract: the first-100 collection, `shadow/collection.py`.

Owns: the results read back from a report, their agreement statistics, and the
intake records that count toward the official total.

Does not own: the rest of the collection report.
-/

namespace StockoutOps.Shadow

open StockoutOps.Foundation.Grouping

/-! ## Results of a report -/

/-- `value.get(key, default)` -/
def getMember (value : Json) (key : String) (default : Json) : Except ReportFailure Json :=
  match value with
  | .obj members => .ok (((Json.obj members).member? key).getD default)
  | _ => .error .attributeError

/-- The items of a loop. A text or an object gives texts, on which `.get` fails. -/
def iterate : Json → Except ReportFailure (List Json)
  | .arr items => .ok items
  | .str text => .ok (text.toList.map fun char => .str (String.ofList [char]))
  | .obj members => .ok (members.map fun member => .str member.1)
  | _ => .error .typeError

/-- `_load_optional_results`; `none` is a path that is absent. `validate` is
`ShadowResult.model_validate`, whose `ValidationError` is a `ValueError`. -/
def loadOptionalResults (validate : Json → Except String ShadowResult) (file : Option Json) :
    Except ReportFailure (List ShadowResult) :=
  match file with
  | none => .ok []
  | some payload => do
      let cases ← iterate (← getMember payload "cases" (.arr []))
      cases.mapM fun item => do
        match validate (← getMember item "result" item) with
        | .ok result => .ok result
        | .error message => .error (.valueError message)

/-! ## `_agreement_stats` -/

/-- The variables of the loop. -/
structure AgreementCounts where
  escalation : Nat
  categories : List (String × Nat)

def countAgreement (counts : AgreementCounts) (result : ShadowResult) :
    Except ReportFailure AgreementCounts := do
  let escalation ← escalationEntry result.comparison
  pure
    { escalation := counts.escalation + if escalation.agreement = .exact then 1 else 0
      categories := update counts.categories result.comparison.disagreementCategories }

def agreementStats (results : List ShadowResult) : Except ReportFailure Json :=
  if results = [] then
    .ok (.obj [("case_count", .int 0), ("exact_agreements", .int 0),
      ("partial_agreements", .int 0), ("disagreements", .int 0),
      ("escalation_agreements", .int 0), ("unsupported_claim_count", .int 0),
      ("missing_required_evidence_count", .int 0), ("disagreement_categories", .obj []),
      ("status", .str "UNMEASURED")])
  else do
    let exact := exactAgreements results
    let counts ← results.foldlM countAgreement ⟨0, []⟩
    pure (.obj [("case_count", .int results.length), ("exact_agreements", .int exact),
      ("partial_agreements", .int (partialAgreements results)),
      ("disagreements", .int (results.length - exact)),
      ("escalation_agreements", .int counts.escalation),
      ("unsupported_claim_count", .int
        ((results.map fun result => result.comparison.unsupportedCitationCount).sum : Nat)),
      ("missing_required_evidence_count", .int
        ((results.map fun result => result.comparison.missingRequiredEvidenceCount).sum : Nat)),
      ("disagreement_categories", sortedCounts counts.categories),
      ("status", .str "SIMULATED")])

/-- The loop of `_agreement_stats`, where every result has its escalation entry. -/
theorem foldlM_countAgreement {results : List ShadowResult} {agrees : ShadowResult → Bool}
    (entries : ∀ result ∈ results, ∃ entry, escalationEntry result.comparison = .ok entry ∧
      agrees result = decide (entry.agreement = .exact)) (counts : AgreementCounts) :
    results.foldlM countAgreement counts =
      .ok ⟨counts.escalation + results.countP agrees, results.foldl
        (fun counter result => update counter result.comparison.disagreementCategories)
        counts.categories⟩ := by
  induction results generalizing counts with
  | nil => rfl
  | cons result rest inductionHypothesis =>
      obtain ⟨entry, escalation, agreed⟩ := entries result List.mem_cons_self
      rw [List.foldlM_cons, countAgreement, escalation]
      refine (inductionHypothesis (fun other member =>
        entries other (List.mem_cons_of_mem _ member)) _).trans ?_
      rw [List.countP_cons, agreed, List.foldl_cons]
      simp only [decide_eq_true_eq, Except.ok.injEq, AgreementCounts.mk.injEq, and_true]
      omega

/-! ## The official set -/

def syntheticCandidate : Failure :=
  .runtimeError "Synthetic cases cannot count toward the official M2-05 total"

/-- `reject_synthetic_m2_05_candidate` -/
def rejectSyntheticM205Candidate (provenanceLabel : ProvenanceLabel)
    (baselineSource : BaselineSource) : Except Failure Unit :=
  if provenanceLabel = .simulated ∨ baselineSource = .controlledSyntheticReference then
    .error syntheticCandidate
  else .ok ()

/-- The `continue` branches of `official_m2_05_records`, in their order. -/
def officiallyEligible (acceptedIds excludedIds : List IntakeId) (record : ShadowIntakeRow) :
    Bool :=
  if record.provenanceLabel = .simulated then false
  else if record.baselineSource = .controlledSyntheticReference then false
  else if record.intakeId ∉ acceptedIds then false
  else if record.intakeId ∈ excludedIds then false
  else if record.provenanceLabel ≠ .genuineUatAnalystLabelled then false
  else if record.baselineSource ≠ .analystReference then false
  else true

def officialM205Records (records : List ShadowIntakeRow) (acceptedIds excludedIds : List IntakeId) :
    Except Failure (List ShadowIntakeRow) := do
  let eligible := records.filter (officiallyEligible acceptedIds excludedIds)
  eligible.forM fun record =>
    rejectSyntheticM205Candidate record.provenanceLabel record.baselineSource
  pure eligible

theorem officiallyEligible_iff {acceptedIds excludedIds : List IntakeId}
    {record : ShadowIntakeRow} :
    officiallyEligible acceptedIds excludedIds record = true ↔
      record.provenanceLabel = .genuineUatAnalystLabelled ∧
        record.baselineSource = .analystReference ∧ record.intakeId ∈ acceptedIds ∧
          record.intakeId ∉ excludedIds := by
  unfold officiallyEligible
  cases record.provenanceLabel <;> cases record.baselineSource <;> simp

/-- A loop of checks that all pass. -/
theorem forM_passes {ε α : Type} {check : α → Except ε Unit} {items : List α}
    (passes : ∀ item ∈ items, check item = .ok ()) : items.forM check = .ok () := by
  induction items with
  | nil => rfl
  | cons item rest inductionHypothesis =>
      show (check item >>= fun _ => rest.forM check) = _
      rw [passes item List.mem_cons_self]
      exact inductionHypothesis fun other member => passes other (List.mem_cons_of_mem _ member)

/-- The last check of `official_m2_05_records` finds nothing. -/
theorem officialM205Records_eq (records : List ShadowIntakeRow)
    (acceptedIds excludedIds : List IntakeId) :
    officialM205Records records acceptedIds excludedIds =
      .ok (records.filter (officiallyEligible acceptedIds excludedIds)) := by
  have accepted : (records.filter (officiallyEligible acceptedIds excludedIds)).forM
      (fun record => rejectSyntheticM205Candidate record.provenanceLabel
        record.baselineSource) = (.ok () : Except Failure Unit) := by
    refine forM_passes fun record member => ?_
    obtain ⟨label, baseline, -⟩ := officiallyEligible_iff.mp (List.mem_filter.mp member).2
    rw [rejectSyntheticM205Candidate, if_neg (by simp [label, baseline])]
  show ((records.filter (officiallyEligible acceptedIds excludedIds)).forM _ >>=
    fun _ => pure _) = _
  rw [accepted]
  rfl

end StockoutOps.Shadow
