import StockoutOps.Investigation.Reasoning
import StockoutOps.Investigation.Requests
import StockoutOps.Shadow.Schema

/-!
Contract: the cases that shadow processing is given.

Owns: `ShadowCase` and its parts, which satisfy their validators by
construction, and the JSON a payload hash is taken of.

Does not own: the members of a case that no modelled function reads; they enter
its JSON as they are.
-/

namespace StockoutOps.Shadow

open StockoutOps.Investigation StockoutOps.Sql

inductive ExpectedState where
  | awaitingHuman
  | escalated
deriving DecidableEq, Repr

def ExpectedState.value : ExpectedState → String
  | .awaitingHuman => "awaiting_human"
  | .escalated => "escalated"

def ProvenanceLabel.value : ProvenanceLabel → String
  | .simulated => "SIMULATED"
  | .genuineUatAnalystLabelled => "GENUINE_UAT_ANALYST_LABELLED"

def BaselineSource.value : BaselineSource → String
  | .controlledSyntheticReference => "controlled_synthetic_reference"
  | .analystReference => "analyst_reference"

inductive DeidentificationStatus where
  | notApplicableControlledSynthetic
  | deidentifiedOwnerAttested
deriving DecidableEq, Repr

def DeidentificationStatus.value : DeidentificationStatus → String
  | .notApplicableControlledSynthetic => "not_applicable_controlled_synthetic"
  | .deidentifiedOwnerAttested => "deidentified_owner_attested"

inductive ConsentDataUseStatus where
  | notApplicableControlledSynthetic
  | ownerAttestedConsentHeldOffline
deriving DecidableEq, Repr

def ConsentDataUseStatus.value : ConsentDataUseStatus → String
  | .notApplicableControlledSynthetic => "not_applicable_controlled_synthetic"
  | .ownerAttestedConsentHeldOffline => "owner_attested_consent_held_offline"

/-- The one `CaseContractVersion`. -/
def caseContractVersion : String := "m2-shadow-case-contract-v2"

/-- A nullable text as JSON. -/
def textOrNull : Option String → Json
  | none => .null
  | some text => .str text

structure ReferenceOutcome where
  expectedState : ExpectedState
  rootCauseStatement : Option String
  recommendationActionType : Option ActionType
  confidence : Option Confidence

def ReferenceOutcome.modelDump (reference : ReferenceOutcome) : Json :=
  .obj [("expected_state", .str reference.expectedState.value),
    ("root_cause_statement", textOrNull reference.rootCauseStatement),
    ("recommendation_action_type",
      textOrNull (reference.recommendationActionType.map ActionType.value)),
    ("confidence", textOrNull (reference.confidence.map Confidence.value))]

structure ReferenceEscalation where
  expected : Bool
  code : Option String
  /-- `validate_code` -/
  codeFits : if expected then code.any (· ≠ "") = true else code = none

def ReferenceEscalation.modelDump (reference : ReferenceEscalation) : Json :=
  .obj [("expected", .bool reference.expected), ("code", textOrNull reference.code)]

structure MinimumEvidenceExpectation where
  requiredTools : List ToolName
  minimumUniqueCitations : Nat
  bounded : ∀ tool ∈ requiredTools, tool ∈ ToolName.evidenceTools
  notEmpty : requiredTools ≠ []
  atMostThree : minimumUniqueCitations ≤ 3
  /-- `validate_tools` -/
  unique : requiredTools.Nodup

def MinimumEvidenceExpectation.modelDump (expectation : MinimumEvidenceExpectation) : Json :=
  .obj [("required_tools", .arr (expectation.requiredTools.map (fun tool => .str tool.value))),
    ("minimum_unique_citations", .int expectation.minimumUniqueCitations)]

/-- `^v[1-9][0-9]*$` -/
def isCaseVersion (value : String) : Bool :=
  match value.toList with
  | 'v' :: first :: rest =>
      ('1' ≤ first && first ≤ '9') && rest.all (fun char => '0' ≤ char && char ≤ '9')
  | _ => false

/-- `CONSENT_REFERENCE_PATTERN`: `^OFFLINE-CONSENT-[A-Z0-9-]{8,64}$` -/
def isConsentReference (value : String) : Bool :=
  let rest := value.toList.drop 16
  value.toList.take 16 == "OFFLINE-CONSENT-".toList && 8 ≤ rest.length && rest.length ≤ 64 &&
    rest.all (fun char => ('A' ≤ char && char ≤ 'Z') || ('0' ≤ char && char ≤ '9') || char == '-')

/-- `ShadowCase.validate_case`, after `as_of_timestamp`. -/
def provenanceFits (label : ProvenanceLabel) (baseline : BaselineSource)
    (deidentification : DeidentificationStatus) (consent : ConsentDataUseStatus)
    (reference : Option String) : Bool :=
  match label with
  | .simulated =>
      baseline == .controlledSyntheticReference &&
        deidentification == .notApplicableControlledSynthetic &&
        consent == .notApplicableControlledSynthetic && reference == none
  | .genuineUatAnalystLabelled =>
      baseline == .analystReference && deidentification == .deidentifiedOwnerAttested &&
        consent == .ownerAttestedConsentHeldOffline && reference.isSome

/-- `execute` is `False` and `as_of_timestamp` is that of the input. `inputDump`
is the JSON of the input; `others` are the members `as_of_timestamp`,
`fixture_setup`, `notes` and `limitations`. -/
structure ShadowCase where
  caseId : String
  caseVersion : String
  category : String
  tenantId : String
  input : IntakeRequest
  inputDump : Json
  baselineSource : BaselineSource
  referenceOutcome : ReferenceOutcome
  referenceEscalationExpectation : ReferenceEscalation
  minimumEvidenceCitationExpectations : MinimumEvidenceExpectation
  provenanceLabel : ProvenanceLabel
  deidentificationStatus : DeidentificationStatus
  consentDataUseStatus : ConsentDataUseStatus
  consentDataUseReference : Option String
  others : List (String × Json)
  caseId_bounds : lengthBetween 1 100 caseId = true
  caseVersion_pattern : isCaseVersion caseVersion = true
  category_bounds : lengthBetween 1 80 category = true
  consentReference_pattern : nullOr isConsentReference consentDataUseReference = true
  tenantId_literal : tenantId = "t_alpha" ∨ tenantId = "t_beta"
  /-- "Reference state and escalation expectation disagree" -/
  escalationAgrees : referenceEscalationExpectation.expected =
    (referenceOutcome.expectedState == .escalated)
  /-- "Escalated references cannot include a recommendation draft" -/
  escalatedBare : referenceOutcome.expectedState = .escalated →
    referenceOutcome.rootCauseStatement = none ∧
      referenceOutcome.recommendationActionType = none ∧ referenceOutcome.confidence = none
  provenance : provenanceFits provenanceLabel baselineSource deidentificationStatus
    consentDataUseStatus consentDataUseReference = true

namespace ShadowCase

/-- `model_dump(mode="json")` -/
def modelDump (case : ShadowCase) : Json :=
  .obj ([("case_id", .str case.caseId), ("case_version", .str case.caseVersion),
    ("case_contract_version", .str caseContractVersion), ("category", .str case.category),
    ("tenant_id", .str case.tenantId), ("execute", .bool false), ("input", case.inputDump),
    ("baseline_source", .str case.baselineSource.value),
    ("reference_outcome", case.referenceOutcome.modelDump),
    ("reference_escalation_expectation", case.referenceEscalationExpectation.modelDump),
    ("minimum_evidence_citation_expectations",
      case.minimumEvidenceCitationExpectations.modelDump),
    ("provenance_label", .str case.provenanceLabel.value),
    ("deidentification_status", .str case.deidentificationStatus.value),
    ("consent_data_use_status", .str case.consentDataUseStatus.value),
    ("consent_data_use_reference", textOrNull case.consentDataUseReference)] ++ case.others)

end ShadowCase

end StockoutOps.Shadow
