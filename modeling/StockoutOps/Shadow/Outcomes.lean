import StockoutOps.Shadow.AuditEvents

/-!
Contract: what an outcome says of the draft and the evidence of its investigation.

Owns: the fields of `_actual` that are read from the draft and the evidence.

Does not own: the fields that are read from the invocations and the audit trail.
-/

namespace StockoutOps.Shadow

open StockoutOps.Investigation StockoutOps.Sql

/-- The ids of the evidence of a run. -/
def Observed.evidenceIds (observed : Observed) : List String :=
  observed.detail.evidence.map Evidence.evidenceId

/-- `detail["draft"]` -/
def Observed.draft (observed : Observed) : Option Json :=
  loadJsonb observed.detail.run.draftJson

/-- The citations that are taken from the draft. -/
def Observed.citationIds (observed : Observed) : List String :=
  ((readDraft observed.draft observed.evidenceIds).reasoning.map ReasoningResult.citations).getD []

/-- The fields that the draft and the evidence decide. -/
structure OutcomeOf (observed : Observed) (actual : ShadowActualOutcome) : Prop where
  schemaValid : actual.schemaValid = (readDraft observed.draft observed.evidenceIds).schemaValid
  evidenceTools : actual.evidenceTools = observed.detail.evidence.map fun item => item.tool.value
  evidenceIds : actual.evidenceIds = observed.evidenceIds
  citationIds : actual.citationIds = observed.citationIds
  unsupported : actual.unsupportedCitationCount =
    (observed.citationIds.dedup.filter fun citation => citation ∉ observed.evidenceIds).length
  coverage : actual.citationCoverage =
    if observed.evidenceIds = [] then 0
    else ratio (observed.citationIds.dedup.filter fun citation =>
      citation ∈ observed.evidenceIds).length observed.evidenceIds.dedup.length

theorem outcomeOf_assemble {service : ShadowService} {case : ShadowCase} {observed : Observed}
    {actual : ShadowActualOutcome} (returned : service.assemble case observed = .ok actual) :
    OutcomeOf observed actual := by
  unfold ShadowService.assemble at returned
  simp only at returned
  obtain ⟨latency, -, returned⟩ := bind_eq_ok.mp returned
  obtain ⟨code, -, returned⟩ := bind_eq_ok.mp returned
  obtain ⟨missing, -, returned⟩ := bind_eq_ok.mp returned
  -- an absent cost, a null one and a number
  split at returned
  all_goals
    repeat obtain ⟨_, -, returned⟩ := bind_eq_ok.mp returned
    obtain rfl := Except.ok.inj returned
    exact ⟨rfl, rfl, rfl, rfl, rfl, rfl⟩

/-! ## Drafts -/

section Drafts

variable {observed : Observed} {payload : Json} {reasoning : ReasoningResult}

/-- A draft that cites what is there is read whole. -/
theorem readDraft_supported (stored : observed.draft = some payload)
    (parses : ReasoningResult.modelValidate payload = some reasoning)
    (supported : ∀ citation ∈ reasoning.citations, citation ∈ observed.evidenceIds) :
    readDraft observed.draft observed.evidenceIds = ⟨true, some reasoning⟩ := by
  rw [stored, readDraft, parses]
  simp only [validateCitations_eq_ok.mpr supported]

/-- A draft that cites anything else is not read at all. -/
theorem readDraft_unsupported (stored : observed.draft = some payload)
    (parses : ReasoningResult.modelValidate payload = some reasoning)
    (unsupported : ¬ ∀ citation ∈ reasoning.citations, citation ∈ observed.evidenceIds) :
    readDraft observed.draft observed.evidenceIds = ⟨false, none⟩ := by
  rw [stored, readDraft, parses]
  cases valid : validateCitations reasoning observed.evidenceIds with
  | ok _ => exact absurd (validateCitations_eq_ok.mp valid) unsupported
  | error _ => simp only [valid]

end Drafts

/-! ### Runs with one item of evidence -/

def outcomeService : ShadowService :=
  { importService with
    toFloat := fun value =>
      match value with
      | .float value => .ok value
      | .int value => .ok (.finite value)
      | _ => .error .assertionError }

def shelfItem : Evidence where
  evidenceId := "ev_31ee4d2ea15049ea8799657c240083def1c39b965fee70e0e99755f6d36d65c0"
  sourceRef := "inventory:t_alpha:SKU-1:STORE-1"
  queryHash := "8e35c2cd3bf6641bdb0e2050b76932cbb2e6034a0ddacc1d9bea82a6ba57f7cf"
  contentHash := "5041bf1f713df204784353e82f6a4a535931cb64f1f4b4a5aeaffcb720918b22"
  retrievedAt := ⟨0, true⟩
  freshnessTs := ⟨0, true⟩
  fixtureManifestVersion := "m2-shadow-cases-v1-2026-01-01"
  facts := .inventory "SKU-1" "STORE-1" (.finite 0) (.finite 0) (.finite 0) ⟨0, true⟩

def shelfRow (state : RunState) (draft : Option Json) : RunRow where
  runId := 1
  tenantId := "t_alpha"
  requestedBy := "operator-1"
  assignedReviewerId := "reviewer-1"
  skuId := "SKU-1"
  storeId := "STORE-1"
  supplierId := "SUP-1"
  asOfTs := 2
  windowStart := 0
  windowEnd := 1
  requestHash := "454349e422f05297191ead13e21d3db520e5abef52055e4964b82fb213f593a1"
  runMode := .shadow
  state := state
  stateVersion := 5
  draftJson := draft
  draftHash := none
  draftCreatedAt := none
  reviewExpiresAt := none
  createdAt := 2
  updatedAt := 2

/-- What is read of a run without an invocation of the reasoning. -/
def shelfRun (state : RunState) (draft : Option Json) : Observed where
  detail := ⟨shelfRow state draft, [shelfItem], none⟩
  trail := ⟨shelfRow state draft, []⟩
  reasoning := none

end StockoutOps.Shadow
