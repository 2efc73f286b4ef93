import Mathlib.Data.Prod.Lex
import StockoutOps.Foundation.Counting
import StockoutOps.Provenance
import StockoutOps.Shadow.Collection

/-!
Contract: the first-100 readiness report, `aggregate_collection` of
`shadow/collection.py`.

Owns: the intake manifest, the sections of the report, the audit rows and every
check that the aggregation makes, in its order.

Does not own: the canonical hash and the text of a UUID, which are parameters; the
Markdown rendering and the files.

An omitted list, set or map is the empty one. A text of the report that quotes a
time is given as that text.
-/

namespace StockoutOps.Shadow

open StockoutOps.Foundation.Grouping

/-! ## Failures -/

/-- An exception of the collection: one it raises itself, or one of the statistics. -/
inductive CollectionFailure where
  | raised (failure : Failure)
  | statistics (failure : ReportFailure)
deriving DecidableEq

def raising {α : Type} : Except Failure α → Except CollectionFailure α
  | .ok value => .ok value
  | .error failure => .error (.raised failure)

def counting {α : Type} : Except ReportFailure α → Except CollectionFailure α
  | .ok value => .ok value
  | .error failure => .error (.statistics failure)

/-- `if condition: raise RuntimeError(message)` -/
def raiseWhen (condition : Bool) (message : String) : Except CollectionFailure Unit :=
  if condition then .error (.raised (.runtimeError message)) else .ok ()

/-! ## The manifest -/

/-- `(tenant_id, case_id, case_version)`, compared as a tuple. -/
def manifestKey (record : ShadowIntakeRow) : String ×ₗ String ×ₗ String :=
  toLex (record.tenantId, toLex (record.caseId, record.caseVersion))

def manifestEntry (record : ShadowIntakeRow) : Json :=
  .obj [("tenant_id", .str record.tenantId), ("case_id", .str record.caseId),
    ("case_version", .str record.caseVersion), ("payload_sha256", .str record.payloadHash),
    ("provenance_label", .str record.provenanceLabel.value),
    ("baseline_source", .str record.baselineSource.value), ("category", .str record.category)]

def genuineIntakeManifest (provenance : Provenance) (records : List ShadowIntakeRow) : Json :=
  let entries := (records.mergeSort fun first second =>
    decide (manifestKey first ≤ manifestKey second)).map manifestEntry
  let document := [("document", .str "m2-genuine-intake-manifest-v1"),
    ("case_count", .int entries.length), ("cases", .arr entries)]
  .obj (document ++ [("manifest_sha256", .str (provenance.canonicalHash (.obj document)))])

/-! ## Counts -/

/-- The labels of the records, and the pack under SIMULATED. -/
def provenanceCounts (cases : List ShadowCase) (records : List ShadowIntakeRow) :
    List (String × Nat) :=
  upsert ProvenanceLabel.simulated.value (fun count => count.getD 0 + cases.length)
    (update [] (records.map fun record => record.provenanceLabel.value))

def categoryDistribution (cases : List ShadowCase) (records : List ShadowIntakeRow) :
    List (String × Nat) :=
  update (update [] (cases.map ShadowCase.category)) (records.map ShadowIntakeRow.category)

def analystReferenceCoverage (records : List ShadowIntakeRow) : Nat :=
  records.countP fun record => record.baselineSource = .analystReference

def cumulative (cases : List ShadowCase) (records : List ShadowIntakeRow) (officialCount : Nat)
    (excluded : List (IntakeId × String)) : Json :=
  .obj [("simulated_case_count", .int cases.length),
    ("genuine_imported_count", .int records.length),
    ("analyst_reference_coverage", .int (analystReferenceCoverage records)),
    ("accepted_for_m2_05_count", .int officialCount), ("excluded_count", .int excluded.length),
    ("invalid_case_count", .int 0),
    ("provenance_counts", sortedCounts (provenanceCounts cases records)),
    ("category_distribution", sortedCounts (categoryDistribution cases records)),
    ("exclusion_reasons", sortedCounts (update [] (excluded.map Prod.snd)))]

/-! ## Audit rows -/

def packAuditRow (case : ShadowCase) : Json :=
  .obj [("collection_class", .str "SIMULATED"), ("case_id", .str case.caseId),
    ("case_version", .str case.caseVersion), ("tenant_id", .str case.tenantId),
    ("provenance_label", .str case.provenanceLabel.value),
    ("baseline_source", .str case.baselineSource.value),
    ("source", .str "controlled_synthetic_pack"), ("official_m2_05_eligible", .bool false)]

def intakeAuditRow (uuidText : IntakeId → String) (officialIds : List IntakeId)
    (record : ShadowIntakeRow) : Json :=
  .obj [("collection_class", .str "GENUINE_UAT_ANALYST_LABELLED"),
    ("case_id", .str record.caseId), ("case_version", .str record.caseVersion),
    ("tenant_id", .str record.tenantId), ("intake_id", .str (uuidText record.intakeId)),
    ("payload_sha256", .str record.payloadHash),
    ("provenance_label", .str record.provenanceLabel.value),
    ("baseline_source", .str record.baselineSource.value),
    ("source", .str "owner_approved_uat_import"),
    ("official_m2_05_eligible", .bool (record.intakeId ∈ officialIds))]

/-- `item["official_m2_05_eligible"] is True` -/
def markedEligible (row : Json) : Bool :=
  row.member? "official_m2_05_eligible" == some (.bool true)

/-! ## The official total -/

def officialM205Requirement : Nat := 100

/-- Synthetic packs contribute zero to the official M2-05 genuine-100 total. -/
def officialM205ContributionFromSyntheticPack (caseCount : Int) : Except Failure Int :=
  if caseCount < 0 then .error (.valueError "Synthetic case count cannot be negative") else .ok 0

def officialM205 (officialCount syntheticCount : Nat) (contribution : Int) : Json :=
  .obj [("eligible_count", .int officialCount), ("requirement", .int officialM205Requirement),
    ("remaining", .int (max 0 ((officialM205Requirement : Int) - officialCount))),
    ("status", .str "PENDING — no first 100 genuine shadow cases"),
    ("synthetic_cases_excluded", .int syntheticCount),
    ("synthetic_contribution", .int contribution)]

/-! ## `aggregate_collection` -/

/-- `stats["evidence_label"] = label` on statistics that have none. -/
def withEvidenceLabel (label : String) : Json → Json
  | .obj members => .obj (members ++ [("evidence_label", .str label)])
  | other => other

def simulatedSection (loaded : LoadedCasePack) : Json :=
  .obj [("case_count", .int loaded.pack.cases.length),
    ("pack_version", .str loaded.pack.casePackVersion),
    ("cases_sha256", .str loaded.casesSha256), ("manifest_sha256", .str loaded.manifestSha256),
    ("provenance_label", .str "SIMULATED"),
    ("baseline_source", .str "controlled_synthetic_reference"),
    ("official_m2_05_eligible_count", .int 0)]

def agreementSection (simulated genuine : Json) (genuineResults : List ShadowResult) : Json :=
  .obj [("simulated", withEvidenceLabel "SIMULATED" simulated),
    ("genuine_uat_analyst_labelled", withEvidenceLabel
      (if genuineResults = [] then "UNMEASURED" else "GENUINE_UAT_ANALYST_LABELLED") genuine)]

def collectionControls : Json :=
  .obj [("execute", .bool false), ("external_action_count", .int 0), ("openai_calls", .int 0),
    ("aws_resources_used", .int 0)]

def collectionStatus : Json :=
  .obj [("M2-01", .str "merged engineering foundation (PR #18)"),
    ("M2-02", .str "merged engineering foundation (PR #18)"),
    ("M2-03", .str "PENDING — no users recruited"), ("M2-04", .str "PENDING — no SLO alerts"),
    ("M2-05", .str "PENDING — no first 100 genuine shadow cases"),
    ("M2-06", .str "PENDING — no G1 exit report or verdict")]

def collectionLimitations : Json :=
  texts ["The 12-case pack remains controlled synthetic and cannot satisfy M2-05.",
    "No genuine participant, consent record, or analyst-labelled case is stored in git.",
    "M2-04 SLO alerts remain unimplemented; this report is not an alert backend."]

/-- What the aggregation is given. -/
structure CollectionInput where
  loaded : LoadedCasePack
  gitSha : String
  generatedAt : String
  intakeRecords : List ShadowIntakeRow
  acceptedIds : List IntakeId
  excluded : List (IntakeId × String)
  simulatedResults : List ShadowResult
  genuineResults : List ShadowResult

namespace CollectionInput

variable (provenance : Provenance) (uuidText : IntakeId → String) (input : CollectionInput)

def cases : List ShadowCase := input.loaded.pack.cases

def excludedIds : List IntakeId := input.excluded.map Prod.fst

def perCaseAudit (official : List ShadowIntakeRow) : List Json :=
  input.cases.map packAuditRow ++
    input.intakeRecords.map (intakeAuditRow uuidText (official.map ShadowIntakeRow.intakeId))

/-- The members of the report, before its own hash. -/
def reportMembers (official : List ShadowIntakeRow) (simulated genuine : Json)
    (contribution : Int) : List (String × Json) :=
  [("title", .str "M2 FIRST-100 READINESS — SIMULATED TOOLING REHEARSAL"),
    ("evidence_label", .str "SIMULATED TOOLING REHEARSAL"),
    ("claim_boundary", .str ("Collection/readiness tooling only. Synthetic cases are excluded " ++
      "from the official M2-05 genuine 100-case requirement. No users were recruited and no " ++
      "genuine UAT cases exist in this repository.")),
    ("exact_git_sha", .str input.gitSha), ("generated_at", .str input.generatedAt),
    ("simulated", simulatedSection input.loaded),
    ("genuine_intake", genuineIntakeManifest provenance input.intakeRecords),
    ("cumulative", cumulative input.cases input.intakeRecords official.length input.excluded),
    ("agreement", agreementSection simulated genuine input.genuineResults),
    ("official_m2_05", officialM205 official.length input.cases.length contribution),
    ("controls", collectionControls), ("m2_status", collectionStatus),
    ("per_case_audit", .arr (input.perCaseAudit uuidText official)),
    ("limitations", collectionLimitations)]

end CollectionInput

def syntheticOverlap : String := "Synthetic pack identities cannot count toward official M2-05"

def simulatedGenuineResult : String :=
  "SIMULATED results cannot enter genuine disagreement aggregation"

def aggregateCollection (provenance : Provenance) (uuidText : IntakeId → String)
    (input : CollectionInput) : Except CollectionFailure Json := do
  input.cases.forM fun case => raiseWhen (case.provenanceLabel ≠ .simulated)
    "Controlled-synthetic pack contained a non-SIMULATED case"
  let official ← raising
    (officialM205Records input.intakeRecords input.acceptedIds input.excludedIds)
  raiseWhen
    ((input.cases.any fun case => case.provenanceLabel = .simulated) && official ≠ [] &&
      official.any fun record =>
        (input.cases.map ShadowCase.identity).contains (record.caseId, record.caseVersion))
    syntheticOverlap
  let simulated ← counting (agreementStats input.simulatedResults)
  let genuine ← counting (agreementStats input.genuineResults)
  raiseWhen (input.genuineResults.any fun result => result.provenanceLabel = .simulated)
    simulatedGenuineResult
  let contribution ← raising (officialM205ContributionFromSyntheticPack input.cases.length)
  let members := input.reportMembers provenance uuidText official simulated genuine contribution
  -- The eligible count of the pack is the literal 0 and passes its check.
  raiseWhen (contribution ≠ 0) "Synthetic cases cannot count toward the official M2-05 total"
  raiseWhen (official.length ≠
      ((input.perCaseAudit uuidText official).filter markedEligible).length)
    "Official M2-05 audit rows diverged from the eligible count"
  pure (.obj (members ++
    [("report_sha256", .str (provenance.canonicalHash (.obj members)))]))

end StockoutOps.Shadow
