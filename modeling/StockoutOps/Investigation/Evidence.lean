import StockoutOps.Errors
import StockoutOps.Investigation.Schema
import StockoutOps.Provenance

/-!
Contract: the three evidence classes and the acceptance of a bundle.

Owns: `Evidence` with the canonical hash of its facts, and `validate_bundle`
with every failure it can raise.

Does not own: how evidence is retrieved. Serialisation by the model library is
an `EvidenceCodec`.
-/

namespace StockoutOps.Investigation

open StockoutOps.Sql

/-- The fact fields of each evidence class. -/
inductive EvidenceFacts where
  | inventory (skuId storeId : String) (onHand reserved onOrder : PyFloat)
      (updatedAt : PyDatetime)
  | demand (skuId storeId : String) (unitsSold averageDailyUnits : PyFloat)
      (demandSignal : String) (updatedAt : PyDatetime)
  | supplier (skuId supplierId : String) (openOrderQuantity : PyFloat)
      (expectedReceiptAt : PyDatetime) (historicalLeadTimeDays : PyFloat) (status : String)
      (updatedAt : PyDatetime)
deriving DecidableEq

namespace EvidenceFacts

def tool : EvidenceFacts → ToolName
  | .inventory .. => .inventory
  | .demand .. => .salesDemand
  | .supplier .. => .supplier

/-- `{field: getattr(item, field) for field in _FACT_FIELDS[item.tool]}` -/
def toJson (provenance : Provenance) : EvidenceFacts → Json
  | .inventory skuId storeId onHand reserved onOrder updatedAt =>
      .obj [("sku_id", .str skuId), ("store_id", .str storeId), ("on_hand", .float onHand),
        ("reserved", .float reserved), ("on_order", .float onOrder),
        ("updated_at", .str (provenance.isoUtc updatedAt))]
  | .demand skuId storeId unitsSold averageDailyUnits demandSignal updatedAt =>
      .obj [("sku_id", .str skuId), ("store_id", .str storeId),
        ("units_sold", .float unitsSold), ("average_daily_units", .float averageDailyUnits),
        ("demand_signal", .str demandSignal),
        ("updated_at", .str (provenance.isoUtc updatedAt))]
  | .supplier skuId supplierId openOrderQuantity expectedReceiptAt historicalLeadTimeDays
      status updatedAt =>
      .obj [("sku_id", .str skuId), ("supplier_id", .str supplierId),
        ("open_order_quantity", .float openOrderQuantity),
        ("expected_receipt_at", .str (provenance.isoUtc expectedReceiptAt)),
        ("historical_lead_time_days", .float historicalLeadTimeDays), ("status", .str status),
        ("updated_at", .str (provenance.isoUtc updatedAt))]

end EvidenceFacts

structure Evidence where
  evidenceId : String
  sourceRef : String
  queryHash : String
  contentHash : String
  retrievedAt : PyDatetime
  freshnessTs : PyDatetime
  fixtureManifestVersion : String
  facts : EvidenceFacts
deriving DecidableEq

def Evidence.tool (evidence : Evidence) : ToolName := evidence.facts.tool

/-- `item.model_dump(mode="json")` and the validation of a stored payload, which
raises pydantic's `ValidationError`, a `ValueError`. -/
structure EvidenceCodec where
  modelDump : Evidence → Json
  validate : Json → Except String Evidence

/-- `parse_evidence`; a missing payload does not validate. -/
def EvidenceCodec.parseEvidence (codec : EvidenceCodec) (payload : Option Json) :
    Except Failure Evidence :=
  match codec.validate (payload.getD .null) with
  | .ok evidence => .ok evidence
  | .error message => .error (.valueError message)

def EvidenceCodec.parseAll (codec : EvidenceCodec) (payloads : List (Option Json)) :
    Except Failure (List Evidence) :=
  payloads.mapM codec.parseEvidence

def hour : Int := 3600 * second

/-- `FRESHNESS_LIMITS`; `reasoning` is not an evidence class. -/
def freshnessLimit : ToolName → Int
  | .inventory => 24 * hour
  | .salesDemand => 48 * hour
  | .supplier => 72 * hour
  | .reasoning => 0

/-- The checks of `validate_bundle` on one item. -/
def validateItem (provenance : Provenance) (asOfTs : Timestamp) (item : Evidence) :
    Except Failure Unit := do
  if ¬ item.retrievedAt.aware ∨ ¬ item.freshnessTs.aware then
    throw (.evidenceFailure "PROVENANCE_INVALID" "Provenance timestamps must be aware")
  if provenance.canonicalHash (item.facts.toJson provenance) ≠ item.contentHash then
    throw (.evidenceFailure "PROVENANCE_INVALID" "Content hash does not match evidence")
  if provenance.expectedEvidenceId item.sourceRef item.contentHash ≠ item.evidenceId then
    throw (.evidenceFailure "PROVENANCE_INVALID" "Evidence ID is not deterministic")
  let age := asOfTs - item.freshnessTs.instant
  if age < 0 ∨ freshnessLimit item.tool < age then
    throw (.evidenceFailure "EVIDENCE_STALE"
      (item.tool.value ++ " evidence is outside policy"))

def validateBundle (provenance : Provenance) (bundle : List Evidence) (asOfTs : Timestamp) :
    Except Failure Unit := do
  let actualTools := bundle.map Evidence.tool
  if actualTools.length ≠ 3 ∨ ¬ (∀ tool ∈ actualTools, tool ∈ ToolName.evidenceTools) ∨
      ¬ (∀ tool ∈ ToolName.evidenceTools, tool ∈ actualTools) then
    throw (.evidenceFailure "EVIDENCE_INCOMPLETE" "T1, T2 and T3 evidence are all required")
  if actualTools.dedup.length ≠ actualTools.length then
    throw (.evidenceFailure "EVIDENCE_DUPLICATE" "Evidence tools must be unique")
  bundle.forM (validateItem provenance asOfTs)

/-! ## Failures -/

theorem evidenceFailure_of_validateItem {provenance : Provenance} {asOfTs : Timestamp}
    {item : Evidence} {exception : Failure}
    (raised : validateItem provenance asOfTs item = .error exception) :
    ∃ code message, exception = .evidenceFailure code message := by
  unfold validateItem at raised
  simp only [throw, throwThe, MonadExceptOf.throw, bind, Except.bind, pure, Except.pure] at raised
  grind

/-- `validate_bundle` raises nothing but an `EvidenceFailure`. -/
theorem evidenceFailure_of_validateBundle {provenance : Provenance} {bundle : List Evidence}
    {asOfTs : Timestamp} {exception : Failure}
    (raised : validateBundle provenance bundle asOfTs = .error exception) :
    ∃ code message, exception = .evidenceFailure code message := by
  have items : ∀ rest : List Evidence, rest.forM (validateItem provenance asOfTs) =
      .error exception → ∃ code message, exception = .evidenceFailure code message := by
    intro rest
    induction rest with
    | nil => exact nofun
    | cons head tail inductionHypothesis =>
        intro raised
        have stepped : (validateItem provenance asOfTs head >>= fun _ =>
          tail.forM (validateItem provenance asOfTs)) = .error exception := raised
        rcases bind_eq_error.mp stepped with first | ⟨_, -, later⟩
        · exact evidenceFailure_of_validateItem first
        · exact inductionHypothesis later
  unfold validateBundle at raised
  simp only [throw, throwThe, MonadExceptOf.throw, bind, Except.bind] at raised
  grind

end StockoutOps.Investigation
