import StockoutOps.Investigation.Fixtures
import StockoutOps.Investigation.Reasoning

/-!
Contract: a JSON form of evidence, with the laws of `EvidenceModels`.

Owns: the dump of an evidence item field by field, its reading, the round trip
between them, and the models in which a float is the number it stands for.

Does not own: the text of an arbitrary timestamp.
-/

namespace StockoutOps.Investigation

open StockoutOps.Sql

/-- The first two days of 1970 as pydantic prints them, and any other timestamp
in a form that can be read back. -/
def dumpDatetime (value : PyDatetime) : Json :=
  if value = ⟨0, true⟩ then .str "1970-01-01T00:00:00Z"
  else if value = ⟨86400 * second, true⟩ then .str "1970-01-02T00:00:00Z"
  else .arr [.int value.instant, .bool value.aware]

def readDatetime : Json → Option PyDatetime
  | .str text =>
      if text = "1970-01-01T00:00:00Z" then some ⟨0, true⟩ else some ⟨86400 * second, true⟩
  | .arr [.int instant, .bool aware] => some ⟨instant, aware⟩
  | _ => none

@[simp] theorem readDatetime_dump (value : PyDatetime) :
    readDatetime (dumpDatetime value) = some value := by
  unfold dumpDatetime
  split
  · rename_i same
    simp [readDatetime, same]
  · split
    · rename_i same
      simp [readDatetime, same]
    · rfl

theorem storable_dumpDatetime (value : PyDatetime) : (dumpDatetime value).storable = true := by
  unfold dumpDatetime
  split
  · decide
  · split
    · decide
    · rfl

def readFloat : Json → Option PyFloat
  | .float value => some value
  | _ => none

/-- The fields of a subclass, after those of `EvidenceBase`. -/
def EvidenceFacts.dump : EvidenceFacts → List (String × Json)
  | .inventory skuId storeId onHand reserved onOrder updatedAt =>
      [("tool", .str "T1_inventory"), ("sku_id", .str skuId), ("store_id", .str storeId),
        ("on_hand", .float onHand), ("reserved", .float reserved), ("on_order", .float onOrder),
        ("updated_at", dumpDatetime updatedAt)]
  | .demand skuId storeId unitsSold averageDailyUnits demandSignal updatedAt =>
      [("tool", .str "T2_sales_demand"), ("sku_id", .str skuId), ("store_id", .str storeId),
        ("units_sold", .float unitsSold), ("average_daily_units", .float averageDailyUnits),
        ("demand_signal", .str demandSignal), ("updated_at", dumpDatetime updatedAt)]
  | .supplier skuId supplierId openOrderQuantity expectedReceiptAt historicalLeadTimeDays status
      updatedAt =>
      [("tool", .str "T3_supplier"), ("sku_id", .str skuId), ("supplier_id", .str supplierId),
        ("open_order_quantity", .float openOrderQuantity),
        ("expected_receipt_at", dumpDatetime expectedReceiptAt),
        ("historical_lead_time_days", .float historicalLeadTimeDays), ("status", .str status),
        ("updated_at", dumpDatetime updatedAt)]

def Evidence.dump (evidence : Evidence) : Json :=
  .obj ([("tool_schema_version", .str "v1"), ("evidence_id", .str evidence.evidenceId),
    ("source_type", .str "postgres_fixture"), ("source_ref", .str evidence.sourceRef),
    ("query_hash", .str evidence.queryHash), ("content_hash", .str evidence.contentHash),
    ("retrieved_at", dumpDatetime evidence.retrievedAt),
    ("freshness_ts", dumpDatetime evidence.freshnessTs),
    ("fixture_manifest_version", .str evidence.fixtureManifestVersion)] ++ evidence.facts.dump)

def readFacts (payload : Json) : Option EvidenceFacts := do
  let text := fun key => (payload.member? key).bind strItem
  let float := fun key => (payload.member? key).bind readFloat
  let datetime := fun key => (payload.member? key).bind readDatetime
  match ← text "tool" with
  | "T1_inventory" =>
      some (.inventory (← text "sku_id") (← text "store_id") (← float "on_hand")
        (← float "reserved") (← float "on_order") (← datetime "updated_at"))
  | "T2_sales_demand" =>
      some (.demand (← text "sku_id") (← text "store_id") (← float "units_sold")
        (← float "average_daily_units") (← text "demand_signal") (← datetime "updated_at"))
  | _ =>
      some (.supplier (← text "sku_id") (← text "supplier_id") (← float "open_order_quantity")
        (← datetime "expected_receipt_at") (← float "historical_lead_time_days")
        (← text "status") (← datetime "updated_at"))

def readEvidence (payload : Json) : Option Evidence := do
  let text := fun key => (payload.member? key).bind strItem
  let datetime := fun key => (payload.member? key).bind readDatetime
  some
    { evidenceId := ← text "evidence_id"
      sourceRef := ← text "source_ref"
      queryHash := ← text "query_hash"
      contentHash := ← text "content_hash"
      retrievedAt := ← datetime "retrieved_at"
      freshnessTs := ← datetime "freshness_ts"
      fixtureManifestVersion := ← text "fixture_manifest_version"
      facts := ← readFacts payload }

/-- A dumped item reads back as it was. -/
theorem readEvidence_dump (evidence : Evidence) : readEvidence evidence.dump = some evidence := by
  obtain ⟨evidenceId, sourceRef, queryHash, contentHash, retrievedAt, freshnessTs, version,
    facts⟩ := evidence
  cases facts <;>
    simp [readEvidence, readFacts, Evidence.dump, EvidenceFacts.dump, Json.member?, strItem,
      readFloat]

/-- The dump can be stored when its floats and texts can. -/
theorem storable_dump (evidence : Evidence) : evidence.dump.storable =
    (evidence.facts.floats.all Json.finiteFloat &&
      evidence.texts.all (fun text => storableText text.1)) := by
  have keys : ∀ text ∈ ["v1", "postgres_fixture", "T1_inventory", "T2_sales_demand", "T3_supplier",
    "tool_schema_version", "evidence_id", "source_type", "source_ref", "query_hash",
    "content_hash", "retrieved_at", "freshness_ts", "fixture_manifest_version", "tool",
    "sku_id", "store_id", "on_hand", "reserved", "on_order", "updated_at", "units_sold",
    "average_daily_units", "demand_signal", "supplier_id", "open_order_quantity",
    "expected_receipt_at", "historical_lead_time_days", "status"], storableText text = true := by
    decide
  simp only [List.forall_mem_cons] at keys
  obtain ⟨evidenceId, sourceRef, queryHash, contentHash, retrievedAt, freshnessTs, version,
    facts⟩ := evidence
  cases facts <;>
    simp [Evidence.dump, EvidenceFacts.dump, Json.storable, Json.storableMembers,
      EvidenceFacts.floats, EvidenceFacts.texts, Evidence.texts, storable_dumpDatetime, keys] <;>
    grind

/-- Exact floats, and `ge=0` as pydantic decides it on finite ones. -/
def exactModels : EvidenceModels where
  modelDump := Evidence.dump
  validate := fun payload =>
    match readEvidence payload with
    | some evidence => .ok evidence
    | none => .error "validation error"
  float := .finite
  ge0 := fun value =>
    match value with
    | .finite exact => 0 ≤ exact
    | .posInf => true
    | .negInf => false
    | .nan => false
  float_nonneg := by
    intro value rounded nonneg same
    obtain rfl := PyFloat.finite.inj same
    exact nonneg
  ge0_finite := fun _ => rfl
  storable_modelDump := storable_dump
  validate_modelDump := by
    intro evidence _ _
    simp [readEvidence_dump]

end StockoutOps.Investigation
