import StockoutOps.Investigation.EvidenceValidation

/-!
Contract: evidence on its way through a `jsonb` column.

Owns: `model_dump(mode="json")` and `parse_evidence` of the three evidence
classes field by field, what the column may do to a value, that a stored item
reads back as it was, and the verdict of `validate_bundle` on the items of the
three tools.

Does not own: the text of a timestamp, and the digits of a number.
-/

namespace StockoutOps.Investigation

open StockoutOps.Sql

/-- A JSON number as a `float` field reads it. -/
def readNumber : Json → Option PyFloat
  | .float value => some value
  | .int value => some (.finite value)
  | _ => none

/-- A timestamp, a text and a number on their way into a `jsonb` column and back:
the column keeps the members of an object in an order of its own, and a number
as the number it is. -/
structure JsonbWire where
  dumpDatetime : PyDatetime → String
  readDatetime : String → Option PyDatetime
  readDatetime_dump : ∀ value, readDatetime (dumpDatetime value) = some value
  storable_dumpDatetime : ∀ value, storableText (dumpDatetime value) = true
  store : Json → Json
  store_str : ∀ text, store (.str text) = .str text
  store_float : ∀ value, readNumber (store (.float (.finite value))) = some (.finite value)
  store_obj : ∀ members : List (String × Json), (members.map Prod.fst).Nodup →
    ∃ stored, store (.obj members) = .obj stored ∧
      (stored.map Prod.fst).Perm (members.map Prod.fst) ∧
      ∀ key, (Json.obj stored).member? key = ((Json.obj members).member? key).map store

/-! ## Fields -/

/-- The keys of an object. -/
def keysOf : Json → List String
  | .obj members => members.map Prod.fst
  | _ => []

def textField (payload : Json) (key : String) : Option String :=
  (payload.member? key).bind strItem

def numberField (payload : Json) (key : String) : Option PyFloat :=
  (payload.member? key).bind readNumber

def JsonbWire.datetimeField (wire : JsonbWire) (payload : Json) (key : String) :
    Option PyDatetime :=
  (textField payload key).bind wire.readDatetime

/-- The fields of `EvidenceBase`, and the discriminator. -/
def baseFields : List String :=
  ["tool_schema_version", "evidence_id", "source_type", "source_ref", "query_hash",
    "content_hash", "retrieved_at", "freshness_ts", "fixture_manifest_version", "tool"]

/-- `_FACT_FIELDS[tool]` -/
def factFields : ToolName → List String
  | .inventory => ["sku_id", "store_id", "on_hand", "reserved", "on_order", "updated_at"]
  | .salesDemand =>
      ["sku_id", "store_id", "units_sold", "average_daily_units", "demand_signal", "updated_at"]
  | .supplier =>
      ["sku_id", "supplier_id", "open_order_quantity", "expected_receipt_at",
        "historical_lead_time_days", "status", "updated_at"]
  | .reasoning => []

/-- `Field(ge=0)`; a NaN is not greater than anything. -/
def nonnegFloat : PyFloat → Bool
  | .finite value => 0 ≤ value
  | .posInf => true
  | .negInf | .nan => false

namespace JsonbWire

variable (wire : JsonbWire)

/-! ## Dump -/

def dumpFacts : EvidenceFacts → List (String × Json)
  | .inventory skuId storeId onHand reserved onOrder updatedAt =>
      [("sku_id", .str skuId), ("store_id", .str storeId), ("on_hand", .float onHand),
        ("reserved", .float reserved), ("on_order", .float onOrder),
        ("updated_at", .str (wire.dumpDatetime updatedAt))]
  | .demand skuId storeId unitsSold averageDailyUnits demandSignal updatedAt =>
      [("sku_id", .str skuId), ("store_id", .str storeId), ("units_sold", .float unitsSold),
        ("average_daily_units", .float averageDailyUnits), ("demand_signal", .str demandSignal),
        ("updated_at", .str (wire.dumpDatetime updatedAt))]
  | .supplier skuId supplierId openOrderQuantity expectedReceiptAt historicalLeadTimeDays status
      updatedAt =>
      [("sku_id", .str skuId), ("supplier_id", .str supplierId),
        ("open_order_quantity", .float openOrderQuantity),
        ("expected_receipt_at", .str (wire.dumpDatetime expectedReceiptAt)),
        ("historical_lead_time_days", .float historicalLeadTimeDays), ("status", .str status),
        ("updated_at", .str (wire.dumpDatetime updatedAt))]

/-- The members of `model_dump(mode="json")`. -/
def dumpMembers (item : Evidence) : List (String × Json) :=
  [("tool_schema_version", .str "v1"), ("evidence_id", .str item.evidenceId),
    ("source_type", .str "postgres_fixture"), ("source_ref", .str item.sourceRef),
    ("query_hash", .str item.queryHash), ("content_hash", .str item.contentHash),
    ("retrieved_at", .str (wire.dumpDatetime item.retrievedAt)),
    ("freshness_ts", .str (wire.dumpDatetime item.freshnessTs)),
    ("fixture_manifest_version", .str item.fixtureManifestVersion),
    ("tool", .str item.tool.value)] ++ wire.dumpFacts item.facts

def modelDump (item : Evidence) : Json := .obj (wire.dumpMembers item)

/-! ## Validation -/

/-- The fields of the class that the discriminator names. -/
def readFacts (payload : Json) (tool : String) : Option EvidenceFacts :=
  match tool with
  | "T1_inventory" => do
      some (.inventory (← textField payload "sku_id") (← textField payload "store_id")
        (← numberField payload "on_hand") (← numberField payload "reserved")
        (← numberField payload "on_order") (← wire.datetimeField payload "updated_at"))
  | "T2_sales_demand" => do
      some (.demand (← textField payload "sku_id") (← textField payload "store_id")
        (← numberField payload "units_sold") (← numberField payload "average_daily_units")
        (← textField payload "demand_signal") (← wire.datetimeField payload "updated_at"))
  | "T3_supplier" => do
      some (.supplier (← textField payload "sku_id") (← textField payload "supplier_id")
        (← numberField payload "open_order_quantity")
        (← wire.datetimeField payload "expected_receipt_at")
        (← numberField payload "historical_lead_time_days") (← textField payload "status")
        (← wire.datetimeField payload "updated_at"))
  | _ => none

/-- The fields before their constraints are checked. -/
def readItem (payload : Json) : Option Evidence := do
  some
    { evidenceId := ← textField payload "evidence_id"
      sourceRef := ← textField payload "source_ref"
      queryHash := ← textField payload "query_hash"
      contentHash := ← textField payload "content_hash"
      retrievedAt := ← wire.datetimeField payload "retrieved_at"
      freshnessTs := ← wire.datetimeField payload "freshness_ts"
      fixtureManifestVersion := ← textField payload "fixture_manifest_version"
      facts := ← wire.readFacts payload (← textField payload "tool") }

/-- The literals, the patterns and bounds, and `extra="forbid"`. -/
def admits (payload : Json) (item : Evidence) : Bool :=
  textField payload "tool_schema_version" == some "v1" &&
    textField payload "source_type" == some "postgres_fixture" &&
    (keysOf payload).all (fun key => key ∈ baseFields ++ factFields item.tool) &&
    item.facts.floats.all nonnegFloat && item.texts.all Prod.snd

/-- `EVIDENCE_ADAPTER.validate_python` -/
def modelValidate (payload : Json) : Option Evidence := do
  let item ← wire.readItem payload
  if admits payload item then some item else none

end JsonbWire

/-! ## The round trip -/

section RoundTrip

variable {wire : JsonbWire} {item : Evidence}

theorem dumpMembers_keys (item : Evidence) : (wire.dumpMembers item).map Prod.fst =
    baseFields ++ factFields item.tool := by
  obtain ⟨_, _, _, _, _, _, _, facts⟩ := item
  cases facts <;> rfl

theorem fields_nodup (tool : ToolName) : (baseFields ++ factFields tool).Nodup := by
  cases tool <;> decide

/-- A text or a finite number. -/
inductive Plain : Json → Prop where
  | text (text : String) : Plain (.str text)
  | number (value : ℚ) : Plain (.float (.finite value))

theorem plain_of_finite {value : PyFloat} (finite : Json.finiteFloat value = true) :
    Plain (.float value) := by
  cases value with
  | finite exact => exact .number exact
  | posInf => cases finite
  | negInf => cases finite
  | nan => cases finite

theorem plain_dumpMembers (finite : item.facts.floats.all Json.finiteFloat = true) :
    ∀ member ∈ wire.dumpMembers item, Plain member.2 := by
  obtain ⟨evidenceId, sourceRef, queryHash, contentHash, retrievedAt, freshnessTs, version,
    facts⟩ := item
  simp only [List.all_eq_true] at finite
  have number : ∀ value ∈ facts.floats, Plain (.float value) :=
    fun value member => plain_of_finite (finite value member)
  cases facts <;>
    simpa [JsonbWire.dumpMembers, JsonbWire.dumpFacts, Plain.text, EvidenceFacts.floats]
      using number

theorem member?_mem {members : List (String × Json)} {key : String} {value : Json}
    (found : (Json.obj members).member? key = some value) : ∃ name, (name, value) ∈ members := by
  obtain ⟨member, located, rfl⟩ := Option.map_eq_some_iff.mp found
  exact ⟨member.1, List.mem_of_find?_eq_some located⟩

section Stored

variable {members stored : List (String × Json)}

/-- The column gives back the texts and the numbers of an object. -/
theorem fields_stored (plain : ∀ member ∈ members, Plain member.2)
    (kept : ∀ key, (Json.obj stored).member? key =
      ((Json.obj members).member? key).map wire.store) :
    textField (.obj stored) = textField (.obj members) ∧
      numberField (.obj stored) = numberField (.obj members) := by
  have value : ∀ value, Plain value → strItem (wire.store value) = strItem value ∧
      readNumber (wire.store value) = readNumber value := by
    intro value plain
    cases plain with
    | text text => exact ⟨by rw [wire.store_str], by rw [wire.store_str]⟩
    | number exact_ =>
        have number := wire.store_float exact_
        refine ⟨?_, number⟩
        cases stored : wire.store (.float (.finite exact_)) with
        | str text => simp [stored, readNumber] at number
        | _ => rfl
  constructor
  · funext key
    simp only [textField, kept]
    cases found : (Json.obj members).member? key with
    | none => rfl
    | some member =>
        obtain ⟨name, there⟩ := member?_mem found
        exact (value member (plain _ there)).1
  · funext key
    simp only [numberField, kept]
    cases found : (Json.obj members).member? key with
    | none => rfl
    | some member =>
        obtain ⟨name, there⟩ := member?_mem found
        exact (value member (plain _ there)).2

end Stored

/-- The dump of an item has all the fields that are read. -/
theorem readItem_dump (item : Evidence) : wire.readItem (wire.modelDump item) = some item := by
  obtain ⟨evidenceId, sourceRef, queryHash, contentHash, retrievedAt, freshnessTs, version,
    facts⟩ := item
  cases facts <;>
    simp [JsonbWire.readItem, JsonbWire.readFacts, JsonbWire.modelDump, JsonbWire.dumpMembers,
      JsonbWire.dumpFacts, JsonbWire.datetimeField, textField, numberField, Json.member?, strItem,
      readNumber, Evidence.tool, EvidenceFacts.tool, ToolName.value, wire.readDatetime_dump]

/-- An admitted item with finite numbers reads back as it was stored. -/
theorem modelValidate_store (finite : item.facts.floats.all Json.finiteFloat = true)
    (admitted : item.facts.floats.all nonnegFloat = true ∧ item.texts.all Prod.snd = true) :
    wire.modelValidate (wire.store (wire.modelDump item)) = some item := by
  have keys : (wire.dumpMembers item).map Prod.fst = baseFields ++ factFields item.tool :=
    dumpMembers_keys item
  obtain ⟨stored, same, sameKeys, kept⟩ :=
    wire.store_obj (wire.dumpMembers item) (keys ▸ fields_nodup item.tool)
  obtain ⟨texts, numbers⟩ := fields_stored (plain_dumpMembers finite) kept
  have read : wire.readItem (.obj stored) = some item := by
    refine Eq.trans ?_ (@readItem_dump wire item)
    simp only [JsonbWire.readItem, JsonbWire.readFacts, JsonbWire.datetimeField, texts, numbers,
      JsonbWire.modelDump]
  have known : (keysOf (.obj stored)).all (fun key => key ∈ baseFields ++ factFields item.tool) =
      true := by
    rw [List.all_eq_true]
    intro key member
    rw [keys] at sameKeys
    exact decide_eq_true (sameKeys.mem_iff.mp member)
  have literals : textField (.obj stored) "tool_schema_version" = some "v1" ∧
      textField (.obj stored) "source_type" = some "postgres_fixture" := by
    rw [texts]
    exact ⟨rfl, rfl⟩
  have passes : JsonbWire.admits (.obj stored) item = true := by
    simp only [JsonbWire.admits, Bool.and_eq_true, beq_iff_eq]
    exact ⟨⟨⟨literals, known⟩, admitted.1⟩, admitted.2⟩
  rw [JsonbWire.modelDump, same, JsonbWire.modelValidate, read]
  exact if_pos passes

/-- The column takes the dump when it takes the numbers and the texts of the item. -/
theorem storable_modelDump (item : Evidence) : (wire.modelDump item).storable =
    (item.facts.floats.all Json.finiteFloat &&
      item.texts.all (fun text => storableText text.1)) := by
  have fixed : ∀ text ∈ ["v1", "postgres_fixture", "T1_inventory", "T2_sales_demand",
      "T3_supplier"] ++ baseFields ++ factFields .inventory ++ factFields .salesDemand ++
        factFields .supplier, storableText text = true := by decide
  simp only [baseFields, factFields, List.cons_append, List.nil_append,
    List.forall_mem_cons] at fixed
  obtain ⟨evidenceId, sourceRef, queryHash, contentHash, retrievedAt, freshnessTs, version,
    facts⟩ := item
  cases facts <;>
    simp [JsonbWire.modelDump, JsonbWire.dumpMembers, JsonbWire.dumpFacts, Json.storable,
      Json.storableMembers, EvidenceFacts.floats, EvidenceFacts.texts, Evidence.texts,
      Evidence.tool, EvidenceFacts.tool, ToolName.value, wire.storable_dumpDatetime, fixed] <;>
    grind

/-- `Field(ge=0)` and the dump of pydantic, over a column and `float`. -/
def JsonbWire.models (wire : JsonbWire) (float : ℚ → PyFloat)
    (float_nonneg : ∀ value rounded, 0 ≤ value → float value = .finite rounded → 0 ≤ rounded) :
    EvidenceModels where
  modelDump := wire.modelDump
  validate := fun payload =>
    match wire.modelValidate (wire.store payload) with
    | some item => .ok item
    | none => .error "validation error"
  float := float
  ge0 := nonnegFloat
  float_nonneg := float_nonneg
  ge0_finite := fun _ => rfl
  storable_modelDump := storable_modelDump
  validate_modelDump := by
    intro item admitted stored
    rw [storable_modelDump, Bool.and_eq_true] at stored
    rw [modelValidate_store stored.1 (Bool.and_eq_true _ _ ▸ admitted)]

end RoundTrip

end StockoutOps.Investigation
