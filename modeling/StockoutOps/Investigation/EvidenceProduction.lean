import StockoutOps.Investigation.JsonbColumn

/-!
Contract: the items that the evidence tools return.

Owns: what a tool has put into its item, that the items of the three tools
survive their column, and that `validate_bundle` accepts them exactly when they
are fresh.

Does not own: the items of other producers.
-/

namespace StockoutOps.Investigation

open StockoutOps.Sql

/-- The key columns of the facts are the arguments of the query. -/
def EvidenceFacts.KeyedBy (query : EvidenceQuery) : EvidenceFacts → Prop
  | .inventory skuId storeId .. | .demand skuId storeId .. =>
      skuId = query.skuId ∧ storeId = query.storeId
  | .supplier skuId supplierId .. => skuId = query.skuId ∧ supplierId = query.supplierId

/-- PostgreSQL finds a row by texts that it can store. -/
structure Fixtures.Stored (fixtures : Fixtures) : Prop where
  inventory : ∀ tenantId skuId storeId row, fixtures.inventory tenantId skuId storeId = some row →
    storableText tenantId = true ∧ storableText skuId = true ∧ storableText storeId = true
  demand : ∀ tenantId skuId storeId windowStart windowEnd row,
    fixtures.demand tenantId skuId storeId windowStart windowEnd = some row →
      storableText tenantId = true ∧ storableText skuId = true ∧ storableText storeId = true
  supplier : ∀ tenantId skuId supplierId row,
    fixtures.supplier tenantId skuId supplierId = some row →
    storableText tenantId = true ∧ storableText skuId = true ∧ storableText supplierId = true

/-- What a tool has put into its item. -/
structure Produced (tools : EvidenceTools) (query : EvidenceQuery) (tool : ToolName)
    (facts : EvidenceFacts) : Prop where
  tool : facts.tool = tool
  keys : facts.KeyedBy query
  aware : facts.updatedAt.aware = true
  texts : tools.fixtures.Stored → storableText query.tenantId = true ∧
    facts.texts.all (fun text => storableText text.1) = true

section Production

variable {tools : EvidenceTools} {query : EvidenceQuery} {tool : ToolName} {item : Evidence}

theorem eq_of_construct {models : EvidenceModels} {built : Evidence}
    (constructed : models.construct built = .ok item) : item = built := by
  unfold EvidenceModels.construct at constructed
  split at constructed
  · exact (Except.ok.inj constructed).symm
  · cases constructed

theorem aware_of_load {value : Timestamptz} {loaded : PyDatetime}
    (load : value.load = .ok loaded) : loaded.aware = true := by
  obtain ⟨-, other, same, aware⟩ | ⟨-, error, refused⟩ := EvidenceTools.load_cases value
  · rw [load] at same
    exact Except.ok.inj same ▸ aware
  · rw [load] at refused
    cases refused

/-- A tool that returns labels the facts of its row. -/
theorem answer_produced (answered : tools.answer query tool = .ok item) :
    ∃ facts, item = tools.item query facts facts.updatedAt ∧ Produced tools query tool facts := by
  cases tool with
  | inventory =>
      simp only [EvidenceTools.answer, EvidenceTools.inventory] at answered
      split at answered
      · cases answered
      · rename_i row found
        obtain ⟨updatedAt, load, built⟩ := bind_eq_ok.mp answered
        refine ⟨_, eq_of_construct built, rfl, ⟨rfl, rfl⟩, aware_of_load load, fun stored => ?_⟩
        obtain ⟨tenant, sku, store⟩ := stored.inventory _ _ _ _ found
        exact ⟨tenant, by simp [EvidenceFacts.texts, sku, store]⟩
  | salesDemand =>
      simp only [EvidenceTools.answer, EvidenceTools.demand] at answered
      split at answered
      · cases answered
      · rename_i row found
        obtain ⟨updatedAt, load, built⟩ := bind_eq_ok.mp answered
        refine ⟨_, eq_of_construct built, rfl, ⟨rfl, rfl⟩, aware_of_load load, fun stored => ?_⟩
        obtain ⟨tenant, sku, store⟩ := stored.demand _ _ _ _ _ _ found
        exact ⟨tenant, by simp [EvidenceFacts.texts, sku, store, row.text]⟩
  | supplier =>
      simp only [EvidenceTools.answer, EvidenceTools.supplier] at answered
      split at answered
      · cases answered
      · rename_i row found
        obtain ⟨expectedReceiptAt, -, rest⟩ := bind_eq_ok.mp answered
        obtain ⟨updatedAt, load, built⟩ := bind_eq_ok.mp rest
        refine ⟨_, eq_of_construct built, rfl, ⟨rfl, rfl⟩, aware_of_load load, fun stored => ?_⟩
        obtain ⟨tenant, sku, supplier⟩ := stored.supplier _ _ _ _ found
        exact ⟨tenant, by simp [EvidenceFacts.texts, sku, supplier, row.text]⟩
  | reasoning => cases answered

/-- The labels of a produced item are those of its facts. -/
theorem provenanced_of_answer (answered : tools.answer query tool = .ok item) :
    item.Provenanced tools.provenance ∧ item.tool = tool ∧
      item.freshnessTs = item.facts.updatedAt := by
  obtain ⟨facts, rfl, produced⟩ := answer_produced answered
  exact ⟨⟨rfl, produced.aware, rfl, rfl⟩, produced.tool, rfl⟩

/-! ## The item of a row -/

theorem inventory_of_row {row : InventoryRow} {updatedAt : PyDatetime}
    (found : tools.fixtures.inventory query.tenantId query.skuId query.storeId = some row)
    (load : row.updatedAt.load = .ok updatedAt)
    (accepted : tools.models.accepts (tools.item query
      (.inventory query.skuId query.storeId (tools.models.toFloat row.onHand)
        (tools.models.toFloat row.reserved) (tools.models.toFloat row.onOrder) updatedAt)
      updatedAt) = true) :
    tools.inventory query = .ok (tools.item query
      (.inventory query.skuId query.storeId (tools.models.toFloat row.onHand)
        (tools.models.toFloat row.reserved) (tools.models.toFloat row.onOrder) updatedAt)
      updatedAt) := by
  simp only [EvidenceTools.inventory, found, load, bind, Except.bind]
  exact tools.models.construct_of_accepts accepted

theorem demand_of_row {row : DemandRow} {updatedAt : PyDatetime}
    (found : tools.fixtures.demand query.tenantId query.skuId query.storeId query.windowStart
      query.windowEnd = some row)
    (load : row.updatedAt.load = .ok updatedAt)
    (accepted : tools.models.accepts (tools.item query
      (.demand query.skuId query.storeId (tools.models.toFloat row.unitsSold)
        (tools.models.toFloat row.averageDailyUnits) row.demandSignal updatedAt)
      updatedAt) = true) :
    tools.demand query = .ok (tools.item query
      (.demand query.skuId query.storeId (tools.models.toFloat row.unitsSold)
        (tools.models.toFloat row.averageDailyUnits) row.demandSignal updatedAt)
      updatedAt) := by
  simp only [EvidenceTools.demand, found, load, bind, Except.bind]
  exact tools.models.construct_of_accepts accepted

theorem supplier_of_row {row : SupplierRow} {expectedReceiptAt updatedAt : PyDatetime}
    (found : tools.fixtures.supplier query.tenantId query.skuId query.supplierId = some row)
    (expected : row.expectedReceiptAt.load = .ok expectedReceiptAt)
    (load : row.updatedAt.load = .ok updatedAt)
    (accepted : tools.models.accepts (tools.item query
      (.supplier query.skuId query.supplierId (tools.models.toFloat row.openOrderQuantity)
        expectedReceiptAt (tools.models.toFloat row.historicalLeadTimeDays) row.status updatedAt)
      updatedAt) = true) :
    tools.supplier query = .ok (tools.item query
      (.supplier query.skuId query.supplierId (tools.models.toFloat row.openOrderQuantity)
        expectedReceiptAt (tools.models.toFloat row.historicalLeadTimeDays) row.status updatedAt)
      updatedAt) := by
  simp only [EvidenceTools.supplier, found, expected, load, bind, Except.bind]
  exact tools.models.construct_of_accepts accepted

/-! ## Storage -/

/-- The configuration's texts can be stored. -/
structure EvidenceTools.Plain (tools : EvidenceTools) : Prop where
  rows : tools.fixtures.Stored
  manifestVersion : storableText tools.manifestVersion = true
  isoformat : ∀ instant, storableText (tools.provenance.isoformat instant) = true

theorem storableText_expectedEvidenceId (provenance : Provenance) (sourceRef contentHash : String) :
    storableText (provenance.expectedEvidenceId sourceRef contentHash) = true := by
  rw [Provenance.expectedEvidenceId, storableText_append,
    storableText_of_isHex64 (provenance.sha256Text_hex _)]
  decide

/-- The texts of a produced item can be stored. -/
theorem texts_of_answer (plain : tools.Plain) (answered : tools.answer query tool = .ok item) :
    item.texts.all (fun text => storableText text.1) = true := by
  obtain ⟨facts, rfl, produced⟩ := answer_produced answered
  obtain ⟨tenant, texts⟩ := produced.texts plain.rows
  have content : ∀ value, storableText (tools.provenance.canonicalHash value) = true :=
    fun value => storableText_of_isHex64 (tools.provenance.canonicalHash_hex value)
  have colon : storableText ":" = true := by decide
  have keys := produced.keys
  have source : storableText (query.sourceRef tools.provenance facts.tool) = true := by
    cases facts with
    | inventory =>
        obtain ⟨rfl, rfl⟩ := keys
        simp only [EvidenceFacts.texts, List.all_cons, List.all_nil, Bool.and_true,
          Bool.and_eq_true] at texts
        simp only [EvidenceQuery.sourceRef, EvidenceFacts.tool, storableText_append, tenant, texts,
          colon]
        decide
    | demand =>
        obtain ⟨rfl, rfl⟩ := keys
        simp only [EvidenceFacts.texts, List.all_cons, List.all_nil, Bool.and_true,
          Bool.and_eq_true] at texts
        simp only [EvidenceQuery.sourceRef, EvidenceFacts.tool, storableText_append, tenant, texts,
          colon, plain.isoformat]
        decide
    | supplier =>
        obtain ⟨rfl, rfl⟩ := keys
        simp only [EvidenceFacts.texts, List.all_cons, List.all_nil, Bool.and_true,
          Bool.and_eq_true] at texts
        simp only [EvidenceQuery.sourceRef, EvidenceFacts.tool, storableText_append, tenant, texts,
          colon]
        decide
  simp only [Evidence.texts, EvidenceTools.item, List.all_append, List.all_cons, List.all_nil,
    Bool.and_true, Bool.and_eq_true]
  exact ⟨⟨storableText_expectedEvidenceId _ _ _, source, content _, content _,
    plain.manifestVersion⟩, texts⟩

/-- The hashes of an item have the patterns that its model asks for. -/
theorem accepts_item {facts : EvidenceFacts} {freshnessTs : PyDatetime}
    (floats : facts.floats.all tools.models.ge0 = true)
    (source : lengthBetween 1 300 (query.sourceRef tools.provenance facts.tool) = true)
    (version : lengthBetween 1 80 tools.manifestVersion = true)
    (texts : facts.texts.all Prod.snd = true) :
    tools.models.accepts (tools.item query facts freshnessTs) = true := by
  have identified : isEvidenceId (tools.item query facts freshnessTs).evidenceId = true :=
    isEvidenceId_of_isHex64 (tools.provenance.sha256Text_hex _)
  have query' : isHex64 (tools.item query facts freshnessTs).queryHash = true :=
    tools.provenance.canonicalHash_hex _
  have content : isHex64 (tools.item query facts freshnessTs).contentHash = true :=
    tools.provenance.canonicalHash_hex _
  simp only [EvidenceModels.accepts, Evidence.texts, List.all_append, List.all_cons, List.all_nil,
    Bool.and_true, Bool.and_eq_true]
  exact ⟨floats, ⟨identified, source, query', content, version⟩, texts⟩

/-- The dump of an item is stored, and the stored payload parses to the item. -/
def ReadsBack (models : EvidenceModels) (item : Evidence) : Prop :=
  (models.modelDump item).storable = true ∧
    models.parseEvidence (some (models.modelDump item)) = .ok item

theorem readsBack_of_answer (plain : tools.Plain) (answered : tools.answer query tool = .ok item)
    (finite : item.facts.floats.all Json.finiteFloat = true) : ReadsBack tools.models item := by
  have stored : (tools.models.modelDump item).storable = true := by
    rw [tools.models.storable_modelDump, finite, texts_of_answer plain answered]
    rfl
  refine ⟨stored, ?_⟩
  have read := tools.models.validate_modelDump item
    (EvidenceTools.accepts_of_answer answered) stored
  simp only [EvidenceCodec.parseEvidence, Option.getD_some, read]

end Production

/-- The evidence of the three tools reads back as it was stored, and validates
exactly when it is fresh. -/
theorem tool_evidence_valid_iff_fresh (wire : JsonbWire) (float : ℚ → PyFloat)
    (float_nonneg : ∀ value rounded, 0 ≤ value → float value = .finite rounded → 0 ≤ rounded)
    (provenance : Provenance) (fixtures : Fixtures) (manifestVersion : String)
    (query : EvidenceQuery) (inventory demand supplier : Evidence)
    (plain : EvidenceTools.Plain
      ⟨provenance, wire.models float float_nonneg, fixtures, manifestVersion⟩)
    (inventoryAnswered : EvidenceTools.inventory
      ⟨provenance, wire.models float float_nonneg, fixtures, manifestVersion⟩ query = .ok inventory)
    (demandAnswered : EvidenceTools.demand
      ⟨provenance, wire.models float float_nonneg, fixtures, manifestVersion⟩ query = .ok demand)
    (supplierAnswered : EvidenceTools.supplier
      ⟨provenance, wire.models float float_nonneg, fixtures, manifestVersion⟩ query = .ok supplier)
    (finite : ∀ item ∈ [inventory, demand, supplier],
      item.facts.floats.all Json.finiteFloat = true) :
    (∀ item ∈ [inventory, demand, supplier],
      ReadsBack (wire.models float float_nonneg) item) ∧
    (validateBundle provenance [inventory, demand, supplier] query.asOfTs = .ok () ↔
      WithinPolicy query.asOfTs .inventory inventory.facts.updatedAt.instant ∧
        WithinPolicy query.asOfTs .salesDemand demand.facts.updatedAt.instant ∧
          WithinPolicy query.asOfTs .supplier supplier.facts.updatedAt.instant) ∧
    (validateBundle provenance [inventory, demand, supplier] query.asOfTs = .ok () ∨
      ∃ tool, validateBundle provenance [inventory, demand, supplier] query.asOfTs =
        .error (staleEvidence tool)) := by
  let tools : EvidenceTools :=
    ⟨provenance, wire.models float float_nonneg, fixtures, manifestVersion⟩
  have first : tools.answer query .inventory = .ok inventory := inventoryAnswered
  have second : tools.answer query .salesDemand = .ok demand := demandAnswered
  have third : tools.answer query .supplier = .ok supplier := supplierAnswered
  obtain ⟨firstValid, firstTool, firstDate⟩ := provenanced_of_answer first
  obtain ⟨secondValid, secondTool, secondDate⟩ := provenanced_of_answer second
  obtain ⟨thirdValid, thirdTool, thirdDate⟩ := provenanced_of_answer third
  have complete : OnePerTool [inventory, demand, supplier] := by
    simp only [OnePerTool, List.map_cons, List.map_nil, firstTool, secondTool, thirdTool]
    exact .refl _
  have provenanced : ∀ item ∈ [inventory, demand, supplier], item.Provenanced provenance := by
    simp only [List.forall_mem_cons, List.not_mem_nil, false_implies, implies_true, and_true]
    exact ⟨firstValid, secondValid, thirdValid⟩
  refine ⟨?_, ?_, ?_⟩
  · simp only [List.forall_mem_cons, List.not_mem_nil, false_implies, implies_true,
      and_true] at finite ⊢
    exact ⟨readsBack_of_answer plain first finite.1, readsBack_of_answer plain second finite.2.1,
      readsBack_of_answer plain third finite.2.2⟩
  · rw [validateBundle_eq_ok]
    simp only [List.forall_mem_cons, List.not_mem_nil, false_implies, implies_true, and_true,
      firstTool, secondTool, thirdTool, firstDate, secondDate, thirdDate]
    constructor
    · rintro ⟨-, ⟨-, left⟩, ⟨-, middle⟩, -, right⟩
      exact ⟨left, middle, right⟩
    · rintro ⟨left, middle, right⟩
      exact ⟨complete, ⟨firstValid, left⟩, ⟨secondValid, middle⟩, thirdValid, right⟩
  · rcases validateBundle_of_provenanced complete provenanced with accepted | ⟨item, -, stale⟩
    · exact .inl accepted
    · exact .inr ⟨item.tool, stale⟩

/-! ### One day old -/

/-- The canonical texts and digests of the source on the second day of 1970. -/
def secondDayDigests : List (String × String) :=
  [ ("\x7b\"on_hand\":5.0,\"on_order\":0.0,\"reserved\":0.0,\"sku_id\":\"SKU-1\"," ++
        "\"store_id\":\"STORE-1\",\"updated_at\":\"1970-01-01T00:00:00Z\"\x7d",
      "8a7d03653c6f62a7b7b1c909152406ce441902c23d934e20de45d3b8f3817c04"),
    ("\x7b\"average_daily_units\":1.0,\"demand_signal\":\"steady\",\"sku_id\":\"SKU-1\"," ++
        "\"store_id\":\"STORE-1\",\"units_sold\":1.0,\"updated_at\":\"1970-01-01T00:00:00Z\"\x7d",
      "86a2bec8b920fb53dfa2eac289cd510d5cd35229f560f46f79e50406511dd731"),
    ("\x7b\"expected_receipt_at\":\"1970-01-01T00:00:00Z\",\"historical_lead_time_days\":2.0," ++
        "\"open_order_quantity\":0.0,\"sku_id\":\"SKU-1\",\"status\":\"open\"," ++
        "\"supplier_id\":\"SUP-1\",\"updated_at\":\"1970-01-01T00:00:00Z\"\x7d",
      "8354d5f710793d25cbffcb7a8ea5b45f825a1a7f5ffe8b3d493bd1767f691a1e"),
    ("\x7b\"as_of_ts\":\"1970-01-02T00:00:00Z\",\"sku_id\":\"SKU-1\",\"store_id\":\"STORE-1\"\x7d",
      "7fbfd0b7f127d44377a831e66c332b72518c4f6d0f95357d19cfedc75aec37c3"),
    ("\x7b\"as_of_ts\":\"1970-01-02T00:00:00Z\",\"sku_id\":\"SKU-1\",\"store_id\":\"STORE-1\"," ++
        "\"window_end\":\"1970-01-02T00:00:00Z\",\"window_start\":\"1970-01-01T00:00:00Z\"\x7d",
      "934aba1c231e0cf4fb6c663fafb52c79b64c1157094ebc759d40a188ac6295ed"),
    ("\x7b\"as_of_ts\":\"1970-01-02T00:00:00Z\",\"sku_id\":\"SKU-1\",\"supplier_id\":\"SUP-1\"\x7d",
      "cb9f2010f9051074b266065f4f65d333ee3058c05509eb6a5e6a952c26b9194b"),
    ("inventory:north:SKU-1:STORE-1:" ++
        "8a7d03653c6f62a7b7b1c909152406ce441902c23d934e20de45d3b8f3817c04",
      "8bac276c525700163d5a970cf37457b786c7a48f878b7db3b86521a810d213dd"),
    ("demand:north:SKU-1:STORE-1:1970-01-01T00:00:00+00:00:1970-01-02T00:00:00+00:00:" ++
        "86a2bec8b920fb53dfa2eac289cd510d5cd35229f560f46f79e50406511dd731",
      "409912e199266fdf045d93e565bb6cf7499c45dfcc0f7d4d1e0c4f47ebb5a1f1"),
    ("supplier:north:SKU-1:SUP-1:" ++
        "8354d5f710793d25cbffcb7a8ea5b45f825a1a7f5ffe8b3d493bd1767f691a1e",
      "639a892cce136f4b80403dca8eb802b607ab0d4a5dfcb3d0af101aad629c6c15") ]

def secondDayText (index : Nat) : String := (secondDayDigests.getD index ("", "")).1

def secondDayProvenance : Provenance where
  canonicalJson := fun value =>
    if (value.member? "on_hand").isSome then secondDayText 0
    else if (value.member? "demand_signal").isSome then secondDayText 1
    else if (value.member? "status").isSome then secondDayText 2
    else if (value.member? "window_start").isSome then secondDayText 4
    else if (value.member? "supplier_id").isSome then secondDayText 5
    else secondDayText 3
  sha256Text := fun text =>
    match secondDayDigests.find? (fun entry => entry.1 == text) with
    | some entry => entry.2
    | none => "ad7c385b7b125809dbaf20aec06f738387cbe11485352d94a0ee90b8cdfcd0ef"
  isoUtc := fun value =>
    if value.instant = 0 then "1970-01-01T00:00:00Z" else "1970-01-02T00:00:00Z"
  isoformat := fun instant =>
    if instant = 0 then "1970-01-01T00:00:00+00:00" else "1970-01-02T00:00:00+00:00"
  sha256Text_hex := by
    have hex : ∀ entry ∈ secondDayDigests, isHex64 entry.2 = true := by decide +kernel
    intro text
    split
    · rename_i entry found
      exact hex entry (List.mem_of_find?_eq_some found)
    · decide +kernel

def secondDayQuery : EvidenceQuery where
  tenantId := "north"
  skuId := "SKU-1"
  storeId := "STORE-1"
  supplierId := "SUP-1"
  asOfTs := 86400 * second
  windowStart := 0
  windowEnd := 86400 * second

def secondDayFixtures : Fixtures where
  inventory := fun tenantId skuId storeId =>
    if tenantId = "north" ∧ skuId = "SKU-1" ∧ storeId = "STORE-1" then
      some ⟨.finite 5, .finite 0, .finite 0, .at 0, by decide⟩
    else none
  demand := fun tenantId skuId storeId _ _ =>
    if tenantId = "north" ∧ skuId = "SKU-1" ∧ storeId = "STORE-1" then
      some ⟨.finite 1, .finite 1, "steady", .at 0, by decide, by decide⟩
    else none
  supplier := fun tenantId skuId supplierId =>
    if tenantId = "north" ∧ skuId = "SKU-1" ∧ supplierId = "SUP-1" then
      some ⟨.finite 0, .at 0, .finite 2, "open", .at 0, by decide, by decide⟩
    else none

theorem exact_nonneg (value rounded : ℚ) (nonneg : 0 ≤ value)
    (same : PyFloat.finite value = .finite rounded) : 0 ≤ rounded :=
  PyFloat.finite.inj same ▸ nonneg

def secondDayTools : EvidenceTools :=
  ⟨secondDayProvenance, jsonbWire.models .finite exact_nonneg, secondDayFixtures, "v1"⟩

def secondDayInventory : EvidenceFacts :=
  .inventory "SKU-1" "STORE-1" (.finite 5) (.finite 0) (.finite 0) ⟨0, true⟩

def secondDayDemand : EvidenceFacts :=
  .demand "SKU-1" "STORE-1" (.finite 1) (.finite 1) "steady" ⟨0, true⟩

def secondDaySupplier : EvidenceFacts :=
  .supplier "SKU-1" "SUP-1" (.finite 0) ⟨0, true⟩ (.finite 2) "open" ⟨0, true⟩

def secondDayItem (facts : EvidenceFacts) : Evidence :=
  secondDayTools.item secondDayQuery facts ⟨0, true⟩

theorem secondDay_plain : secondDayTools.Plain where
  rows := by
    constructor
    · intro tenantId skuId storeId row found
      dsimp only [secondDayTools, secondDayFixtures] at found
      split at found
      · rename_i key
        obtain ⟨rfl, rfl, rfl⟩ := key
        decide
      · cases found
    · intro tenantId skuId storeId windowStart windowEnd row found
      dsimp only [secondDayTools, secondDayFixtures] at found
      split at found
      · rename_i key
        obtain ⟨rfl, rfl, rfl⟩ := key
        decide
      · cases found
    · intro tenantId skuId supplierId row found
      dsimp only [secondDayTools, secondDayFixtures] at found
      split at found
      · rename_i key
        obtain ⟨rfl, rfl, rfl⟩ := key
        decide
      · cases found
  manifestVersion := by decide
  isoformat := by
    intro instant
    dsimp only [secondDayTools, secondDayProvenance]
    split <;> decide

/-- Evidence of the day before is fresh for all three tools. -/
theorem secondDay_evidence_valid :
    validateBundle secondDayProvenance
      [secondDayItem secondDayInventory, secondDayItem secondDayDemand,
        secondDayItem secondDaySupplier] secondDayQuery.asOfTs = .ok () := by
  have inventory : secondDayTools.models.accepts (secondDayItem secondDayInventory) = true :=
    accepts_item (by decide) (by decide) (by decide) (by decide)
  have demand : secondDayTools.models.accepts (secondDayItem secondDayDemand) = true :=
    accepts_item (by decide) (by decide +kernel) (by decide) (by decide)
  have supplier : secondDayTools.models.accepts (secondDayItem secondDaySupplier) = true :=
    accepts_item (by decide) (by decide) (by decide) (by decide)
  exact (tool_evidence_valid_iff_fresh jsonbWire .finite exact_nonneg secondDayProvenance
    secondDayFixtures "v1" secondDayQuery _ _ _ secondDay_plain
    (inventory_of_row rfl rfl inventory) (demand_of_row rfl rfl demand)
    (supplier_of_row rfl rfl rfl supplier) (by decide)).2.1.mpr (by decide)

end StockoutOps.Investigation
