import StockoutOps.Investigation.Evidence
import StockoutOps.Investigation.Requests

/-!
Contract: the fixture tables and the three evidence tools that read them.

Owns: the rows that the CHECKs of the fixture tables admit, `EvidenceTools`
with the field constraints of the evidence models, and the exact rows of which
a tool makes evidence that can be stored.

Does not own: when a tool is called, and what becomes of its exception.

A row is found by its primary key, so the key columns of a fetched row are the
arguments of the query.
-/

namespace StockoutOps.Investigation

open StockoutOps.Sql

/-! ## Column types -/

/-- A value of a `numeric` column. -/
inductive Numeric where
  | finite (value : ℚ)
  | posInf
  | negInf
  | nan
deriving DecidableEq, Repr

/-- `value >= 0`; a NaN is the greatest `numeric`. -/
def Numeric.nonneg : Numeric → Bool
  | .finite value => 0 ≤ value
  | .posInf => true
  | .negInf => false
  | .nan => true

/-- A value of a `timestamptz` column. -/
inductive Timestamptz where
  | at (instant : Timestamp)
  | posInf
  | negInf
deriving DecidableEq, Repr

def Timestamptz.readable : Timestamptz → Bool
  | .at instant => readableInstant instant
  | .posInf => false
  | .negInf => false

/-- Fetching the column: Python has no infinite `datetime`. -/
def Timestamptz.load : Timestamptz → Except Failure PyDatetime
  | .at instant =>
      if readableInstant instant then .ok ⟨instant, true⟩
      else .error (.database (.dataError "timestamp out of range"))
  | .posInf => .error (.database (.dataError "timestamp too large (after year 10K)"))
  | .negInf => .error (.database (.dataError "timestamp too small (before year 1)"))

/-! ## Rows -/

/-- `inventory_fixture` -/
structure InventoryRow where
  onHand : Numeric
  reserved : Numeric
  onOrder : Numeric
  updatedAt : Timestamptz
  admitted : onHand.nonneg && reserved.nonneg && onOrder.nonneg

/-- `demand_fixture` -/
structure DemandRow where
  unitsSold : Numeric
  averageDailyUnits : Numeric
  demandSignal : String
  updatedAt : Timestamptz
  admitted : unitsSold.nonneg && averageDailyUnits.nonneg
  text : storableText demandSignal = true

/-- `supplier_fixture` -/
structure SupplierRow where
  openOrderQuantity : Numeric
  expectedReceiptAt : Timestamptz
  historicalLeadTimeDays : Numeric
  status : String
  updatedAt : Timestamptz
  admitted : openOrderQuantity.nonneg && historicalLeadTimeDays.nonneg
  text : storableText status = true

/-- The contents of the tables by primary key. -/
structure Fixtures where
  inventory : (tenantId skuId storeId : String) → Option InventoryRow
  demand : (tenantId skuId storeId : String) → (windowStart windowEnd : Timestamp) →
    Option DemandRow
  supplier : (tenantId skuId supplierId : String) → Option SupplierRow

/-! ## Evidence models -/

/-- The floats of the facts; each of them is declared `Field(ge=0)`. -/
def EvidenceFacts.floats : EvidenceFacts → List PyFloat
  | .inventory _ _ onHand reserved onOrder _ => [onHand, reserved, onOrder]
  | .demand _ _ unitsSold averageDailyUnits _ _ => [unitsSold, averageDailyUnits]
  | .supplier _ _ openOrderQuantity _ historicalLeadTimeDays _ _ =>
      [openOrderQuantity, historicalLeadTimeDays]

/-- The texts of the facts with their length bounds. -/
def EvidenceFacts.texts : EvidenceFacts → List (String × Bool)
  | .inventory skuId storeId .. => [(skuId, notEmpty skuId), (storeId, notEmpty storeId)]
  | .demand skuId storeId _ _ demandSignal _ =>
      [(skuId, notEmpty skuId), (storeId, notEmpty storeId),
        (demandSignal, lengthBetween 1 80 demandSignal)]
  | .supplier skuId supplierId _ _ _ status _ =>
      [(skuId, notEmpty skuId), (supplierId, notEmpty supplierId),
        (status, lengthBetween 1 80 status)]

/-- `^ev_[0-9a-f]{64}$` -/
def isEvidenceId (value : String) : Bool :=
  value.toList.take 3 == ['e', 'v', '_'] && isHex64 (String.ofList (value.toList.drop 3))

/-- The texts of an evidence item with their patterns and length bounds. -/
def Evidence.texts (evidence : Evidence) : List (String × Bool) :=
  [(evidence.evidenceId, isEvidenceId evidence.evidenceId),
    (evidence.sourceRef, lengthBetween 1 300 evidence.sourceRef),
    (evidence.queryHash, isHex64 evidence.queryHash),
    (evidence.contentHash, isHex64 evidence.contentHash),
    (evidence.fixtureManifestVersion, lengthBetween 1 80 evidence.fixtureManifestVersion)] ++
    evidence.facts.texts

/-- What pydantic and Python's `float` do with evidence: the conversion of a
finite `numeric`, the constraint `ge=0`, and the JSON dump with its validation. -/
structure EvidenceModels extends EvidenceCodec where
  float : ℚ → PyFloat
  ge0 : PyFloat → Bool
  float_nonneg : ∀ value rounded, 0 ≤ value → float value = .finite rounded → 0 ≤ rounded
  ge0_finite : ∀ value, ge0 (.finite value) = decide (0 ≤ value)
  /-- The dump holds the floats and the texts of the item, and texts of its own
  that a `jsonb` stores. -/
  storable_modelDump : ∀ evidence, (modelDump evidence).storable =
    (evidence.facts.floats.all Json.finiteFloat &&
      evidence.texts.all (fun text => storableText text.1))
  /-- A stored item is read back as it was. -/
  validate_modelDump : ∀ evidence : Evidence,
    (evidence.facts.floats.all ge0 && evidence.texts.all Prod.snd) = true →
      (modelDump evidence).storable = true → validate (modelDump evidence) = .ok evidence

namespace EvidenceModels

/-- `float(row[...])` -/
def toFloat (models : EvidenceModels) : Numeric → PyFloat
  | .finite value => models.float value
  | .posInf => .posInf
  | .negInf => .negInf
  | .nan => .nan

/-- The field constraints of an evidence class. -/
def accepts (models : EvidenceModels) (evidence : Evidence) : Bool :=
  evidence.facts.floats.all models.ge0 && evidence.texts.all Prod.snd

/-- `InventoryEvidence(...)` and its siblings; a `ValidationError` of pydantic is
a `ValueError`. -/
def construct (models : EvidenceModels) (evidence : Evidence) : Except Failure Evidence :=
  if models.accepts evidence then .ok evidence else .error (.valueError "validation error")

end EvidenceModels

/-! ## Tools -/

structure EvidenceTools where
  provenance : Provenance
  models : EvidenceModels
  fixtures : Fixtures
  manifestVersion : String

/-- The arguments of the three tools, as a run holds them. -/
structure EvidenceQuery where
  tenantId : String
  skuId : String
  storeId : String
  supplierId : String
  asOfTs : Timestamp
  windowStart : Timestamp
  windowEnd : Timestamp

namespace EvidenceQuery

/-- The `query` dictionary of a tool. -/
def toJson (provenance : Provenance) (query : EvidenceQuery) : ToolName → Json
  | .inventory =>
      .obj [("sku_id", .str query.skuId), ("store_id", .str query.storeId),
        ("as_of_ts", .str (provenance.isoUtc ⟨query.asOfTs, true⟩))]
  | .salesDemand =>
      .obj [("sku_id", .str query.skuId), ("store_id", .str query.storeId),
        ("window_start", .str (provenance.isoUtc ⟨query.windowStart, true⟩)),
        ("window_end", .str (provenance.isoUtc ⟨query.windowEnd, true⟩)),
        ("as_of_ts", .str (provenance.isoUtc ⟨query.asOfTs, true⟩))]
  | .supplier =>
      .obj [("sku_id", .str query.skuId), ("supplier_id", .str query.supplierId),
        ("as_of_ts", .str (provenance.isoUtc ⟨query.asOfTs, true⟩))]
  | .reasoning => .obj []

/-- The `source_ref` of a tool. -/
def sourceRef (provenance : Provenance) (query : EvidenceQuery) : ToolName → String
  | .inventory => "inventory:" ++ query.tenantId ++ ":" ++ query.skuId ++ ":" ++ query.storeId
  | .salesDemand =>
      "demand:" ++ query.tenantId ++ ":" ++ query.skuId ++ ":" ++ query.storeId ++ ":" ++
        provenance.isoformat query.windowStart ++ ":" ++ provenance.isoformat query.windowEnd
  | .supplier =>
      "supplier:" ++ query.tenantId ++ ":" ++ query.skuId ++ ":" ++ query.supplierId
  | .reasoning => ""

end EvidenceQuery

namespace EvidenceTools

variable (tools : EvidenceTools) (query : EvidenceQuery)

/-- The evidence of a tool before its validation: the facts with `provenance_fields`. -/
def item (facts : EvidenceFacts) (freshnessTs : PyDatetime) : Evidence :=
  let sourceRef := query.sourceRef tools.provenance facts.tool
  let contentHash := tools.provenance.canonicalHash (facts.toJson tools.provenance)
  { evidenceId := tools.provenance.expectedEvidenceId sourceRef contentHash
    sourceRef := sourceRef
    queryHash := tools.provenance.canonicalHash (query.toJson tools.provenance facts.tool)
    contentHash := contentHash
    retrievedAt := ⟨query.asOfTs, true⟩
    freshnessTs := freshnessTs
    fixtureManifestVersion := tools.manifestVersion
    facts := facts }

def inventory : Except Failure Evidence :=
  match tools.fixtures.inventory query.tenantId query.skuId query.storeId with
  | none => .error (.evidenceFailure "EVIDENCE_MISSING" "T1 inventory evidence is missing")
  | some row => do
      let updatedAt ← row.updatedAt.load
      let facts := EvidenceFacts.inventory query.skuId query.storeId
        (tools.models.toFloat row.onHand) (tools.models.toFloat row.reserved)
        (tools.models.toFloat row.onOrder) updatedAt
      tools.models.construct (tools.item query facts updatedAt)

def demand : Except Failure Evidence :=
  match tools.fixtures.demand query.tenantId query.skuId query.storeId query.windowStart
    query.windowEnd with
  | none => .error (.evidenceFailure "EVIDENCE_MISSING" "T2 demand evidence is missing")
  | some row => do
      let updatedAt ← row.updatedAt.load
      let facts := EvidenceFacts.demand query.skuId query.storeId
        (tools.models.toFloat row.unitsSold) (tools.models.toFloat row.averageDailyUnits)
        row.demandSignal updatedAt
      tools.models.construct (tools.item query facts updatedAt)

def supplier : Except Failure Evidence :=
  match tools.fixtures.supplier query.tenantId query.skuId query.supplierId with
  | none => .error (.evidenceFailure "EVIDENCE_MISSING" "T3 supplier evidence is missing")
  | some row => do
      let expectedReceiptAt ← row.expectedReceiptAt.load
      let updatedAt ← row.updatedAt.load
      let facts := EvidenceFacts.supplier query.skuId query.supplierId
        (tools.models.toFloat row.openOrderQuantity) expectedReceiptAt
        (tools.models.toFloat row.historicalLeadTimeDays) row.status updatedAt
      tools.models.construct (tools.item query facts updatedAt)

/-- The tools by name; `reasoning` is none of them. -/
def answer : ToolName → Except Failure Evidence
  | .inventory => tools.inventory query
  | .salesDemand => tools.demand query
  | .supplier => tools.supplier query
  | .reasoning => .error (.keyError "reasoning")

end EvidenceTools

/-! ## Presentable rows -/

namespace EvidenceTools

variable (tools : EvidenceTools) (query : EvidenceQuery)

/-- The fields around the facts fit their bounds. -/
def labelled (tool : ToolName) : Bool :=
  let sourceRef := query.sourceRef tools.provenance tool
  lengthBetween 1 300 sourceRef && storableText sourceRef &&
    lengthBetween 1 80 tools.manifestVersion && storableText tools.manifestVersion

/-- The number is no NaN and no infinity, also as a float. -/
def presentable (value : Numeric) : Bool := Json.finiteFloat (tools.models.toFloat value)

/-- The rows of which a tool makes evidence that can be stored. -/
def presentsInventory (row : InventoryRow) : Bool :=
  row.updatedAt.readable && tools.presentable row.onHand && tools.presentable row.reserved &&
    tools.presentable row.onOrder && tools.labelled query .inventory

def presentsDemand (row : DemandRow) : Bool :=
  row.updatedAt.readable && tools.presentable row.unitsSold &&
    tools.presentable row.averageDailyUnits && tools.labelled query .salesDemand &&
    lengthBetween 1 80 row.demandSignal

def presentsSupplier (row : SupplierRow) : Bool :=
  row.expectedReceiptAt.readable && row.updatedAt.readable &&
    tools.presentable row.openOrderQuantity &&
    tools.presentable row.historicalLeadTimeDays && tools.labelled query .supplier &&
    lengthBetween 1 80 row.status

/-- A row that is not there is reported; a row that is there has to be presentable. -/
def presents : ToolName → Bool
  | .inventory =>
      nullOr (tools.presentsInventory query)
        (tools.fixtures.inventory query.tenantId query.skuId query.storeId)
  | .salesDemand =>
      nullOr (tools.presentsDemand query)
        (tools.fixtures.demand query.tenantId query.skuId query.storeId query.windowStart
          query.windowEnd)
  | .supplier =>
      nullOr (tools.presentsSupplier query)
        (tools.fixtures.supplier query.tenantId query.skuId query.supplierId)
  | .reasoning => false

end EvidenceTools

/-! ## What a tool makes of its row -/

theorem storableText_append (left right : String) :
    storableText (left ++ right) = (storableText left && storableText right) := by
  simp [storableText, String.toList_append, List.all_append]

theorem storableText_of_isHex64 {value : String} (hex : isHex64 value = true) :
    storableText value = true := by
  simp only [isHex64, Bool.and_eq_true, beq_iff_eq, List.all_eq_true] at hex
  simp only [storableText, List.all_eq_true, bne_iff_ne, ne_eq]
  rintro char member rfl
  have := hex.2 _ member
  revert this
  decide

theorem isEvidenceId_of_isHex64 {value : String} (hex : isHex64 value = true) :
    isEvidenceId ("ev_" ++ value) = true := by
  have split : ("ev_" ++ value).toList = 'e' :: 'v' :: '_' :: value.toList := by
    simp [String.toList_append]
  simp [isEvidenceId, split, hex]

namespace EvidenceModels

variable (models : EvidenceModels)

/-- A number that the table admits and that is finite passes `ge=0`. -/
theorem ge0_toFloat {value : Numeric} (admitted : value.nonneg = true)
    (finite : Json.finiteFloat (models.toFloat value) = true) :
    models.ge0 (models.toFloat value) = true := by
  cases value with
  | posInf => cases finite
  | negInf => cases finite
  | nan => cases finite
  | finite exact =>
      have nonneg : 0 ≤ exact := by simpa [Numeric.nonneg] using admitted
      cases rounded : models.float exact with
      | finite approximate =>
          have kept := models.float_nonneg exact approximate nonneg rounded
          simp [toFloat, rounded, models.ge0_finite, kept]
      | posInf => simp [toFloat, rounded, Json.finiteFloat] at finite
      | negInf => simp [toFloat, rounded, Json.finiteFloat] at finite
      | nan => simp [toFloat, rounded, Json.finiteFloat] at finite

/-- What `_gather_evidence` can deal with: an item that can be stored, or the
exception that it catches. -/
def Settles : Except Failure Evidence → Prop
  | .ok item => models.accepts item = true ∧ (models.modelDump item).storable = true
  | .error failure => ∃ message, failure = .evidenceFailure "EVIDENCE_MISSING" message

theorem accepts_of_construct {built item : Evidence}
    (constructed : models.construct built = .ok item) :
    models.accepts item = true := by
  unfold construct at constructed
  split at constructed
  · rename_i accepted
    exact Except.ok.inj constructed ▸ accepted
  · cases constructed

theorem construct_of_accepts {item : Evidence} (accepted : models.accepts item = true) :
    models.construct item = .ok item := if_pos accepted

/-- The texts of a stored item can be stored elsewhere. -/
theorem storable_evidenceId {item : Evidence} (stored : (models.modelDump item).storable = true) :
    storableText item.evidenceId = true := by
  rw [models.storable_modelDump, Bool.and_eq_true, List.all_eq_true, List.all_eq_true] at stored
  exact stored.2 (item.evidenceId, isEvidenceId item.evidenceId) (by simp [Evidence.texts])

theorem settles_construct_iff {item : Evidence} :
    models.Settles (models.construct item) ↔
      models.accepts item = true ∧ (models.modelDump item).storable = true := by
  unfold construct
  split
  · rfl
  · rename_i refused
    simp [Settles, refused]

end EvidenceModels

namespace EvidenceTools

variable {tools : EvidenceTools} {query : EvidenceQuery}

/-- The texts of an item are fine when its label is and its facts' texts are. -/
theorem texts_item_iff {facts : EvidenceFacts} (freshnessTs : PyDatetime) :
    ((tools.item query facts freshnessTs).texts.all Prod.snd = true ∧
      (tools.item query facts freshnessTs).texts.all (fun text => storableText text.1) = true) ↔
      tools.labelled query facts.tool = true ∧
        facts.texts.all (fun text => text.2 && storableText text.1) = true := by
  let contentHash := tools.provenance.canonicalHash (facts.toJson tools.provenance)
  have hex : isHex64 (tools.provenance.sha256Text
      (query.sourceRef tools.provenance facts.tool ++ ":" ++ contentHash)) = true :=
    tools.provenance.sha256Text_hex _
  have evidenceId : storableText (tools.provenance.expectedEvidenceId
      (query.sourceRef tools.provenance facts.tool) contentHash) = true := by
    rw [Provenance.expectedEvidenceId, storableText_append, storableText_of_isHex64 hex]
    decide
  have pattern : isEvidenceId (tools.provenance.expectedEvidenceId
      (query.sourceRef tools.provenance facts.tool) contentHash) = true :=
    isEvidenceId_of_isHex64 hex
  have content := tools.provenance.canonicalHash_hex (facts.toJson tools.provenance)
  have queried := tools.provenance.canonicalHash_hex (query.toJson tools.provenance facts.tool)
  have contentText := storableText_of_isHex64 content
  have queriedText := storableText_of_isHex64 queried
  simp only [Evidence.texts, item, labelled, contentHash, List.all_append, List.all_cons,
    List.all_nil, Bool.and_true, Bool.and_eq_true, List.all_eq_true] at *
  grind

/-- An item is stored exactly when its label fits and its facts can be presented. -/
theorem settles_item_iff {facts : EvidenceFacts} {freshnessTs : PyDatetime}
    (admitted : ∀ value ∈ facts.floats, Json.finiteFloat value = true →
      tools.models.ge0 value = true) :
    tools.models.Settles (tools.models.construct (tools.item query facts freshnessTs)) ↔
      facts.floats.all Json.finiteFloat = true ∧ tools.labelled query facts.tool = true ∧
        facts.texts.all (fun text => text.2 && storableText text.1) = true := by
  rw [EvidenceModels.settles_construct_iff, EvidenceModels.accepts,
    tools.models.storable_modelDump, Bool.and_eq_true, Bool.and_eq_true]
  have floats : (tools.item query facts freshnessTs).facts.floats = facts.floats := rfl
  rw [floats, ← texts_item_iff freshnessTs]
  constructor
  · rintro ⟨⟨-, bounds⟩, finite, stored⟩
    exact ⟨finite, bounds, stored⟩
  · rintro ⟨finite, bounds, stored⟩
    refine ⟨⟨?_, bounds⟩, finite, stored⟩
    rw [List.all_eq_true] at finite ⊢
    exact fun value member => admitted value member (finite value member)

/-- The key columns are texts that a stored run has. -/
structure Identified (query : EvidenceQuery) : Prop where
  skuId : (notEmpty query.skuId && storableText query.skuId) = true
  storeId : (notEmpty query.storeId && storableText query.storeId) = true
  supplierId : (notEmpty query.supplierId && storableText query.supplierId) = true

theorem load_cases (value : Timestamptz) :
    (value.readable = true ∧ ∃ loaded, value.load = .ok loaded ∧ loaded.aware = true) ∨
      (value.readable = false ∧ ∃ error, value.load = .error (.database error)) := by
  cases value with
  | «at» instant =>
      cases readable : readableInstant instant with
      | true => exact .inl ⟨readable, ⟨instant, true⟩, by simp [Timestamptz.load, readable], rfl⟩
      | false => exact .inr ⟨readable, _, by simp [Timestamptz.load, readable]; rfl⟩
  | posInf => exact .inr ⟨rfl, _, rfl⟩
  | negInf => exact .inr ⟨rfl, _, rfl⟩

/-- A column that Python cannot read ends the tool with a `DataError`. -/
theorem settles_load_iff {value : Timestamptz} {follow : PyDatetime → Except Failure Evidence}
    (Presents : Prop)
    (followed : ∀ loaded, tools.models.Settles (follow loaded) ↔ Presents) :
    tools.models.Settles (value.load >>= follow) ↔ value.readable = true ∧ Presents := by
  obtain ⟨readable, loaded, load, -⟩ | ⟨unreadable, error, load⟩ := load_cases value
  · rw [load, readable]
    exact (followed loaded).trans (by simp)
  · rw [load]
    simp [unreadable, bind, Except.bind, EvidenceModels.Settles]

theorem inventory_settles_iff (identified : Identified query) :
    tools.models.Settles (tools.inventory query) ↔ tools.presents query .inventory = true := by
  unfold inventory presents
  cases tools.fixtures.inventory query.tenantId query.skuId query.storeId with
  | none => simp [nullOr, EvidenceModels.Settles]
  | some row =>
      have admitted := row.admitted
      simp only [Bool.and_eq_true] at admitted
      have floats : ∀ value ∈ [tools.models.toFloat row.onHand, tools.models.toFloat row.reserved,
          tools.models.toFloat row.onOrder], Json.finiteFloat value = true →
            tools.models.ge0 value = true := by
        simp only [List.mem_cons, List.not_mem_nil, or_false]
        rintro value (rfl | rfl | rfl)
        · exact tools.models.ge0_toFloat admitted.1.1
        · exact tools.models.ge0_toFloat admitted.1.2
        · exact tools.models.ge0_toFloat admitted.2
      refine (settles_load_iff ((tools.presentable row.onHand = true ∧
        tools.presentable row.reserved = true ∧ tools.presentable row.onOrder = true) ∧
          tools.labelled query .inventory = true)
        fun loaded => (settles_item_iff ?_).trans ?_).trans ?_
      · exact floats
      · simp only [EvidenceFacts.floats, EvidenceFacts.texts, EvidenceFacts.tool, presentable,
          List.all_cons, List.all_nil, Bool.and_true, identified.skuId, identified.storeId,
          Bool.and_eq_true, and_true]
      · simp only [nullOr, presentsInventory, Bool.and_eq_true, and_assoc]

theorem demand_settles_iff (identified : Identified query) :
    tools.models.Settles (tools.demand query) ↔ tools.presents query .salesDemand = true := by
  unfold demand presents
  cases tools.fixtures.demand query.tenantId query.skuId query.storeId query.windowStart
    query.windowEnd with
  | none => simp [nullOr, EvidenceModels.Settles]
  | some row =>
      have admitted := row.admitted
      simp only [Bool.and_eq_true] at admitted
      have floats : ∀ value ∈ [tools.models.toFloat row.unitsSold,
          tools.models.toFloat row.averageDailyUnits], Json.finiteFloat value = true →
            tools.models.ge0 value = true := by
        simp only [List.mem_cons, List.not_mem_nil, or_false]
        rintro value (rfl | rfl)
        · exact tools.models.ge0_toFloat admitted.1
        · exact tools.models.ge0_toFloat admitted.2
      refine (settles_load_iff ((tools.presentable row.unitsSold = true ∧
        tools.presentable row.averageDailyUnits = true) ∧
          tools.labelled query .salesDemand = true ∧ lengthBetween 1 80 row.demandSignal = true)
        fun loaded => (settles_item_iff ?_).trans ?_).trans ?_
      · exact floats
      · simp only [EvidenceFacts.floats, EvidenceFacts.texts, EvidenceFacts.tool, presentable,
          List.all_cons, List.all_nil, Bool.and_true, identified.skuId, identified.storeId,
          row.text, Bool.and_eq_true, true_and]
      · simp only [nullOr, presentsDemand, Bool.and_eq_true, and_assoc]

theorem supplier_settles_iff (identified : Identified query) :
    tools.models.Settles (tools.supplier query) ↔ tools.presents query .supplier = true := by
  unfold supplier presents
  cases tools.fixtures.supplier query.tenantId query.skuId query.supplierId with
  | none => simp [nullOr, EvidenceModels.Settles]
  | some row =>
      have admitted := row.admitted
      simp only [Bool.and_eq_true] at admitted
      have floats : ∀ value ∈ [tools.models.toFloat row.openOrderQuantity,
          tools.models.toFloat row.historicalLeadTimeDays], Json.finiteFloat value = true →
            tools.models.ge0 value = true := by
        simp only [List.mem_cons, List.not_mem_nil, or_false]
        rintro value (rfl | rfl)
        · exact tools.models.ge0_toFloat admitted.1
        · exact tools.models.ge0_toFloat admitted.2
      let fits : Prop := (tools.presentable row.openOrderQuantity = true ∧
        tools.presentable row.historicalLeadTimeDays = true) ∧
          tools.labelled query .supplier = true ∧ lengthBetween 1 80 row.status = true
      refine (settles_load_iff (row.updatedAt.readable = true ∧ fits) fun expected =>
        settles_load_iff fits fun loaded => (settles_item_iff ?_).trans ?_).trans ?_
      · exact floats
      · simp only [EvidenceFacts.floats, EvidenceFacts.texts, EvidenceFacts.tool, presentable,
          fits, List.all_cons, List.all_nil, Bool.and_true, identified.skuId,
          identified.supplierId, row.text, Bool.and_eq_true, true_and]
      · simp only [nullOr, presentsSupplier, fits, Bool.and_eq_true, and_assoc]

/-- A tool settles exactly on the rows that can be presented. -/
theorem answer_settles_iff (identified : Identified query) (tool : ToolName) :
    tools.models.Settles (tools.answer query tool) ↔ tools.presents query tool = true := by
  cases tool with
  | inventory => exact inventory_settles_iff identified
  | salesDemand => exact demand_settles_iff identified
  | supplier => exact supplier_settles_iff identified
  | reasoning => simp [answer, presents, EvidenceModels.Settles]

/-- A tool that returns has validated its item. -/
theorem accepts_of_answer {tool : ToolName} {item : Evidence}
    (answered : tools.answer query tool = .ok item) : tools.models.accepts item = true := by
  cases tool with
  | inventory =>
      simp only [answer, inventory] at answered
      split at answered
      · cases answered
      · obtain ⟨updatedAt, -, built⟩ := bind_eq_ok.mp answered
        exact tools.models.accepts_of_construct built
  | salesDemand =>
      simp only [answer, demand] at answered
      split at answered
      · cases answered
      · obtain ⟨updatedAt, -, built⟩ := bind_eq_ok.mp answered
        exact tools.models.accepts_of_construct built
  | supplier =>
      simp only [answer, supplier] at answered
      split at answered
      · cases answered
      · obtain ⟨expectedReceiptAt, -, rest⟩ := bind_eq_ok.mp answered
        obtain ⟨updatedAt, -, built⟩ := bind_eq_ok.mp rest
        exact tools.models.accepts_of_construct built
  | reasoning => cases answered

/-- The exceptions of a tool that `_gather_evidence` lets through. -/
def Escapes (exception : Failure) : Prop :=
  (∃ error, exception = .database error) ∨ ∃ message, exception = .valueError message

theorem escapes_of_construct {built : Evidence} {exception : Failure}
    (raised : tools.models.construct built = .error exception) : Escapes exception := by
  unfold EvidenceModels.construct at raised
  split at raised
  · cases raised
  · exact .inr ⟨_, (Except.error.inj raised).symm⟩

/-- A column is unreadable, or what is built from it raises. -/
theorem escapes_of_load {value : Timestamptz} {follow : PyDatetime → Except Failure Evidence}
    {exception : Failure} (raised : (value.load >>= follow) = .error exception)
    (built : ∀ loaded, follow loaded = .error exception → Escapes exception) :
    Escapes exception := by
  obtain ⟨-, loaded, load, -⟩ | ⟨-, error, load⟩ := load_cases value
  · rw [load] at raised
    exact built loaded raised
  · rw [load] at raised
    exact .inl ⟨error, (Except.error.inj raised).symm⟩

/-- A tool raises when its row is missing, unreadable or out of bounds. -/
theorem answer_error {tool : ToolName} (evidenceTool : tool ≠ .reasoning) {exception : Failure}
    (raised : tools.answer query tool = .error exception) :
    (∃ message, exception = .evidenceFailure "EVIDENCE_MISSING" message) ∨ Escapes exception := by
  cases tool with
  | inventory =>
      simp only [answer, inventory] at raised
      split at raised
      · exact .inl ⟨_, (Except.error.inj raised).symm⟩
      · exact .inr (escapes_of_load raised fun _ => escapes_of_construct)
  | salesDemand =>
      simp only [answer, demand] at raised
      split at raised
      · exact .inl ⟨_, (Except.error.inj raised).symm⟩
      · exact .inr (escapes_of_load raised fun _ => escapes_of_construct)
  | supplier =>
      simp only [answer, supplier] at raised
      split at raised
      · exact .inl ⟨_, (Except.error.inj raised).symm⟩
      · exact .inr (escapes_of_load raised fun _ rest =>
          escapes_of_load rest fun _ => escapes_of_construct)
  | reasoning => exact absurd rfl evidenceTool

end EvidenceTools

end StockoutOps.Investigation
