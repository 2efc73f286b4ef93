import Mathlib.Data.Set.Function
import StockoutOps.Investigation.EvidenceProduction
import StockoutOps.PrintedFloats

/-!
Contract: what an evidence id says about its item.

Owns: calls of the three evidence tools with windows in any time zone, the
query that a `source_ref` names, the facts that a `content_hash` names, that two
items share an id exactly when both are the same, and what that says of runs.

Does not own: collisions of the digest.
-/

namespace StockoutOps.Investigation

open StockoutOps.Foundation.Delimiters
open StockoutOps.Sql

/-! ## Calls -/

/-- A call of a method of `EvidenceTools`. -/
inductive ToolCall where
  | inventory (tenantId skuId storeId : String) (asOfTs : ZonedDatetime)
  | demand (tenantId skuId storeId : String) (windowStart windowEnd asOfTs : ZonedDatetime)
  | supplier (tenantId skuId supplierId : String) (asOfTs : ZonedDatetime)

/-- What a call asks for: the tool, the identifiers, and the texts of the window. -/
structure QueryIdentity where
  tool : ToolName
  tenantId : String
  skuId : String
  locationId : String
  window : Option (String × String)
deriving DecidableEq

namespace ToolCall

def identity : ToolCall → QueryIdentity
  | inventory tenantId skuId storeId _ => ⟨.inventory, tenantId, skuId, storeId, none⟩
  | demand tenantId skuId storeId windowStart windowEnd _ =>
      ⟨.salesDemand, tenantId, skuId, storeId, some (windowStart.isoformat, windowEnd.isoformat)⟩
  | supplier tenantId skuId supplierId _ => ⟨.supplier, tenantId, skuId, supplierId, none⟩

/-- The arguments as instants; those that the method does not have are empty. -/
def query : ToolCall → EvidenceQuery
  | inventory tenantId skuId storeId asOfTs =>
      ⟨tenantId, skuId, storeId, "", asOfTs.instant, 0, 0⟩
  | demand tenantId skuId storeId windowStart windowEnd asOfTs =>
      ⟨tenantId, skuId, storeId, "", asOfTs.instant, windowStart.instant, windowEnd.instant⟩
  | supplier tenantId skuId supplierId asOfTs =>
      ⟨tenantId, skuId, "", supplierId, asOfTs.instant, 0, 0⟩

/-- The `source_ref` that a call builds. -/
def sourceRef : ToolCall → String
  | inventory tenantId skuId storeId _ =>
      "inventory:" ++ tenantId ++ ":" ++ skuId ++ ":" ++ storeId
  | demand tenantId skuId storeId windowStart windowEnd _ =>
      "demand:" ++ tenantId ++ ":" ++ skuId ++ ":" ++ storeId ++ ":" ++
        windowStart.isoformat ++ ":" ++ windowEnd.isoformat
  | supplier tenantId skuId supplierId _ =>
      "supplier:" ++ tenantId ++ ":" ++ skuId ++ ":" ++ supplierId

end ToolCall

/-- The timestamps of the facts. -/
def EvidenceFacts.datetimes : EvidenceFacts → List PyDatetime
  | .inventory _ _ _ _ _ updatedAt => [updatedAt]
  | .demand _ _ _ _ _ updatedAt => [updatedAt]
  | .supplier _ _ _ expectedReceiptAt _ _ updatedAt => [expectedReceiptAt, updatedAt]

namespace EvidenceTools

variable (tools : EvidenceTools)

/-- `EvidenceTools.demand`, with the texts of the windows as the call has them. -/
def demandAt (tenantId skuId storeId : String) (windowStart windowEnd asOfTs : ZonedDatetime) :
    Except Failure Evidence :=
  let call := ToolCall.demand tenantId skuId storeId windowStart windowEnd asOfTs
  match tools.fixtures.demand tenantId skuId storeId windowStart.instant windowEnd.instant with
  | none => .error (.evidenceFailure "EVIDENCE_MISSING" "T2 demand evidence is missing")
  | some row => do
      let updatedAt ← row.updatedAt.load
      let facts := EvidenceFacts.demand skuId storeId (tools.models.toFloat row.unitsSold)
        (tools.models.toFloat row.averageDailyUnits) row.demandSignal updatedAt
      let contentHash := tools.provenance.canonicalHash (facts.toJson tools.provenance)
      tools.models.construct
        { tools.item call.query facts updatedAt with
          evidenceId := tools.provenance.expectedEvidenceId call.sourceRef contentHash
          sourceRef := call.sourceRef }

def perform (call : ToolCall) : Except Failure Evidence :=
  match call with
  | .inventory .. => tools.inventory call.query
  | .demand tenantId skuId storeId windowStart windowEnd asOfTs =>
      tools.demandAt tenantId skuId storeId windowStart windowEnd asOfTs
  | .supplier .. => tools.supplier call.query

/-- The item of a call is that of its query, where both make the same reference. -/
theorem item_of_sourceRef {query : EvidenceQuery} {facts : EvidenceFacts} {freshnessTs : PyDatetime}
    {sourceRef : String} (source : query.sourceRef tools.provenance facts.tool = sourceRef) :
    { tools.item query facts freshnessTs with
      evidenceId := tools.provenance.expectedEvidenceId sourceRef
        (tools.provenance.canonicalHash (facts.toJson tools.provenance))
      sourceRef := sourceRef } = tools.item query facts freshnessTs := by
  subst source
  rfl

/-- Where the provenance prints a window as the call has it, the call is that of a run. -/
theorem demandAt_eq_demand {tenantId skuId storeId : String}
    {windowStart windowEnd asOfTs : ZonedDatetime}
    (start : tools.provenance.isoformat windowStart.instant = windowStart.isoformat)
    (stop : tools.provenance.isoformat windowEnd.instant = windowEnd.isoformat) :
    tools.demandAt tenantId skuId storeId windowStart windowEnd asOfTs =
      tools.demand (ToolCall.demand tenantId skuId storeId windowStart windowEnd asOfTs).query := by
  have source :
      (ToolCall.demand tenantId skuId storeId windowStart windowEnd asOfTs).query.sourceRef
          tools.provenance .salesDemand =
        (ToolCall.demand tenantId skuId storeId windowStart windowEnd asOfTs).sourceRef := by
    simp only [EvidenceQuery.sourceRef, ToolCall.query, ToolCall.sourceRef, start, stop]
  cases found : tools.fixtures.demand tenantId skuId storeId windowStart.instant
      windowEnd.instant with
  | none => simp only [demandAt, demand, ToolCall.query, found]
  | some row =>
      simp only [demandAt, demand, ToolCall.query, found]
      exact congrArg (row.updatedAt.load >>= ·) (funext fun updatedAt =>
        congrArg tools.models.construct (tools.item_of_sourceRef source))

end EvidenceTools

/-! ## What a call returns -/

/-- A timestamp that was read from PostgreSQL. -/
def Loaded (value : PyDatetime) : Prop :=
  value.aware = true ∧ readableInstant value.instant = true

theorem loaded_of_load {value : Timestamptz} {loaded : PyDatetime}
    (load : value.load = .ok loaded) : Loaded loaded := by
  cases value with
  | «at» instant =>
      simp only [Timestamptz.load] at load
      split at load
      · rename_i readable
        obtain rfl := Except.ok.inj load
        exact ⟨rfl, readable⟩
      · cases load
  | posInf => cases load
  | negInf => cases load

/-- The labels of a returned item. -/
structure Returned (provenance : Provenance) (call : ToolCall) (item : Evidence) : Prop where
  tool : item.facts.tool = call.identity.tool
  keys : item.facts.KeyedBy call.query
  dated : ∀ value ∈ item.facts.datetimes, Loaded value
  source : item.sourceRef = call.sourceRef
  content : item.contentHash = provenance.canonicalHash (item.facts.toJson provenance)
  identified : item.evidenceId = provenance.expectedEvidenceId item.sourceRef item.contentHash

theorem returned_of_perform {tools : EvidenceTools} {call : ToolCall} {item : Evidence}
    (performed : tools.perform call = .ok item) : Returned tools.provenance call item := by
  cases call with
  | inventory tenantId skuId storeId asOfTs =>
      simp only [EvidenceTools.perform, EvidenceTools.inventory] at performed
      split at performed
      · cases performed
      · obtain ⟨updatedAt, load, built⟩ := bind_eq_ok.mp performed
        obtain rfl := eq_of_construct built
        exact ⟨rfl, ⟨rfl, rfl⟩, List.forall_mem_singleton.mpr (loaded_of_load load), rfl, rfl, rfl⟩
  | demand tenantId skuId storeId windowStart windowEnd asOfTs =>
      simp only [EvidenceTools.perform, EvidenceTools.demandAt] at performed
      split at performed
      · cases performed
      · obtain ⟨updatedAt, load, built⟩ := bind_eq_ok.mp performed
        obtain rfl := eq_of_construct built
        exact ⟨rfl, ⟨rfl, rfl⟩, List.forall_mem_singleton.mpr (loaded_of_load load), rfl, rfl, rfl⟩
  | supplier tenantId skuId supplierId asOfTs =>
      simp only [EvidenceTools.perform, EvidenceTools.supplier] at performed
      split at performed
      · cases performed
      · obtain ⟨expectedReceiptAt, expected, rest⟩ := bind_eq_ok.mp performed
        obtain ⟨updatedAt, load, built⟩ := bind_eq_ok.mp rest
        obtain rfl := eq_of_construct built
        refine ⟨rfl, ⟨rfl, rfl⟩, ?_, rfl, rfl, rfl⟩
        exact List.forall_mem_cons.mpr
          ⟨loaded_of_load expected, List.forall_mem_singleton.mpr (loaded_of_load load)⟩

/-! ## What a content hash names -/

section Facts

variable {repr : FloatRepr}

/-- The members of the facts by their keys in order. -/
def EvidenceFacts.sortedMembers : EvidenceFacts → List (String × Json)
  | .inventory skuId storeId onHand reserved onOrder updatedAt =>
      [("on_hand", .float onHand), ("on_order", .float onOrder), ("reserved", .float reserved),
        ("sku_id", .str skuId), ("store_id", .str storeId),
        ("updated_at", .str (isoUtcText updatedAt.instant))]
  | .demand skuId storeId unitsSold averageDailyUnits demandSignal updatedAt =>
      [("average_daily_units", .float averageDailyUnits), ("demand_signal", .str demandSignal),
        ("sku_id", .str skuId), ("store_id", .str storeId), ("units_sold", .float unitsSold),
        ("updated_at", .str (isoUtcText updatedAt.instant))]
  | .supplier skuId supplierId openOrderQuantity expectedReceiptAt historicalLeadTimeDays status
      updatedAt =>
      [("expected_receipt_at", .str (isoUtcText expectedReceiptAt.instant)),
        ("historical_lead_time_days", .float historicalLeadTimeDays),
        ("open_order_quantity", .float openOrderQuantity), ("sku_id", .str skuId),
        ("status", .str status), ("supplier_id", .str supplierId),
        ("updated_at", .str (isoUtcText updatedAt.instant))]

theorem scalar_sortedMembers (facts : EvidenceFacts) :
    ∀ member ∈ facts.sortedMembers, Scalar member.2 := by
  cases facts <;> simp [EvidenceFacts.sortedMembers, Scalar.str, Scalar.float]

theorem sortedMembers_keys {left right : EvidenceFacts} (tools : left.tool = right.tool) :
    left.sortedMembers.map Prod.fst = right.sortedMembers.map Prod.fst := by
  cases left <;> cases right <;> first
    | simp only [EvidenceFacts.sortedMembers, List.map_cons, List.map_nil]; done
    | cases tools

theorem datetime_inj {left right : PyDatetime} (leftLoaded : Loaded left)
    (rightLoaded : Loaded right)
    (same : isoUtcText left.instant = isoUtcText right.instant) :
    left = right := by
  have instants := isoUtcText_inj leftLoaded.2 rightLoaded.2 same
  have aware := leftLoaded.1.trans rightLoaded.1.symm
  cases left
  cases right
  simp only at instants aware
  rw [instants, aware]

theorem sortedMembers_inj {left right : EvidenceFacts} (tools : left.tool = right.tool)
    (leftLoaded : ∀ value ∈ left.datetimes, Loaded value)
    (rightLoaded : ∀ value ∈ right.datetimes, Loaded value)
    (same : left.sortedMembers = right.sortedMembers) : left = right := by
  cases left with
  | inventory =>
      cases right with
      | inventory =>
          simp only [EvidenceFacts.sortedMembers, List.cons.injEq, Prod.mk.injEq,
            Json.float.injEq, Json.str.injEq, true_and, and_true] at same
          obtain ⟨rfl, rfl, rfl, rfl, rfl, updated⟩ := same
          rw [datetime_inj (leftLoaded _ List.mem_cons_self) (rightLoaded _ List.mem_cons_self)
            updated]
      | demand => cases tools
      | supplier => cases tools
  | demand =>
      cases right with
      | inventory => cases tools
      | demand =>
          simp only [EvidenceFacts.sortedMembers, List.cons.injEq, Prod.mk.injEq,
            Json.float.injEq, Json.str.injEq, true_and, and_true] at same
          obtain ⟨rfl, rfl, rfl, rfl, rfl, updated⟩ := same
          rw [datetime_inj (leftLoaded _ List.mem_cons_self) (rightLoaded _ List.mem_cons_self)
            updated]
      | supplier => cases tools
  | supplier =>
      cases right with
      | inventory => cases tools
      | demand => cases tools
      | supplier =>
          simp only [EvidenceFacts.sortedMembers, List.cons.injEq, Prod.mk.injEq,
            Json.float.injEq, Json.str.injEq, true_and, and_true] at same
          obtain ⟨expected, rfl, rfl, rfl, rfl, rfl, updated⟩ := same
          rw [datetime_inj (leftLoaded _ List.mem_cons_self) (rightLoaded _ List.mem_cons_self)
              expected,
            datetime_inj (leftLoaded _ (List.mem_cons_of_mem _ List.mem_cons_self))
              (rightLoaded _ (List.mem_cons_of_mem _ List.mem_cons_self)) updated]

variable {sha256Text : String → String} {sha256Text_hex : ∀ text, isHex64 (sha256Text text) = true}

/-- `sort_keys` on the facts. -/
theorem sortedAs_facts (facts : EvidenceFacts) : ∃ members,
    facts.toJson (canonicalProvenance repr sha256Text sha256Text_hex) = .obj members ∧
      SortedAs repr members facts.sortedMembers := by
  cases facts <;>
    exact ⟨_, rfl, by
      simp [SortedAs, dumpsMembers, insertByKey, EvidenceFacts.sortedMembers, canonicalProvenance]⟩

/-- Loaded facts of one tool have different canonical texts. -/
theorem facts_inj {left right : EvidenceFacts} (tools : left.tool = right.tool)
    (leftLoaded : ∀ value ∈ left.datetimes, Loaded value)
    (rightLoaded : ∀ value ∈ right.datetimes, Loaded value)
    (same : canonicalJson repr
        (left.toJson (canonicalProvenance repr sha256Text sha256Text_hex)) =
      canonicalJson repr (right.toJson (canonicalProvenance repr sha256Text sha256Text_hex))) :
    left = right := by
  obtain ⟨leftMembers, leftJson, leftSorted⟩ := sortedAs_facts left
  obtain ⟨rightMembers, rightJson, rightSorted⟩ := sortedAs_facts right
  rw [leftJson, rightJson] at same
  exact sortedMembers_inj tools leftLoaded rightLoaded (canonicalJson_inj leftSorted rightSorted
    (sortedMembers_keys tools) (scalar_sortedMembers left) (scalar_sortedMembers right) same)

end Facts

/-! ## What a source reference names -/

/-- The two windows start where the last two letters are, ten characters after
their colons. -/
theorem windows_inj {tenant tenant' middle : List Char}
    {windowStart windowStart' windowEnd windowEnd' : ZonedDatetime}
    (same : tenant ++ (middle ++ (windowStart.isoformat.toList ++
        (':' :: windowEnd.isoformat.toList))) =
      tenant' ++ (middle ++ (windowStart'.isoformat.toList ++
        (':' :: windowEnd'.isoformat.toList)))) :
    tenant = tenant' ∧ windowStart.isoformat = windowStart'.isoformat ∧
      windowEnd.isoformat = windowEnd'.isoformat := by
  obtain ⟨startRest, startPlain, start⟩ := windowStart.isoformat_shape
  obtain ⟨startRest', startPlain', start'⟩ := windowStart'.isoformat_shape
  obtain ⟨endRest, endPlain, stop⟩ := windowEnd.isoformat_shape
  obtain ⟨endRest', endPlain', stop'⟩ := windowEnd'.isoformat_shape
  have last : (tenant ++ middle ++ windowStart.isoformat.toList ++
      (':' :: windowEnd.civil.date)) ++ 'T' :: endRest =
        (tenant' ++ middle ++ windowStart'.isoformat.toList ++
          (':' :: windowEnd'.civil.date)) ++ 'T' :: endRest' := by
    simpa [stop, stop'] using same
  obtain ⟨fronts, endRests⟩ := split_last last endPlain endPlain'
  obtain ⟨fronts, endDates⟩ := List.append_inj' fronts (by simp)
  have first : (tenant ++ middle ++ windowStart.civil.date) ++ 'T' :: startRest =
      (tenant' ++ middle ++ windowStart'.civil.date) ++ 'T' :: startRest' := by
    simpa [start, start'] using fronts
  obtain ⟨fronts, startRests⟩ := split_last first startPlain startPlain'
  obtain ⟨fronts, startDates⟩ := List.append_inj' fronts (by simp)
  refine ⟨List.append_cancel_right fronts, ?_, ?_⟩
  · exact String.toList_injective (by rw [start, start', startDates, startRests])
  · exact String.toList_injective (by rw [stop, stop', (List.cons.inj endDates).2, endRests])

namespace ToolCall

variable {left right : ToolCall}

/-- The tools begin their references with different letters. -/
theorem tool_of_sourceRef (same : left.sourceRef = right.sourceRef) :
    left.identity.tool = right.identity.tool := by
  have heads := congrArg (fun text => text.toList.head?) same
  cases left <;> cases right <;> first
    | rfl
    | simp [sourceRef, String.toList_append] at heads

/-- A reference names its query to whoever knows the SKU and the location. -/
theorem identity_of_sourceRef (sku : left.identity.skuId = right.identity.skuId)
    (location : left.identity.locationId = right.identity.locationId)
    (same : left.sourceRef = right.sourceRef) : left.identity = right.identity := by
  have tool := tool_of_sourceRef same
  cases left with
  | inventory tenantId skuId storeId asOfTs =>
      cases right with
      | inventory tenantId' skuId' storeId' asOfTs' =>
          obtain rfl : skuId = skuId' := sku
          obtain rfl : storeId = storeId' := location
          have tenant : tenantId = tenantId' := by
            apply String.toList_injective
            simpa [sourceRef, String.toList_append, ← String.toList_inj] using same
          rw [identity, identity, tenant]
      | demand => cases tool
      | supplier => cases tool
  | demand tenantId skuId storeId windowStart windowEnd asOfTs =>
      cases right with
      | inventory => cases tool
      | demand tenantId' skuId' storeId' windowStart' windowEnd' asOfTs' =>
          obtain rfl : skuId = skuId' := sku
          obtain rfl : storeId = storeId' := location
          have chars : tenantId.toList ++ ((":" ++ skuId ++ ":" ++ storeId ++ ":").toList ++
              (windowStart.isoformat.toList ++ (':' :: windowEnd.isoformat.toList))) =
                tenantId'.toList ++ ((":" ++ skuId ++ ":" ++ storeId ++ ":").toList ++
                  (windowStart'.isoformat.toList ++ (':' :: windowEnd'.isoformat.toList))) := by
            simpa [sourceRef, String.toList_append, ← String.toList_inj] using same
          obtain ⟨tenant, start, stop⟩ := windows_inj chars
          rw [identity, identity, String.toList_injective tenant, start, stop]
      | supplier => cases tool
  | supplier tenantId skuId supplierId asOfTs =>
      cases right with
      | inventory => cases tool
      | demand => cases tool
      | supplier tenantId' skuId' supplierId' asOfTs' =>
          obtain rfl : skuId = skuId' := sku
          obtain rfl : supplierId = supplierId' := location
          have tenant : tenantId = tenantId' := by
            apply String.toList_injective
            simpa [sourceRef, String.toList_append, ← String.toList_inj] using same
          rw [identity, identity, tenant]

/-- The reference of a call depends on nothing but its identity. -/
theorem sourceRef_of_identity (same : left.identity = right.identity) :
    left.sourceRef = right.sourceRef := by
  cases left <;> cases right <;> simp only [identity, QueryIdentity.mk.injEq, reduceCtorEq,
    false_and, Option.some.injEq, Prod.mk.injEq, true_and, and_false, and_true] at same <;>
    grind [sourceRef]

end ToolCall

/-! ## Evidence ids -/

/-- The texts that the labels of an item are digests of. -/
def hashedTexts (provenance : Provenance) (item : Evidence) : Set String :=
  {provenance.canonicalJson (item.facts.toJson provenance),
    item.sourceRef ++ ":" ++ item.contentHash}

section Ids

variable {repr : FloatRepr} {sha256Text : String → String}
  {sha256Text_hex : ∀ text, isHex64 (sha256Text text) = true}
  {call call' : ToolCall} {item item' : Evidence} {provenance : Provenance}

/-- The facts hold the SKU and the location that the call asked for. -/
theorem keys_of_facts (returned : Returned provenance call item)
    (returned' : Returned provenance call' item') (facts : item.facts = item'.facts) :
    call.identity.skuId = call'.identity.skuId ∧
      call.identity.locationId = call'.identity.locationId := by
  have tool := returned.tool
  have tool' := returned'.tool
  have keys := returned.keys
  have keys' := returned'.keys
  rw [facts] at tool keys
  cases shape : item'.facts with
  | inventory skuId storeId =>
      rw [shape] at tool tool' keys keys'
      cases call <;> cases tool
      cases call' <;> cases tool'
      exact ⟨keys.1.symm.trans keys'.1, keys.2.symm.trans keys'.2⟩
  | demand skuId storeId =>
      rw [shape] at tool tool' keys keys'
      cases call <;> cases tool
      cases call' <;> cases tool'
      exact ⟨keys.1.symm.trans keys'.1, keys.2.symm.trans keys'.2⟩
  | supplier skuId supplierId =>
      rw [shape] at tool tool' keys keys'
      cases call <;> cases tool
      cases call' <;> cases tool'
      exact ⟨keys.1.symm.trans keys'.1, keys.2.symm.trans keys'.2⟩

/-- An id names its reference and its content hash, which is as long as every digest. -/
theorem labels_of_evidenceId {sourceRef sourceRef' contentHash contentHash' : String}
    (hex : isHex64 contentHash = true) (hex' : isHex64 contentHash' = true)
    (injective : sha256Text (sourceRef ++ ":" ++ contentHash) =
      sha256Text (sourceRef' ++ ":" ++ contentHash') →
        sourceRef ++ ":" ++ contentHash = sourceRef' ++ ":" ++ contentHash')
    (same : "ev_" ++ sha256Text (sourceRef ++ ":" ++ contentHash) =
      "ev_" ++ sha256Text (sourceRef' ++ ":" ++ contentHash')) :
    sourceRef = sourceRef' ∧ contentHash = contentHash' := by
  have digests : sha256Text (sourceRef ++ ":" ++ contentHash) =
      sha256Text (sourceRef' ++ ":" ++ contentHash') := by
    apply String.toList_injective
    simpa [String.toList_append] using congrArg String.toList same
  have texts := congrArg String.toList (injective digests)
  simp only [String.toList_append] at texts
  simp only [isHex64, Bool.and_eq_true, beq_iff_eq, ← String.length_toList] at hex hex'
  obtain ⟨references, contents⟩ := List.append_inj' texts (hex.1.trans hex'.1.symm)
  exact ⟨String.toList_injective (List.append_cancel_right references),
    String.toList_injective contents⟩

/-- The id of a returned item tells its query and its facts. -/
theorem evidenceId_eq_iff_of_returned
    (returned : Returned (canonicalProvenance repr sha256Text sha256Text_hex) call item)
    (returned' : Returned (canonicalProvenance repr sha256Text sha256Text_hex) call' item')
    (collisionFree : Set.InjOn sha256Text
      (hashedTexts (canonicalProvenance repr sha256Text sha256Text_hex) item ∪
        hashedTexts (canonicalProvenance repr sha256Text sha256Text_hex) item')) :
    item.evidenceId = item'.evidenceId ↔
      call.identity = call'.identity ∧ item.facts = item'.facts := by
  constructor
  · intro ids
    rw [returned.identified, returned'.identified] at ids
    have hex : isHex64 item.contentHash = true := returned.content ▸ sha256Text_hex _
    have hex' : isHex64 item'.contentHash = true := returned'.content ▸ sha256Text_hex _
    obtain ⟨references, contents⟩ := labels_of_evidenceId hex hex'
      (fun same => collisionFree (.inl (.inr rfl)) (.inr (.inr rfl)) same) ids
    rw [returned.source, returned'.source] at references
    rw [returned.content, returned'.content] at contents
    have texts := collisionFree (.inl (.inl rfl)) (.inr (.inl rfl)) contents
    have tool : item.facts.tool = item'.facts.tool :=
      returned.tool.trans ((ToolCall.tool_of_sourceRef references).trans returned'.tool.symm)
    have facts := facts_inj tool returned.dated returned'.dated texts
    obtain ⟨sku, location⟩ := keys_of_facts returned returned' facts
    exact ⟨ToolCall.identity_of_sourceRef sku location references, facts⟩
  · rintro ⟨identity, facts⟩
    rw [returned.identified, returned'.identified, returned.content, returned'.content,
      returned.source, returned'.source, ToolCall.sourceRef_of_identity identity, facts]

end Ids

/-- Two items share their id exactly when they hold the same facts of the same
query; `as_of_ts` has no part in it. -/
theorem evidence_id_eq_iff (repr : FloatRepr) (sha256Text : String → String)
    (sha256Text_hex : ∀ text, isHex64 (sha256Text text) = true)
    (models models' : EvidenceModels) (fixtures fixtures' : Fixtures)
    (manifestVersion manifestVersion' : String) (call call' : ToolCall) (item item' : Evidence)
    (performed : EvidenceTools.perform ⟨canonicalProvenance repr sha256Text sha256Text_hex, models,
      fixtures, manifestVersion⟩ call = .ok item)
    (performed' : EvidenceTools.perform ⟨canonicalProvenance repr sha256Text sha256Text_hex,
      models', fixtures', manifestVersion'⟩ call' = .ok item')
    (collisionFree : Set.InjOn sha256Text
      (hashedTexts (canonicalProvenance repr sha256Text sha256Text_hex) item ∪
        hashedTexts (canonicalProvenance repr sha256Text sha256Text_hex) item')) :
    item.evidenceId = item'.evidenceId ↔
      call.identity = call'.identity ∧ item.facts = item'.facts :=
  evidenceId_eq_iff_of_returned (returned_of_perform performed) (returned_of_perform performed')
    collisionFree

/-! ### The demand of a run -/

/-- The timestamps of a run come from PostgreSQL. -/
structure EvidenceQuery.Readable (query : EvidenceQuery) : Prop where
  windowStart : readableInstant query.windowStart = true
  windowEnd : readableInstant query.windowEnd = true
  asOfTs : readableInstant query.asOfTs = true

/-- The call of `EvidenceTools.demand` for a run, whose timestamps are in UTC. -/
def EvidenceQuery.demandCall (query : EvidenceQuery) (readable : query.Readable) : ToolCall :=
  .demand query.tenantId query.skuId query.storeId (.utc _ readable.windowStart)
    (.utc _ readable.windowEnd) (.utc _ readable.asOfTs)

/-- Two runs ask about the same product, store and window. -/
structure EvidenceQuery.SameDemand (query query' : EvidenceQuery) : Prop where
  tenantId : query.tenantId = query'.tenantId
  skuId : query.skuId = query'.skuId
  storeId : query.storeId = query'.storeId
  windowStart : query.windowStart = query'.windowStart
  windowEnd : query.windowEnd = query'.windowEnd

theorem EvidenceQuery.identity_demandCall {query query' : EvidenceQuery} (readable : query.Readable)
    (readable' : query'.Readable) :
    (query.demandCall readable).identity = (query'.demandCall readable').identity ↔
      query.SameDemand query' := by
  simp only [demandCall, ToolCall.identity, QueryIdentity.mk.injEq, Option.some.injEq,
    Prod.mk.injEq, ZonedDatetime.isoformat_utc_inj, true_and]
  exact ⟨fun ⟨tenant, sku, store, start, stop⟩ => ⟨tenant, sku, store, start, stop⟩,
    fun same => ⟨same.tenantId, same.skuId, same.storeId, same.windowStart, same.windowEnd⟩⟩

section Demand

variable {repr : FloatRepr} {sha256Text : String → String}
  {sha256Text_hex : ∀ text, isHex64 (sha256Text text) = true} {models models' : EvidenceModels}
  {fixtures fixtures' : Fixtures} {manifestVersion manifestVersion' : String}
  {query query' : EvidenceQuery} {item item' : Evidence}

/-- What a run's call returns, the call with its windows in UTC returns. -/
theorem returned_of_demand (readable : query.Readable)
    (answered : EvidenceTools.demand ⟨canonicalProvenance repr sha256Text sha256Text_hex, models,
      fixtures, manifestVersion⟩ query = .ok item) :
    Returned (canonicalProvenance repr sha256Text sha256Text_hex) (query.demandCall readable)
      item := by
  let tools : EvidenceTools :=
    ⟨canonicalProvenance repr sha256Text sha256Text_hex, models, fixtures, manifestVersion⟩
  have printed : ∀ {instant : Timestamp} (readable : readableInstant instant = true),
      tools.provenance.isoformat (ZonedDatetime.utc instant readable).instant =
        (ZonedDatetime.utc instant readable).isoformat := by
    intro instant readable
    rw [ZonedDatetime.instant_utc, ZonedDatetime.isoformat_utc]
    rfl
  have sameItem : tools.demand (query.demandCall readable).query = tools.demand query := by
    simp only [EvidenceQuery.demandCall, ToolCall.query, ZonedDatetime.instant_utc]
    rfl
  have performed : tools.perform (query.demandCall readable) = .ok item :=
    (tools.demandAt_eq_demand (printed readable.windowStart) (printed readable.windowEnd)).trans
      (sameItem.trans answered)
  exact returned_of_perform performed

/-- The demand evidence of two runs has one id exactly when the runs ask about the same
product, store and window, and hold the same facts about it. -/
theorem demand_id_eq_iff (readable : query.Readable) (readable' : query'.Readable)
    (answered : EvidenceTools.demand ⟨canonicalProvenance repr sha256Text sha256Text_hex, models,
      fixtures, manifestVersion⟩ query = .ok item)
    (answered' : EvidenceTools.demand ⟨canonicalProvenance repr sha256Text sha256Text_hex, models',
      fixtures', manifestVersion'⟩ query' = .ok item')
    (collisionFree : Set.InjOn sha256Text
      (hashedTexts (canonicalProvenance repr sha256Text sha256Text_hex) item ∪
        hashedTexts (canonicalProvenance repr sha256Text sha256Text_hex) item')) :
    item.evidenceId = item'.evidenceId ↔ query.SameDemand query' ∧ item.facts = item'.facts := by
  rw [evidenceId_eq_iff_of_returned (returned_of_demand readable answered)
    (returned_of_demand readable' answered') collisionFree, EvidenceQuery.identity_demandCall]

end Demand

/-! ### The same row, on two days and in two stores -/

def emptyShelfStore (other : Bool) : String := if other then "STORE-2" else "STORE-1"

/-- The digests of the facts about a store, and of the label of its item. -/
def emptyShelfLabel (other label : Bool) : String :=
  match other, label with
  | false, false => "4c64c0b5f60f347a4263401c7a506960d29c4236e3d52891c49c9856d416f6fe"
  | false, true => "62bed74f1f183f8cd6c68ef1b671ca0eb6c6653bb5d87246f3f2223ffc40827c"
  | true, false => "0e9077af03e0ad13cf2d7b4403890794290d0bf25f85f99560815cea398e6176"
  | true, true => "70a5392dca65d8ed622ead80faa07afd143d53dc0f5817c50a503aa95eddfa56"

/-- The digests of the source on the texts below, in which the number of the store
stands at one place for the facts, one for the queries and one for the labels. -/
def emptyShelfDigest (text : String) : String :=
  match text.toList[1]?, text.toList[2]? with
  | some '"', some 'o' => emptyShelfLabel (text.toList[80]? = some '2') false
  | some '"', _ =>
      match text.toList[22]?, text.toList[70]? with
      | some '1', some '1' => "321eef63f4e78a28e59ba23443bb0c6c55e5da1e871bce87a8730b110bf9b0cf"
      | some '1', _ => "12bff09102862e3b14c2836130207399cf031f2d40a2c102d2c0c97995e4cd7d"
      | _, some '1' => "55e484265e444ca9c410e836c7fffb32ad0dd24debb7f6f712b4ee9530d09164"
      | _, _ => "b8dfddcd381a9364e857d72be12e58b6e56b98e877b62b932efa03205f9e0e34"
  | _, _ => emptyShelfLabel (text.toList[28]? = some '2') true

theorem emptyShelfLabel_hex (other label : Bool) :
    isHex64 (emptyShelfLabel other label) = true := by
  cases other <;> cases label <;> decide +kernel

theorem emptyShelfDigest_hex (text : String) : isHex64 (emptyShelfDigest text) = true := by
  unfold emptyShelfDigest
  split
  · exact emptyShelfLabel_hex _ _
  · split <;> decide +kernel
  · exact emptyShelfLabel_hex _ _

def emptyShelfRow : InventoryRow := ⟨.finite 0, .finite 0, .finite 0, .at 0, by decide⟩

def emptyShelfTools : EvidenceTools where
  provenance := canonicalProvenance printedFloats emptyShelfDigest emptyShelfDigest_hex
  models := jsonbWire.models .finite exact_nonneg
  fixtures := ⟨fun _ _ _ => some emptyShelfRow, fun _ _ _ _ _ => none, fun _ _ _ => none⟩
  manifestVersion := "v1"

/-- An instant of the first days of 1970, ten hours east of Greenwich. -/
def easternDay (day : Nat) (inMonth : day < 10 ^ 2) : ZonedDatetime where
  civil := ⟨1970, 1, day, 0, 0, 0, 0⟩
  offset := 10 * 3600 * 1000000
  fits := ⟨by simp, by simp, inMonth, by simp, by simp, by simp, by simp⟩
  offset_lt := by decide

def emptyShelfCall (other : Bool) (day : Nat) (inMonth : day < 10 ^ 2) : ToolCall :=
  .inventory "north" "SKU-1" (emptyShelfStore other) (easternDay day inMonth)

def emptyShelfFacts (other : Bool) : EvidenceFacts :=
  .inventory "SKU-1" (emptyShelfStore other) (.finite 0) (.finite 0) (.finite 0) ⟨0, true⟩

def emptyShelfItem (other : Bool) (day : Nat) (inMonth : day < 10 ^ 2) : Evidence :=
  emptyShelfTools.item (emptyShelfCall other day inMonth).query (emptyShelfFacts other) ⟨0, true⟩

theorem emptyShelf_facts (other : Bool) (day : Nat) (inMonth : day < 10 ^ 2) :
    (emptyShelfItem other day inMonth).facts = emptyShelfFacts other := rfl

theorem emptyShelf_performed (other : Bool) (day : Nat) (inMonth : day < 10 ^ 2) :
    emptyShelfTools.perform (emptyShelfCall other day inMonth) =
      .ok (emptyShelfItem other day inMonth) := by
  have source : lengthBetween 1 300 ("inventory:" ++ "north" ++ ":" ++ "SKU-1" ++ ":" ++
      emptyShelfStore other) = true := by
    cases other <;> decide
  have texts : (emptyShelfFacts other).texts.all Prod.snd = true := by cases other <;> decide
  have floats : (emptyShelfFacts other).floats.all emptyShelfTools.models.ge0 = true := by
    cases other <;> decide
  exact @inventory_of_row emptyShelfTools (emptyShelfCall other day inMonth).query emptyShelfRow
    ⟨0, true⟩ rfl rfl (@accepts_item emptyShelfTools (emptyShelfCall other day inMonth).query
      (emptyShelfFacts other) ⟨0, true⟩ floats source (by decide) texts)

/-- The texts that the labels of an item are digests of, the same on every day. -/
def emptyShelfText (other label : Bool) : String :=
  bif label then
    "inventory:" ++ "north" ++ ":" ++ "SKU-1" ++ ":" ++ emptyShelfStore other ++ ":" ++
      emptyShelfTools.provenance.canonicalHash
        ((emptyShelfFacts other).toJson emptyShelfTools.provenance)
  else emptyShelfTools.provenance.canonicalJson
    ((emptyShelfFacts other).toJson emptyShelfTools.provenance)

theorem emptyShelf_hashedTexts (other : Bool) (day : Nat) (inMonth : day < 10 ^ 2) :
    hashedTexts emptyShelfTools.provenance (emptyShelfItem other day inMonth) =
      {emptyShelfText other false, emptyShelfText other true} := by
  simp only [hashedTexts, emptyShelfItem, EvidenceTools.item, EvidenceQuery.sourceRef,
    emptyShelfCall, ToolCall.query, emptyShelfFacts, EvidenceFacts.tool, emptyShelfText, cond_true,
    cond_false]

theorem emptyShelfDigest_text (other label : Bool) :
    emptyShelfDigest (emptyShelfText other label) = emptyShelfLabel other label := by
  cases label with
  | false =>
      revert other
      decide +kernel
  | true =>
      -- the number of the store stands before the digest of the facts
      simp only [emptyShelfText, emptyShelfDigest, cond_true, String.toList_append]
      cases other <;> rfl

theorem emptyShelfLabel_injective : ∀ other label other' label',
    emptyShelfLabel other label = emptyShelfLabel other' label' →
      other = other' ∧ label = label' := by
  decide +kernel

theorem emptyShelf_collisionFree (left right : Bool) : Set.InjOn emptyShelfDigest
    (hashedTexts emptyShelfTools.provenance (emptyShelfItem left 2 (by decide)) ∪
      hashedTexts emptyShelfTools.provenance (emptyShelfItem right 3 (by decide))) := by
  have named : ∀ text ∈ hashedTexts emptyShelfTools.provenance (emptyShelfItem left 2 (by decide)) ∪
      hashedTexts emptyShelfTools.provenance (emptyShelfItem right 3 (by decide)),
      ∃ other label, text = emptyShelfText other label := by
    rw [emptyShelf_hashedTexts, emptyShelf_hashedTexts]
    rintro text ((rfl | rfl) | (rfl | rfl)) <;> exact ⟨_, _, rfl⟩
  intro text member text' member' same
  obtain ⟨other, label, rfl⟩ := named text member
  obtain ⟨other', label', rfl⟩ := named text' member'
  rw [emptyShelfDigest_text, emptyShelfDigest_text] at same
  obtain ⟨rfl, rfl⟩ := emptyShelfLabel_injective _ _ _ _ same
  rfl

/-- The id of an item tells its store, and does not tell on which day it was read. -/
theorem emptyShelf_same_id :
    (emptyShelfItem false 2 (by decide)).evidenceId =
        (emptyShelfItem false 3 (by decide)).evidenceId ∧
      (emptyShelfItem false 2 (by decide)).evidenceId ≠
        (emptyShelfItem true 3 (by decide)).evidenceId := by
  have ids := fun right => evidence_id_eq_iff printedFloats emptyShelfDigest emptyShelfDigest_hex
    emptyShelfTools.models emptyShelfTools.models emptyShelfTools.fixtures emptyShelfTools.fixtures
    "v1" "v1" (emptyShelfCall false 2 (by decide)) (emptyShelfCall right 3 (by decide))
    (emptyShelfItem false 2 (by decide)) (emptyShelfItem right 3 (by decide))
    (emptyShelf_performed false 2 (by decide)) (emptyShelf_performed right 3 (by decide))
    (emptyShelf_collisionFree false right)
  constructor
  · exact (ids false).mpr
      ⟨rfl, (emptyShelf_facts false 2 _).trans (emptyShelf_facts false 3 _).symm⟩
  · intro same
    exact absurd (congrArg QueryIdentity.locationId ((ids true).mp same).1) (by decide)

end StockoutOps.Investigation
