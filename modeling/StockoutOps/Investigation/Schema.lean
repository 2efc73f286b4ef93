import Mathlib.Logic.Function.Basic
import StockoutOps.Identity
import StockoutOps.Investigation.StateMachine
import StockoutOps.Json
import StockoutOps.Sql

/-!
Contract: the tables of the investigation schema.

Owns: the rows of `investigation_run`, `workflow_event`, `idempotency_key`,
`tool_invocation` and `review_decision`, their CHECK constraints, and how the
contents of the tables may evolve (`Db.Evolves`).

Does not own: the statements, locks and transactions.

A table whose primary or unique key is read by key is a map on that key; the
append-only log and the decisions are lists. Stored JSON values are the ones a
`jsonb` column can hold; the tool results are checked, since they come from
outside.
-/

namespace StockoutOps.Investigation

open StockoutOps.Sql

/-- `(tenant_id, idempotency_key)` -/
abbrev KeyId := String × String

abbrev RunId := Nat

inductive RunMode where
  | humanReview
  | shadow
deriving DecidableEq, Repr

inductive ToolName where
  | inventory
  | salesDemand
  | supplier
  | reasoning
deriving DecidableEq, Repr

namespace ToolName

def value : ToolName → String
  | .inventory => "T1_inventory"
  | .salesDemand => "T2_sales_demand"
  | .supplier => "T3_supplier"
  | .reasoning => "reasoning"

/-- The tools of `list_evidence`, in the order of their names. -/
def evidenceTools : List ToolName := [.inventory, .salesDemand, .supplier]

end ToolName

inductive ToolStatus where
  | started
  | completed
  | failed
deriving DecidableEq, Repr

inductive ReviewAction where
  | approve
  | editApprove
  | reject
  | escalate
deriving DecidableEq, Repr

def ReviewAction.value : ReviewAction → String
  | .approve => "approve"
  | .editApprove => "edit_approve"
  | .reject => "reject"
  | .escalate => "escalate"

/-! ## Rows -/

/-- A row of `investigation_run`, and the `RunRecord` read from it. -/
structure RunRow where
  runId : RunId
  tenantId : String
  requestedBy : String
  assignedReviewerId : String
  skuId : String
  storeId : String
  supplierId : String
  asOfTs : Timestamp
  windowStart : Timestamp
  windowEnd : Timestamp
  requestHash : String
  runMode : RunMode
  state : RunState
  stateVersion : Nat
  draftJson : Option Json
  draftHash : Option String
  draftCreatedAt : Option Timestamp
  reviewExpiresAt : Option Timestamp
  createdAt : Timestamp
  updatedAt : Timestamp
deriving DecidableEq

structure EventRow where
  eventId : Nat
  runId : RunId
  tenantId : String
  eventType : String
  fromState : Option RunState
  toState : Option RunState
  actorId : String
  payload : Json
  occurredAt : Timestamp
deriving DecidableEq

/-- `event["to_state"] is not None and event["to_state"] != event["from_state"]` -/
def EventRow.genuine (event : EventRow) : Bool :=
  event.toState.isSome && event.toState != event.fromState

/-- The event under the number the sequence gave it. -/
def EventRow.numbered (event : EventRow) (eventId : Nat) : EventRow :=
  { event with eventId := eventId }

@[simp] theorem EventRow.genuine_numbered (event : EventRow) (eventId : Nat) :
    (event.numbered eventId).genuine = event.genuine := rfl

structure KeyRow where
  tenantId : String
  idempotencyKey : String
  payloadHash : String
  runId : RunId
  createdAt : Timestamp
deriving DecidableEq

def KeyRow.id (row : KeyRow) : KeyId := (row.tenantId, row.idempotencyKey)

structure ToolRow where
  runId : RunId
  tenantId : String
  toolName : ToolName
  requestHash : String
  status : ToolStatus
  resultJson : Option Json
  metadataJson : Json
  createdAt : Timestamp
  completedAt : Option Timestamp
deriving DecidableEq

structure DecisionRow where
  runId : RunId
  tenantId : String
  idempotencyKey : String
  action : ReviewAction
  reviewerId : String
  originalDraft : Json
  originalDraftHash : Option String
  editedPayload : Option Json
  editedPayloadHash : Option String
  reason : Option String
  decidedAt : Timestamp
deriving DecidableEq

/-! ## CHECK constraints -/

/-- `length(value) > 0` -/
def notEmpty (value : String) : Bool := 0 < value.length

/-- The first two entries are what the driver and the column types refuse. -/
def RunRow.checks (row : RunRow) : List (String × Bool) :=
  [("text", [row.tenantId, row.requestedBy, row.assignedReviewerId, row.skuId, row.storeId,
      row.supplierId].all storableText),
    ("timestamptz", [row.asOfTs, row.windowStart, row.windowEnd].all readableInstant),
    ("sku_id", notEmpty row.skuId), ("store_id", notEmpty row.storeId),
    ("supplier_id", notEmpty row.supplierId), ("request_hash", isHex64 row.requestHash),
    ("draft_hash", nullOr isHex64 row.draftHash)]

def KeyRow.checks (row : KeyRow) : List (String × Bool) :=
  [("text", storableText row.idempotencyKey),
    ("idempotency_key", lengthBetween 1 200 row.idempotencyKey),
    ("payload_hash", isHex64 row.payloadHash)]

def ToolRow.checks (row : ToolRow) : List (String × Bool) :=
  [("request_hash", isHex64 row.requestHash)]

/-- The last entry is the column's NOT NULL. -/
def DecisionRow.checks (row : DecisionRow) : List (String × Bool) :=
  [("idempotency_key", lengthBetween 1 200 row.idempotencyKey),
    ("original_draft_hash", nullOr isHex64 row.originalDraftHash),
    ("edited_payload_hash", nullOr isHex64 row.editedPayloadHash),
    ("original_draft_hash", row.originalDraftHash.isSome)]

/-! ## The database -/

structure Db where
  runs : RunId → Option RunRow
  events : List EventRow
  keys : KeyId → Option KeyRow
  tools : RunId → ToolName → Option ToolRow
  decisions : List DecisionRow

/-- The database after the migrations. -/
def Db.empty : Db := ⟨fun _ => none, [], fun _ => none, fun _ _ => none, []⟩

/-- The transitions of a run in the order of their commits. -/
def Db.transitionsOf (db : Db) (runId : RunId) : List EventRow :=
  db.events.filter (fun event => event.runId == runId && event.genuine)

/-- What `audit` reads: the events of a run `ORDER BY event_id`. -/
def Db.auditEvents (db : Db) (tenantId : String) (runId : RunId) : List EventRow :=
  (db.events.filter (fun event => event.runId == runId && event.tenantId == tenantId)).mergeSort
    (fun left right => left.eventId ≤ right.eventId)

def Db.decisionsOf (db : Db) (runId : RunId) : List DecisionRow :=
  db.decisions.filter (fun decision => decision.runId == runId)

/-- `WHERE run_id = %s AND tenant_id = %s` on `investigation_run`. -/
def Db.run? (db : Db) (tenantId : String) (runId : RunId) : Option RunRow :=
  (db.runs runId).filter (fun row => row.tenantId == tenantId)

def Db.tool? (db : Db) (tenantId : String) (runId : RunId) (tool : ToolName) : Option ToolRow :=
  (db.tools runId tool).filter (fun row => row.tenantId == tenantId)

def Db.setTool (db : Db) (row : ToolRow) : Db :=
  { db with
    tools := Function.update db.tools row.runId
      (Function.update (db.tools row.runId) row.toolName (some row)) }

/-- The `result_json` of the completed evidence rows, in the order of the tool names. -/
def Db.evidencePayloads (db : Db) (tenantId : String) (runId : RunId) : List (Option Json) :=
  ((ToolName.evidenceTools.filterMap (db.tool? tenantId runId)).filter
    (fun row => row.status == .completed)).map ToolRow.resultJson

theorem Db.run?_eq_some {db : Db} {tenantId : String} {runId : RunId} {row : RunRow} :
    db.run? tenantId runId = some row ↔ db.runs runId = some row ∧ row.tenantId = tenantId := by
  simp [Db.run?, Option.filter_eq_some_iff]

theorem Db.tool?_eq_some {db : Db} {tenantId : String} {runId : RunId} {tool : ToolName}
    {row : ToolRow} :
    db.tool? tenantId runId tool = some row ↔
      db.tools runId tool = some row ∧ row.tenantId = tenantId := by
  simp [Db.tool?, Option.filter_eq_some_iff]

/-- Every row is filed under its own key, and the runs pass their CHECKs. -/
structure Db.Keyed (db : Db) : Prop where
  runs : ∀ runId row, db.runs runId = some row → row.runId = runId
  checked : ∀ runId row, db.runs runId = some row → checkAll row.checks = .ok ()
  keys : ∀ key row, db.keys key = some row → row.id = key
  tools : ∀ runId tool row, db.tools runId tool = some row →
    row.runId = runId ∧ row.toolName = tool

theorem Db.Keyed.setTool {db : Db} (keyed : db.Keyed) (row : ToolRow) : (db.setTool row).Keyed where
  runs := keyed.runs
  checked := keyed.checked
  keys := keyed.keys
  tools := by
    intro runId tool other found
    by_cases sameRun : runId = row.runId
    · subst sameRun
      by_cases sameTool : tool = row.toolName
      · subst sameTool
        obtain rfl : row = other := by simpa [Db.setTool] using found
        exact ⟨rfl, rfl⟩
      · exact keyed.tools _ _ _ (by simpa [Db.setTool, Function.update_of_ne sameTool] using found)
    · exact keyed.tools _ _ _ (by simpa [Db.setTool, Function.update_of_ne sameRun] using found)

@[simp] theorem Db.tools_setTool_self (db : Db) (row : ToolRow) :
    (db.setTool row).tools row.runId row.toolName = some row := by
  simp [Db.setTool]

theorem Db.tools_setTool_of_ne {db : Db} {row : ToolRow} {runId : RunId} {tool : ToolName}
    (other : (runId, tool) ≠ (row.runId, row.toolName)) :
    (db.setTool row).tools runId tool = db.tools runId tool := by
  by_cases sameRun : runId = row.runId
  · subst sameRun
    have different : tool ≠ row.toolName := fun same => other (by rw [same])
    simp [Db.setTool, Function.update_of_ne different]
  · simp [Db.setTool, Function.update_of_ne sameRun]

/-! ## How the tables evolve -/

/-- The columns of a run that no statement updates. -/
structure RunRow.SameRun (old new : RunRow) : Prop where
  runId : new.runId = old.runId
  tenantId : new.tenantId = old.tenantId
  requestedBy : new.requestedBy = old.requestedBy
  assignedReviewerId : new.assignedReviewerId = old.assignedReviewerId
  skuId : new.skuId = old.skuId
  storeId : new.storeId = old.storeId
  supplierId : new.supplierId = old.supplierId
  asOfTs : new.asOfTs = old.asOfTs
  windowStart : new.windowStart = old.windowStart
  windowEnd : new.windowEnd = old.windowEnd
  requestHash : new.requestHash = old.requestHash
  runMode : new.runMode = old.runMode
  createdAt : new.createdAt = old.createdAt

theorem RunRow.SameRun.refl (row : RunRow) : row.SameRun row :=
  ⟨rfl, rfl, rfl, rfl, rfl, rfl, rfl, rfl, rfl, rfl, rfl, rfl, rfl⟩

theorem RunRow.SameRun.trans {first second third : RunRow} (left : first.SameRun second)
    (right : second.SameRun third) : first.SameRun third where
  runId := right.runId.trans left.runId
  tenantId := right.tenantId.trans left.tenantId
  requestedBy := right.requestedBy.trans left.requestedBy
  assignedReviewerId := right.assignedReviewerId.trans left.assignedReviewerId
  skuId := right.skuId.trans left.skuId
  storeId := right.storeId.trans left.storeId
  supplierId := right.supplierId.trans left.supplierId
  asOfTs := right.asOfTs.trans left.asOfTs
  windowStart := right.windowStart.trans left.windowStart
  windowEnd := right.windowEnd.trans left.windowEnd
  requestHash := right.requestHash.trans left.requestHash
  runMode := right.runMode.trans left.runMode
  createdAt := right.createdAt.trans left.createdAt

/-- What every statement of the repository respects: runs keep their identity,
keys are never changed, tool rows never go away, and the event log and the
decisions only grow. -/
structure Db.Evolves (old new : Db) : Prop where
  runs : ∀ runId row, old.runs runId = some row →
    ∃ row', new.runs runId = some row' ∧ row.SameRun row'
  keys : ∀ key row, old.keys key = some row → new.keys key = some row
  tools : ∀ runId tool row, old.tools runId tool = some row →
    ∃ row', new.tools runId tool = some row' ∧ row'.tenantId = row.tenantId
  events : ∃ added, new.events = old.events ++ added
  decisions : ∃ added, new.decisions = old.decisions ++ added

theorem Db.Evolves.refl (db : Db) : db.Evolves db where
  runs := fun _ row found => ⟨row, found, .refl row⟩
  keys := fun _ _ found => found
  tools := fun _ _ row found => ⟨row, found, rfl⟩
  events := ⟨[], by simp⟩
  decisions := ⟨[], by simp⟩

theorem Db.Evolves.trans {first second third : Db} (left : first.Evolves second)
    (right : second.Evolves third) : first.Evolves third where
  runs := by
    intro runId row found
    obtain ⟨row', found', same⟩ := left.runs runId row found
    obtain ⟨row'', found'', same'⟩ := right.runs runId row' found'
    exact ⟨row'', found'', same.trans same'⟩
  keys := fun key row found => right.keys key row (left.keys key row found)
  tools := by
    intro runId tool row found
    obtain ⟨row', found', tenant⟩ := left.tools runId tool row found
    obtain ⟨row'', found'', tenant'⟩ := right.tools runId tool row' found'
    exact ⟨row'', found'', tenant'.trans tenant⟩
  events := by
    obtain ⟨added, events⟩ := left.events
    obtain ⟨added', events'⟩ := right.events
    exact ⟨added ++ added', by rw [events', events, List.append_assoc]⟩
  decisions := by
    obtain ⟨added, decisions⟩ := left.decisions
    obtain ⟨added', decisions'⟩ := right.decisions
    exact ⟨added ++ added', by rw [decisions', decisions, List.append_assoc]⟩

end StockoutOps.Investigation
