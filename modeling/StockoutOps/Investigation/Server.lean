import StockoutOps.Foundation.Interleaving
import StockoutOps.Investigation.Reasoning

/-!
Contract: the PostgreSQL server and the processes that talk to it.

Owns: the state that is visible to everybody (`View`), the open transactions
with their row locks and savepoints (`World`), and every statement the
repository executes, as one atomic action that answers, raises or waits.

Does not own: the order of the statements of a repository method.

Isolation is READ COMMITTED: a statement sees the committed rows and the
writes of its own transaction. A row lock is held to the end of its
transaction; an UPDATE or a SELECT FOR UPDATE of a row locked by somebody else
waits and then looks at the row again. An INSERT whose unique key somebody
else has inserted and not committed waits for that transaction. An event takes
its number from the sequence when it is inserted, not when it is committed.
The shared locks of foreign keys are left out, which only allows more orders.
-/

namespace StockoutOps.Investigation

open StockoutOps.Sql StockoutOps.Foundation.Interleaving

/-- A call in progress: its process, thread and connections. -/
abbrev Tid := Nat

/-- What an action may read from outside: the clock, a fresh `uuid4()`, and the
answer of a tool or of the reasoning adapter. -/
structure Input where
  now : Timestamp
  uuid : RunId
  evidence : ToolName → Except Failure Evidence
  reason : List Evidence → Except Failure ReasoningOutcome

/-! ## State -/

/-- A write of a transaction. -/
inductive Write where
  | insertRun (row : RunRow)
  | updateRun (row : RunRow)
  | insertKey (row : KeyRow)
  | insertEvent (row : EventRow)
  | insertDecision (row : DecisionRow)
deriving DecidableEq

def Db.apply (db : Db) : Write → Db
  | .insertRun row => { db with runs := Function.update db.runs row.runId (some row) }
  | .updateRun row => { db with runs := Function.update db.runs row.runId (some row) }
  | .insertKey row => { db with keys := Function.update db.keys row.id (some row) }
  | .insertEvent row => { db with events := db.events ++ [row] }
  | .insertDecision row => { db with decisions := db.decisions ++ [row] }

def Db.applyAll (db : Db) (writes : List Write) : Db := writes.foldl Db.apply db

/-- The dedicated session of a tool claim, and the advisory lock it holds. -/
inductive ClaimConnection where
  | closed
  | held (key : Int)
  | lost
deriving DecidableEq

/-- What is committed, and what lives outside transactions. `commitLog` is the
write-ahead log; `invocations` are the calls that left the process; `claimedBy`
remembers which call inserted a tool row. -/
structure View where
  db : Db
  commitLog : List (Tid × List Write)
  advisory : Int → Option Tid
  claimConnection : Tid → ClaimConnection
  invocations : List (RunId × ToolName)
  claimedBy : RunId → ToolName → Option Tid

/-- The visible state after `t` commits its writes. -/
def View.commit (view : View) (t : Tid) (writes : List Write) : View :=
  { view with
    db := view.db.applyAll writes
    commitLog :=
      if writes.isEmpty then view.commitLog else view.commitLog ++ [(t, writes)] }

/-- `t` takes the free advisory lock `key` on a session of its own. -/
def View.claim (view : View) (t : Tid) (key : Int) : View :=
  { view with
    advisory := Function.update view.advisory key (some t)
    claimConnection := Function.update view.claimConnection t (.held key) }

/-- The session of `t` ends, and with it the advisory lock it holds. -/
def View.endClaim (view : View) (t : Tid) (connection : ClaimConnection) : View :=
  { view with
    advisory :=
      match view.claimConnection t with
      | .held key => Function.update view.advisory key none
      | _ => view.advisory
    claimConnection := Function.update view.claimConnection t connection }

/-- `t` inserts a tool row. -/
def View.insertTool (view : View) (t : Tid) (row : ToolRow) : View :=
  { view with
    db := view.db.setTool row
    claimedBy := Function.update view.claimedBy row.runId
      (Function.update (view.claimedBy row.runId) row.toolName (some t)) }

def View.setTool (view : View) (row : ToolRow) : View :=
  { view with db := view.db.setTool row }

/-- A tool or the reasoning adapter is called on behalf of a run. -/
def View.invoke (view : View) (runId : RunId) (tool : ToolName) : View :=
  { view with invocations := view.invocations ++ [(runId, tool)] }

/-- The writes and locks to go back to. -/
structure Savepoint where
  writes : List Write
  runLocks : RunId → Bool
  keyLocks : KeyId → Bool

structure Tx where
  writes : List Write
  savepoint : Option Savepoint

/-- No transaction is open. -/
def Tx.idle : Tx := ⟨[], none⟩

structure World where
  view : View
  tx : Tid → Tx
  runLock : RunId → Option Tid
  keyLock : KeyId → Option Tid
  nextEventId : Nat

namespace World

/-- What a statement of `t` sees. -/
def ownDb (world : World) (t : Tid) : Db := world.view.db.applyAll (world.tx t).writes

def write (world : World) (t : Tid) (write : Write) : World :=
  { world with
    tx := Function.update world.tx t
      { world.tx t with writes := (world.tx t).writes ++ [write] } }

def lockRun (world : World) (t : Tid) (runId : RunId) : World :=
  { world with runLock := Function.update world.runLock runId (some t) }

def lockKey (world : World) (t : Tid) (key : KeyId) : World :=
  { world with keyLock := Function.update world.keyLock key (some t) }

end World

/-- Nobody else holds the lock. -/
def available (holder : Option Tid) (t : Tid) : Bool :=
  holder == none || holder == some t

/-- Give up the locks of `t` except the `kept` ones. -/
def release {κ : Type} (locks : κ → Option Tid) (t : Tid) (kept : κ → Bool) (key : κ) :
    Option Tid :=
  if locks key = some t ∧ kept key = false then none else locks key

/-! ## Statements -/

abbrev Statement (ρ : Type) : Type := Tid → Input → World → Option (Except Failure ρ × World)

/-- A call of the service or of the repository. -/
abbrev Routine (ρ : Type) : Type 1 := Call Tid Input World Failure ρ

namespace Statement

def clock : Statement Timestamp := fun _ input world => some (.ok input.now, world)

def uuid4 : Statement RunId := fun _ input world => some (.ok input.uuid, world)

/-! ### Transactions -/

def commit : Statement Unit := fun t _ world =>
  some (.ok (),
    { world with
      view := world.view.commit t (world.tx t).writes
      tx := Function.update world.tx t Tx.idle
      runLock := release world.runLock t (fun _ => false)
      keyLock := release world.keyLock t (fun _ => false) })

/-- Forget the open transaction of `t`. -/
def rolledBack (t : Tid) (world : World) : World :=
  { world with
    tx := Function.update world.tx t Tx.idle
    runLock := release world.runLock t (fun _ => false)
    keyLock := release world.keyLock t (fun _ => false) }

def rollback : Statement Unit := fun t _ world => some (.ok (), rolledBack t world)

def savepoint : Statement Unit := fun t _ world =>
  some (.ok (),
    { world with
      tx := Function.update world.tx t
        { world.tx t with
          savepoint := some
            { writes := (world.tx t).writes
              runLocks := fun runId => world.runLock runId == some t
              keyLocks := fun key => world.keyLock key == some t } } })

def releaseSavepoint : Statement Unit := fun t _ world =>
  some (.ok (),
    { world with
      tx := Function.update world.tx t { world.tx t with savepoint := none } })

def rollbackToSavepoint : Statement Unit := fun t _ world =>
  match (world.tx t).savepoint with
  | none => some (.ok (), world)
  | some saved =>
      some (.ok (),
        { world with
          tx := Function.update world.tx t ⟨saved.writes, none⟩
          runLock := release world.runLock t saved.runLocks
          keyLock := release world.keyLock t saved.keyLocks })

/-! ### `investigation_run` -/

def selectRun (tenantId : String) (runId : RunId) : Statement (Option RunRow) :=
  fun t _ world => some (.ok ((world.ownDb t).run? tenantId runId), world)

def selectRunForUpdate (tenantId : String) (runId : RunId) : Statement (Option RunRow) :=
  fun t _ world =>
    match (world.ownDb t).run? tenantId runId with
    | none => some (.ok none, world)
    | some row =>
        if available (world.runLock runId) t then some (.ok (some row), world.lockRun t runId)
        else none

def insertRun (row : RunRow) : Statement RunRow := fun t _ world =>
  match checkAll row.checks with
  | .error error => some (.error (.database error), world)
  | .ok () =>
      if ((world.ownDb t).runs row.runId).isSome then
        some (.error (.database (.uniqueViolation "investigation_run_pkey")), world)
      else if available (world.runLock row.runId) t then
        some (.ok row, (world.lockRun t row.runId).write t (.insertRun row))
      else none

/-- `UPDATE investigation_run SET ... WHERE run_id AND tenant_id AND state AND
state_version RETURNING *`; `set` gives the updated columns. -/
def updateRun (tenantId : String) (runId : RunId) (state : RunState) (version : Nat)
    (set : RunRow → RunRow) : Statement (Option RunRow) := fun t _ world =>
  match (world.ownDb t).run? tenantId runId with
  | none => some (.ok none, world)
  | some row =>
      if row.state = state ∧ row.stateVersion = version then
        if available (world.runLock runId) t then
          match checkAll (set row).checks with
          | .error error => some (.error (.database error), world)
          | .ok () =>
              some (.ok (some (set row)), (world.lockRun t runId).write t (.updateRun (set row)))
        else none
      else some (.ok none, world)

/-! ### `idempotency_key` -/

def selectKey (key : KeyId) : Statement (Option KeyRow) :=
  fun t _ world => some (.ok ((world.ownDb t).keys key), world)

def selectKeyForUpdate (key : KeyId) : Statement (Option KeyRow) := fun t _ world =>
  match (world.ownDb t).keys key with
  | none => some (.ok none, world)
  | some row =>
      if available (world.keyLock key) t then some (.ok (some row), world.lockKey t key)
      else none

/-- `INSERT ... ON CONFLICT (tenant_id, idempotency_key) DO NOTHING RETURNING run_id` -/
def insertKey (row : KeyRow) : Statement (Option RunId) := fun t _ world =>
  match checkAll row.checks with
  | .error error => some (.error (.database error), world)
  | .ok () =>
      if ((world.ownDb t).keys row.id).isSome then some (.ok none, world)
      else if available (world.keyLock row.id) t then
        if ((world.ownDb t).runs row.runId).isSome then
          some (.ok (some row.runId), (world.lockKey t row.id).write t (.insertKey row))
        else some (.error (.database (.foreignKeyViolation "idempotency_key_run_id_fkey")), world)
      else none

/-! ### `workflow_event` -/

/-- The `event_id` of the argument is ignored: the sequence gives it. -/
def insertEvent (event : EventRow) : Statement Unit := fun t _ world =>
  if ((world.ownDb t).runs event.runId).isSome then
    some (.ok (),
      { world.write t (.insertEvent (event.numbered world.nextEventId)) with
        nextEventId := world.nextEventId + 1 })
  else some (.error (.database (.foreignKeyViolation "workflow_event_run_id_fkey")), world)

/-- The events of a run `ORDER BY event_id`. -/
def selectEvents (tenantId : String) (runId : RunId) : Statement (List EventRow) :=
  fun t _ world =>
    some (.ok ((world.ownDb t).auditEvents tenantId runId), world)

/-! ### `review_decision` -/

def selectDecision (tenantId : String) (runId : RunId) : Statement (Option DecisionRow) :=
  fun t _ world =>
    some (.ok ((world.ownDb t).decisions.find?
      (fun decision => decision.runId == runId && decision.tenantId == tenantId)), world)

/-- The foreign key's lock on the run is the row lock here. -/
def insertDecision (row : DecisionRow) : Statement Unit := fun t _ world =>
  match checkAll row.checks with
  | .error error => some (.error (.database error), world)
  | .ok () =>
      if available (world.runLock row.runId) t then
        if ((world.ownDb t).decisionsOf row.runId).isEmpty then
          if ((world.ownDb t).runs row.runId).isSome then
            some (.ok (), (world.lockRun t row.runId).write t (.insertDecision row))
          else
            some (.error (.database (.foreignKeyViolation "review_decision_run_id_fkey")), world)
        else some (.error (.database (.uniqueViolation "review_decision_run_id_key")), world)
      else none

/-! ### `tool_invocation` and the claim's session, which commits every statement -/

/-- Connect and `SELECT pg_advisory_lock(key)`. -/
def lockTool (key : Int) : Statement Unit := fun t _ world =>
  match world.view.advisory key with
  | some _ => none
  | none => some (.ok (), { world with view := world.view.claim t key })

/-- `SELECT pg_advisory_unlock(key)` and close; the session may be gone. -/
def unlockTool : Statement Unit := fun t _ world =>
  some
    (if world.view.claimConnection t = .lost then .error .connectionLost else .ok (),
      { world with view := world.view.endClaim t .closed })

def selectTool (tenantId : String) (runId : RunId) (tool : ToolName) :
    Statement (Option ToolRow) := fun t _ world =>
  if world.view.claimConnection t = .lost then some (.error .connectionLost, world)
  else some (.ok (world.view.db.tool? tenantId runId tool), world)

def insertTool (row : ToolRow) : Statement ToolRow := fun t _ world =>
  if world.view.claimConnection t = .lost then some (.error .connectionLost, world)
  else
    match checkAll row.checks with
    | .error error => some (.error (.database error), world)
    | .ok () =>
        if (world.view.db.tools row.runId row.toolName).isSome then
          some (.error
            (.database (.uniqueViolation "tool_invocation_run_id_tool_name_key")), world)
        else if (world.view.db.runs row.runId).isSome then
          some (.ok row, { world with view := world.view.insertTool t row })
        else
          some (.error (.database (.foreignKeyViolation "tool_invocation_run_id_fkey")), world)

/-- The one UPDATE of `complete_tool` with its commit; the answer is whether a
row matched. A value that is no `jsonb` is refused before any row is looked at. -/
def completeTool (tenantId : String) (runId : RunId) (tool : ToolName) (status : ToolStatus)
    (result : Option Json) (metadata : Json) (now : Timestamp) : Statement Bool :=
  fun _ _ world =>
    if ¬ (nullOr Json.storable result = true ∧ metadata.storable = true) then
      some (.error (.database (.dataError "invalid input syntax for type json")), world)
    else
      match world.view.db.tool? tenantId runId tool with
      | none => some (.ok false, world)
      | some row =>
          some (.ok true,
            { world with
              view := world.view.setTool
                { row with
                  status := status
                  resultJson := result
                  metadataJson := metadata
                  completedAt := some now } })

def getTool (tenantId : String) (runId : RunId) (tool : ToolName) : Statement (Option ToolRow) :=
  fun _ _ world => some (.ok (world.view.db.tool? tenantId runId tool), world)

/-- The `result_json` of the completed evidence rows `ORDER BY tool_name`. -/
def listEvidence (tenantId : String) (runId : RunId) : Statement (List (Option Json)) :=
  fun _ _ world => some (.ok (world.view.db.evidencePayloads tenantId runId), world)

/-! ### Calls that leave the process -/

def invokeTool (runId : RunId) (tool : ToolName) : Statement Evidence := fun _ input world =>
  some (input.evidence tool, { world with view := world.view.invoke runId tool })

def invokeReasoning (runId : RunId) (evidence : List Evidence) : Statement ReasoningOutcome :=
  fun _ input world =>
    some (input.reason evidence, { world with view := world.view.invoke runId .reasoning })

end Statement

/-! ## Crashes and lost sessions -/

/-- The process of `t` dies: its transaction is rolled back, its session ends. -/
def World.crash (t : Tid) (world : World) : World :=
  { Statement.rolledBack t world with view := world.view.endClaim t .closed }

/-- The session that holds the advisory lock of `t` ends; `t` does not notice. -/
def World.loseClaim (t : Tid) (world : World) : World :=
  { world with view := world.view.endClaim t .lost }

end StockoutOps.Investigation
