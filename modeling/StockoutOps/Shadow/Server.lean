import StockoutOps.Foundation.Component
import StockoutOps.Investigation.Repository
import StockoutOps.Shadow.Comparison
import StockoutOps.Shadow.Statements

/-!
Contract: the database of shadow processing, next to that of investigations.

Owns: the tables of migrations 0004 and 0005, the sessions with their advisory
locks, and every statement of the shadow repositories as one atomic action that
answers, raises or waits.

Does not own: the statements on the tables of an investigation.

The connection of a claim commits every statement; `complete` is one
transaction on a row that no other caller may touch, and is one action here.
The lock of a shadow identity and that of an evidence tool are hashes of
different names and are kept apart.
-/

namespace StockoutOps.Shadow

open StockoutOps.Investigation StockoutOps.Sql StockoutOps.Foundation.Interleaving

/-! ## Tables -/

/-- `shadow_control_event` -/
structure ShadowEventRow where
  shadowRunId : ShadowRunId
  tenantId : String
  eventType : String
  actorId : String
  payload : Json
  occurredAt : Timestamp
deriving DecidableEq

/-- `shadow_diff` -/
structure ShadowDiffRow where
  shadowRunId : ShadowRunId
  tenantId : String
  fieldName : String
  agreement : Agreement
  expectedJson : Json
  actualJson : Json
  category : String
  createdAt : Timestamp
deriving DecidableEq

def ShadowDiffRow.checks (row : ShadowDiffRow) : List (String × Bool) :=
  [("field_name", notEmpty row.fieldName), ("category", notEmpty row.category)]

abbrev IntakeId := Nat

/-- `shadow_case_intake` -/
structure ShadowIntakeRow where
  intakeId : IntakeId
  tenantId : String
  caseId : String
  caseVersion : String
  caseContractVersion : String
  payloadHash : String
  provenanceLabel : ProvenanceLabel
  baselineSource : BaselineSource
  deidentificationStatus : DeidentificationStatus
  consentDataUseStatus : ConsentDataUseStatus
  consentDataUseReference : Option String
  category : String
  execute : Bool
  externalActionCount : Int
  caseJson : Json
  createdBy : String
  createdAt : Timestamp
deriving DecidableEq

/-- The CHECKs, with the NOT NULL of the one column whose value may be absent. -/
def ShadowIntakeRow.checks (row : ShadowIntakeRow) : List (String × Bool) :=
  [("case_id", notEmpty row.caseId), ("case_version", notEmpty row.caseVersion),
    ("case_contract_version", row.caseContractVersion == Shadow.caseContractVersion),
    ("payload_hash", isHex64 row.payloadHash),
    ("provenance_label", row.provenanceLabel == .genuineUatAnalystLabelled),
    ("baseline_source", row.baselineSource == .analystReference),
    ("deidentification_status", row.deidentificationStatus == .deidentifiedOwnerAttested),
    ("consent_data_use_status", row.consentDataUseStatus == .ownerAttestedConsentHeldOffline),
    ("consent_data_use_reference", row.consentDataUseReference.any isConsentReference),
    ("category", notEmpty row.category), ("execute", !row.execute),
    ("external_action_count", row.externalActionCount == 0)]

/-- `(tenant_id, case_id, case_version)` -/
def ShadowIntakeRow.caseIdentity (row : ShadowIntakeRow) : String × String × String :=
  (row.tenantId, row.caseId, row.caseVersion)

/-- `shadow_case_intake_event` -/
structure IntakeEventRow where
  intakeId : IntakeId
  tenantId : String
  eventType : String
  actorId : String
  payload : Json
  occurredAt : Timestamp
deriving DecidableEq

/-! ## State -/

/-- A row whose first event its creator has not inserted yet. -/
inductive Unrecorded where
  | run (shadowRunId : ShadowRunId)
  | intake (intakeId : IntakeId)
deriving DecidableEq

/-- What is committed, the advisory locks of the sessions, and the claims that
callers hold. `unrecorded` remembers what a caller has inserted without its
event, `completedBy` the caller that completed a run. -/
structure ShadowView where
  runs : List ShadowRunRow
  diffs : List ShadowDiffRow
  events : List ShadowEventRow
  intakes : List ShadowIntakeRow
  intakeEvents : List IntakeEventRow
  sessionLocks : Int → Option Tid
  claims : Tid → Option ShadowRunId
  unrecorded : Tid → Option Unrecorded
  completedBy : ShadowRunId → Option Tid

structure ShadowWorld where
  world : World
  shadow : ShadowView

/-- The database of investigations within the whole. -/
def investigations : Component ShadowWorld World where
  get := ShadowWorld.world
  set := fun state world => { state with world := world }
  get_set := fun _ _ => rfl

abbrev ShadowAction (ρ : Type) : Type :=
  Tid → Input → ShadowWorld → Option (Except Failure ρ × ShadowWorld)

/-- A call of the shadow services or of their repositories. -/
abbrev ShadowRoutine (ρ : Type) : Type 1 := Call Tid Input ShadowWorld Failure ρ

/-- A call of the investigation service on behalf of shadow processing. -/
def onInvestigations {ρ : Type} (routine : Routine ρ) : ShadowRoutine ρ :=
  Call.within investigations routine

/-- What a rejected statement raises. -/
def answerOf {ρ : Type} (world : ShadowWorld) :
    Except SqlError (ρ × ShadowWorld) → Option (Except Failure ρ × ShadowWorld)
  | .ok (value, after) => some (.ok value, after)
  | .error error => some (.error (.database error), world)

namespace ShadowView

/-- The runs that an identity resolves to. -/
def resolve (view : ShadowView) (tenantId idempotencyKey caseId caseVersion
    processorVersion : String) : List ShadowRunRow :=
  view.runs.filter fun row => row.tenantId = tenantId ∧
    (row.idempotencyKey = idempotencyKey ∨
      row.caseId = caseId ∧ row.caseVersion = caseVersion ∧
        row.processorVersion = processorVersion)

def runExists (view : ShadowView) (shadowRunId : ShadowRunId) (tenantId : String) : Bool :=
  view.runs.any fun row => row.shadowRunId == shadowRunId && row.tenantId == tenantId

def intakeExists (view : ShadowView) (intakeId : IntakeId) (tenantId : String) : Bool :=
  view.intakes.any fun row => row.intakeId == intakeId && row.tenantId == tenantId

/-! ### What a statement of `t` makes of it -/

section Updates

variable (view : ShadowView) (t : Tid)

def setLock (key : Int) (holder : Option Tid) : ShadowView :=
  { view with sessionLocks := Function.update view.sessionLocks key holder }

def setClaim (claim : Option ShadowRunId) : ShadowView :=
  { view with claims := Function.update view.claims t claim }

/-- The locks and the claim of `t` are gone. -/
def closeSession : ShadowView :=
  { view with
    sessionLocks := fun key =>
      if view.sessionLocks key = some t then none else view.sessionLocks key
    claims := Function.update view.claims t none }

/-- A run is there, its event is not. -/
def addRun (row : ShadowRunRow) : ShadowView :=
  { view with
    runs := view.runs ++ [row]
    unrecorded := Function.update view.unrecorded t (some (.run row.shadowRunId)) }

def addEvent (event : ShadowEventRow) : ShadowView :=
  { view with
    events := view.events ++ [event]
    unrecorded := Function.update view.unrecorded t none }

/-- An intake is there, its event is not. -/
def addIntake (row : ShadowIntakeRow) : ShadowView :=
  { view with
    intakes := view.intakes ++ [row]
    unrecorded := Function.update view.unrecorded t (some (.intake row.intakeId)) }

def addIntakeEvent (event : IntakeEventRow) : ShadowView :=
  { view with
    intakeEvents := view.intakeEvents ++ [event]
    unrecorded := Function.update view.unrecorded t none }

/-- A run has its outcome, its diffs and its event. -/
def addCompletion (shadowRunId : ShadowRunId) (runs : List ShadowRunRow)
    (diffs : List ShadowDiffRow) (event : ShadowEventRow) : ShadowView :=
  { view with
    runs := runs
    diffs := view.diffs ++ diffs
    events := view.events ++ [event]
    completedBy := Function.update view.completedBy shadowRunId (some t) }

end Updates

end ShadowView

namespace ShadowAction

/-! ## Statements -/

def clock : ShadowAction Timestamp := fun _ input state => some (.ok input.now, state)

def uuid4 : ShadowAction ShadowRunId := fun _ input state => some (.ok input.uuid, state)

/-! ### Sessions -/

/-- `SELECT pg_advisory_lock(key)`; a session may take its own lock again. -/
def advisoryLock (key : Int) : ShadowAction Unit := fun t _ state =>
  if available (state.shadow.sessionLocks key) t then
    some (.ok (), { state with shadow := state.shadow.setLock key (some t) })
  else none

/-- `SELECT pg_advisory_unlock(key)`; a lock that the session does not hold stays. -/
def advisoryUnlock (key : Int) : ShadowAction Unit := fun t _ state =>
  if state.shadow.sessionLocks key = some t then
    some (.ok (), { state with shadow := state.shadow.setLock key none })
  else some (.ok (), state)

/-- `connection.close()` -/
def close : ShadowAction Unit := fun t _ state =>
  some (.ok (), { state with shadow := state.shadow.closeSession t })

/-- `ShadowClaim(connection, keys)` -/
def openClaim (shadowRunId : ShadowRunId) : ShadowAction Unit := fun t _ state =>
  some (.ok (), { state with shadow := state.shadow.setClaim t (some shadowRunId) })

/-- `self._released = True` -/
def markReleased : ShadowAction Unit := fun t _ state =>
  some (.ok (), { state with shadow := state.shadow.setClaim t none })

/-! ### `shadow_run` and `shadow_control_event` -/

/-- `SELECT * FROM shadow_run WHERE ... ORDER BY shadow_run_id` -/
def selectShadowRuns (tenantId idempotencyKey caseId caseVersion processorVersion : String) :
    ShadowAction (List ShadowRunRow) := fun _ _ state =>
  some (.ok ((state.shadow.resolve tenantId idempotencyKey caseId caseVersion
    processorVersion).mergeSort (fun left right => left.shadowRunId ≤ right.shadowRunId)), state)

/-- The INSERT that starts a run. -/
def insertStarted (row : ShadowRunRow) : ShadowAction ShadowRunRow := fun t _ state =>
  answerOf state do
    let _ ← insertShadowRun state.world.view.db state.shadow.runs row
    .ok (row, { state with shadow := state.shadow.addRun t row })

/-- What an INSERT into `shadow_control_event` asks for. -/
def eventAdmitted (view : ShadowView) (event : ShadowEventRow) : Except SqlError Unit := do
  require (.dataError "invalid input syntax for type json") (event.payload.storable = true)
  require (.foreignKeyViolation "shadow_control_event_shadow_run_id_tenant_id_fkey")
    (view.runExists event.shadowRunId event.tenantId = true)

/-- `_insert_event` of the run repository. -/
def insertShadowEvent (event : ShadowEventRow) : ShadowAction Unit := fun t _ state =>
  answerOf state do
    eventAdmitted state.shadow event
    .ok ((), { state with shadow := state.shadow.addEvent t event })

/-- `(shadow_run_id, field_name)` -/
def diffKey (row : ShadowDiffRow) : ShadowRunId × String := (row.shadowRunId, row.fieldName)

/-- A row of an INSERT into `shadow_diff` that already holds `diffs`. -/
def diffAdmitted (view : ShadowView) (diffs : List ShadowDiffRow) (row : ShadowDiffRow) :
    Except SqlError Unit := do
  require (.dataError "invalid input syntax for type json")
    (row.expectedJson.storable = true ∧ row.actualJson.storable = true)
  checkAll row.checks
  require (.uniqueViolation "shadow_diff_shadow_run_id_field_name_key")
    (diffKey row ∉ diffs.map diffKey)
  require (.foreignKeyViolation "shadow_diff_shadow_run_id_tenant_id_fkey")
    (view.runExists row.shadowRunId row.tenantId = true)

/-- `executemany` -/
def diffsAdmitted (view : ShadowView) (diffs : List ShadowDiffRow) :
    List ShadowDiffRow → Except SqlError Unit
  | [] => .ok ()
  | row :: rest => do
      diffAdmitted view diffs row
      diffsAdmitted view (diffs ++ [row]) rest

/-- The SET clause of `complete`. -/
structure Completion where
  outcome : ShadowRunOutcome
  diffs : List ShadowDiffRow
  event : ShadowEventRow

/-- The columns of an UPDATE that are `jsonb`. -/
def storableOutcome (outcome : ShadowRunOutcome) : Bool :=
  nullOr Json.storable outcome.outputJson && nullOr Json.storable outcome.diffJson

/-- The transaction of `complete` on the row it selects; no row is not an error
of the statement. -/
def completeShadowRun (tenantId : String) (shadowRunId : ShadowRunId) (completion : Completion) :
    ShadowAction (Option ShadowRunRow) := fun t _ state =>
  let selected := fun row : ShadowRunRow =>
    row.shadowRunId == shadowRunId && row.tenantId == tenantId && row.status == .started
  let set := fun row : ShadowRunRow => { row with toShadowRunOutcome := completion.outcome }
  answerOf state do
    require (.dataError "invalid input syntax for type json")
      (storableOutcome completion.outcome = true)
    let runs ← updateShadowRun state.world.view.db selected set state.shadow.runs
    match state.shadow.runs.find? selected with
    | none => .ok (none, state)
    | some row => do
        let view := { state.shadow with runs := runs }
        diffsAdmitted view view.diffs completion.diffs
        eventAdmitted view completion.event
        .ok (some (set row),
          { state with
            shadow := view.addCompletion t shadowRunId runs completion.diffs completion.event })

/-! ### `shadow_case_intake` and its events -/

def selectIntake (tenantId caseId caseVersion : String) :
    ShadowAction (Option ShadowIntakeRow) := fun _ _ state =>
  some (.ok (state.shadow.intakes.find? fun row =>
    row.caseIdentity == (tenantId, caseId, caseVersion)), state)

def insertIntake (row : ShadowIntakeRow) : ShadowAction ShadowIntakeRow :=
  fun t _ state =>
    answerOf state do
      require (.dataError "invalid input syntax for type json") (row.caseJson.storable = true)
      checkAll row.checks
      require (.uniqueViolation "shadow_case_intake_pkey")
        (row.intakeId ∉ state.shadow.intakes.map (·.intakeId))
      require (.uniqueViolation "shadow_case_intake_tenant_id_case_id_case_version_key")
        (row.caseIdentity ∉ state.shadow.intakes.map (·.caseIdentity))
      .ok (row, { state with shadow := state.shadow.addIntake t row })

/-- `_insert_event` of the intake repository. -/
def insertIntakeEvent (event : IntakeEventRow) : ShadowAction Unit := fun t _ state =>
  answerOf state do
    require (.dataError "invalid input syntax for type json") (event.payload.storable = true)
    require (.foreignKeyViolation "shadow_case_intake_event_intake_id_tenant_id_fkey")
      (state.shadow.intakeExists event.intakeId event.tenantId = true)
    .ok ((), { state with shadow := state.shadow.addIntakeEvent t event })

end ShadowAction

/-! ## Crashes -/

/-- The process of `t` dies: its sessions end, and with them its locks. -/
def ShadowWorld.crash (t : Tid) (state : ShadowWorld) : ShadowWorld where
  world := state.world.crash t
  shadow := state.shadow.closeSession t

def ShadowView.empty : ShadowView where
  runs := []
  diffs := []
  events := []
  intakes := []
  intakeEvents := []
  sessionLocks := fun _ => none
  claims := fun _ => none
  unrecorded := fun _ => none
  completedBy := fun _ => none

end StockoutOps.Shadow
