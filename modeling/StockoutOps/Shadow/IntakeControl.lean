import StockoutOps.Shadow.Clients

/-!
Contract: the control of imported cases, `accept_for_m2_05` and `exclude` of
`shadow/intake.py`.

Owns: the transactions on the events of an intake, the two methods, the queries
that the collection reads, and the system of their callers and importers.

Does not own: `import_case`, which is taken from its service.

An event is in the table once its transaction commits. The rows of one kind and
one intake are inserted and committed under one advisory lock, so the order of
their commits is that of their ids.
-/

namespace StockoutOps.Shadow

open StockoutOps.Investigation StockoutOps.Sql StockoutOps.Foundation.Interleaving

/-! ## State -/

/-- The tables, what each session has inserted without committing it, and who
committed which event. -/
structure IntakeWorld where
  base : ShadowWorld
  pending : Tid → Option IntakeEventRow
  committedBy : List (Tid × IntakeEventRow)

/-- The state of `import_case` within the whole. -/
def intakeTables : Component IntakeWorld ShadowWorld where
  get := IntakeWorld.base
  set := fun state base => { state with base := base }
  get_set := fun _ _ => rfl

abbrev ControlAction (ρ : Type) : Type :=
  Tid → Input → IntakeWorld → Option (Except Failure ρ × IntakeWorld)

abbrev ControlRoutine (ρ : Type) : Type 1 := Call Tid Input IntakeWorld Failure ρ

namespace IntakeWorld

/-- What is committed, with the locks. -/
abbrev view (state : IntakeWorld) : ShadowView := state.base.shadow

def withView (state : IntakeWorld) (view : ShadowView) : IntakeWorld :=
  { state with base := { state.base with shadow := view } }

/-- What the transaction of `t` sees of the events. -/
def visible (state : IntakeWorld) (t : Tid) : List IntakeEventRow :=
  state.view.intakeEvents ++ (state.pending t).toList

/-- The transaction of `t` ends with these events in the table. -/
def conclude (state : IntakeWorld) (t : Tid) (events : List IntakeEventRow) : IntakeWorld where
  base :=
    { state.base with
      shadow :=
        { state.view with intakeEvents := state.view.intakeEvents ++ events }.closeSession t }
  pending := Function.update state.pending t none
  committedBy := state.committedBy ++ events.map fun event => (t, event)

/-- The process of `t` dies. -/
def crash (t : Tid) (state : IntakeWorld) : IntakeWorld where
  base := state.base.crash t
  pending := Function.update state.pending t none
  committedBy := state.committedBy

def initial : IntakeWorld := ⟨ShadowWorld.initial, fun _ => none, []⟩

end IntakeWorld

/-! ## Statements -/

/-- `SELECT * FROM shadow_case_intake WHERE intake_id = ... AND tenant_id = ...` -/
def selectIntakeById (intakeId : IntakeId) (tenantId : String) :
    ControlAction (Option ShadowIntakeRow) := fun _ _ state =>
  some (.ok (state.view.intakes.find? fun row =>
    row.intakeId == intakeId && row.tenantId == tenantId), state)

/-- `SELECT pg_advisory_xact_lock(key)` -/
def advisoryXactLock (key : Int) : ControlAction Unit := fun t _ state =>
  if available (state.view.sessionLocks key) t then
    some (.ok (), state.withView (state.view.setLock key (some t)))
  else none

/-- `... WHERE intake_id = ... AND tenant_id = ... AND event_type = ...` -/
def isEventOf (intakeId : IntakeId) (tenantId eventType : String) (event : IntakeEventRow) :
    Bool :=
  event.intakeId == intakeId && event.tenantId == tenantId && event.eventType == eventType

/-- `SELECT ... ORDER BY intake_event_id DESC LIMIT 1` -/
def selectLastEvent (intakeId : IntakeId) (tenantId eventType : String) :
    ControlAction (Option IntakeEventRow) := fun t _ state =>
  some (.ok ((state.visible t).filter (isEventOf intakeId tenantId eventType)).getLast?, state)

/-- `_insert_event` in a transaction. -/
def insertPending (event : IntakeEventRow) : ControlAction Unit := fun t _ state =>
  let inserted : Except SqlError Unit := do
    require (.dataError "invalid input syntax for type json") (event.payload.storable = true)
    require (.foreignKeyViolation "shadow_case_intake_event_intake_id_tenant_id_fkey")
      (state.view.intakeExists event.intakeId event.tenantId = true)
  match inserted with
  | .ok () => some (.ok (), { state with pending := Function.update state.pending t (some event) })
  | .error error => some (.error (.database error), state)

def commit : ControlAction Unit := fun t _ state =>
  some (.ok (), state.conclude t (state.pending t).toList)

def rollback : ControlAction Unit := fun t _ state => some (.ok (), state.conclude t [])

/-! ## The methods -/

def performControl {ρ : Type} (action : ControlAction ρ) : ControlRoutine ρ := Call.exec action

/-- `with connection.transaction():` -/
def transaction {ρ : Type} (body : ControlRoutine ρ) : ControlRoutine ρ := do
  match ← Call.attempt body with
  | .ok value => do
      performControl commit
      pure value
  | .error exception => do
      performControl rollback
      Call.raise exception

/-- `get` -/
def getIntake (principal : Principal) (intakeId : IntakeId) : ControlRoutine ShadowIntakeRow := do
  match ← performControl (selectIntakeById intakeId principal.tenantId) with
  | none => Call.raise (.stockoutOps .notFoundError)
  | some row => pure row

def acceptedForM205 : String := "accepted_for_m2_05"

def excluded : String := "excluded"

/-- `EXCLUSION_REASON_CODES` -/
def exclusionReasonCodes : List String := ["participant_withdrawal", "owner_data_quality_exclusion"]

def controlEvent (principal : Principal) (record : ShadowIntakeRow) (eventType : String)
    (payload : Json) (now : Timestamp) : IntakeEventRow where
  intakeId := record.intakeId
  tenantId := record.tenantId
  eventType := eventType
  actorId := principal.actorId
  payload := payload
  occurredAt := now

def acceptedPayload : Json := .obj [("official_m2_05", .bool true), ("execute", .bool false)]

def exclusionPayload (reason : String) : Json :=
  .obj [("reason", .str reason), ("execute", .bool false)]

def exclusionConflict : Failure :=
  .conflict "SHADOW_INTAKE_EXCLUSION_CONFLICT"
    "Intake was already excluded with a different reason code"

def exclusionReasonInvalid : Failure :=
  .stockoutOps (.validationError "SHADOW_INTAKE_EXCLUSION_REASON_INVALID"
    "Exclusion reason must be an allow-listed non-identifying reason code")

def acceptanceForbidden : Failure :=
  .stockoutOps (.authorizationError "M2-05 acceptance requires the simulated operator role")

def exclusionForbidden : Failure :=
  .stockoutOps (.authorizationError
    "Shadow intake exclusion requires the simulated operator role")

/-- `(payload or {}).get("reason")` -/
def reasonOf (payload : Json) : Option Json := payload.member? "reason"

namespace ShadowService

variable (service : ShadowService)

/-- The lock of the control events of an intake. -/
def controlKey (tenantId : String) (intakeId : IntakeId) : Int :=
  service.lockKey ("shadow-intake-control:" ++ tenantId ++ ":" ++ service.uuidText intakeId)

def acceptForM205 (principal : Principal) (intakeId : IntakeId) (now : Timestamp) :
    ControlRoutine ShadowIntakeRow := do
  let record ← getIntake principal intakeId
  if principal.hasRole "operator" = false then Call.raise acceptanceForbidden
  else
    transaction do
      performControl (advisoryXactLock (service.controlKey principal.tenantId record.intakeId))
      match ← performControl
        (selectLastEvent record.intakeId principal.tenantId acceptedForM205) with
      | some _ => pure record
      | none => do
          performControl
            (insertPending (controlEvent principal record acceptedForM205 acceptedPayload now))
          pure record

def exclude (principal : Principal) (intakeId : IntakeId) (reason : String) (now : Timestamp) :
    ControlRoutine (ShadowIntakeRow × Bool) := do
  let record ← getIntake principal intakeId
  if principal.hasRole "operator" = false then Call.raise exclusionForbidden
  else if reason ∉ exclusionReasonCodes then Call.raise exclusionReasonInvalid
  else
    transaction do
      performControl (advisoryXactLock (service.controlKey principal.tenantId record.intakeId))
      match ← performControl (selectLastEvent record.intakeId principal.tenantId excluded) with
      | some existing =>
          if reasonOf existing.payload ≠ some (.str reason) then Call.raise exclusionConflict
          else pure (record, false)
      | none => do
          performControl
            (insertPending (controlEvent principal record excluded (exclusionPayload reason) now))
          pure (record, true)

end ShadowService

/-! ## What the collection reads -/

/-- `list_all`; `before` is the order of the texts in the database. -/
def listAll (before : String × String × String → String × String × String → Bool)
    (view : ShadowView) : List ShadowIntakeRow :=
  view.intakes.mergeSort fun left right => before left.caseIdentity right.caseIdentity

/-- The intakes that have an event of a kind. -/
def intakesWith (eventType : String) (view : ShadowView) : List IntakeId :=
  ((view.intakeEvents.filter fun event => event.eventType == eventType).map
    (·.intakeId)).dedup

def acceptedIntakeIds (view : ShadowView) : List IntakeId := intakesWith acceptedForM205 view

/-- `str(payload.get("reason", "unspecified"))`; `str` is that of a value that is no text. -/
def reasonText (str : Json → String) (payload : Json) : String :=
  match reasonOf payload with
  | none => "unspecified"
  | some (.str reason) => reason
  | some value => str value

/-- `excluded_intake_ids`: the last reason of each intake. -/
def excludedIntakeIds (str : Json → String) (view : ShadowView) : List (IntakeId × String) :=
  (intakesWith excluded view).mergeSort.filterMap fun intakeId =>
    (view.intakeEvents.filter fun event =>
      event.intakeId == intakeId && event.eventType == excluded).getLast?.map
        fun event => (intakeId, reasonText str event.payload)

/-! ## Callers -/

inductive IntakeCall where
  | importCase (principal : Principal) (case : ShadowCase) (execute : Bool)
  | accept (principal : Principal) (intakeId : IntakeId) (now : Timestamp)
  | exclude (principal : Principal) (intakeId : IntakeId) (reason : String) (now : Timestamp)

inductive IntakeReply where
  | imported (record : ShadowIntakeRow) (created : Bool)
  | accepted (record : ShadowIntakeRow)
  | excluded (record : ShadowIntakeRow) (created : Bool)

/-- The method a call names. -/
def ShadowService.control (service : ShadowService) : IntakeCall → ControlRoutine IntakeReply
  | .importCase principal case execute => do
      let (record, created) ← Call.within intakeTables
        (service.importCase principal case execute)
      pure (.imported record created)
  | .accept principal intakeId now => do
      let record ← service.acceptForM205 principal intakeId now
      pure (.accepted record)
  | .exclude principal intakeId reason now => do
      let (record, created) ← service.exclude principal intakeId reason now
      pure (.excluded record created)

/-- Any calls in any order, by principals of any tenant; a caller may crash between
any two statements, and make its call again. -/
def intakeClients (service : ShadowService) :
    System IntakeCall Tid Input IntakeWorld (Except Failure IntakeReply) where
  body := service.control
  Starts := fun _ _ => True
  Allowed := fun _ _ => True
  Crash := fun t before after => after = before.crash t
  Disturb := fun _ _ => False

abbrev IntakePool := Pool IntakeCall Tid Input IntakeWorld (Except Failure IntakeReply)

end StockoutOps.Shadow
