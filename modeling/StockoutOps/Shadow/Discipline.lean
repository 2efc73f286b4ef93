import StockoutOps.Foundation.Announcement
import StockoutOps.Shadow.Actions

/-!
Contract: what the callers of shadow processing owe each other.

Owns: the invariant of the shadow tables with their locks and claims, what a
caller relies on, the discipline over the whole database, and that every
update of the view keeps it.

Does not own: the callers, and the discipline of the investigation tables,
which is a parameter.
-/

namespace StockoutOps.Shadow

open StockoutOps.Investigation StockoutOps.Sql StockoutOps.Foundation.Interleaving
open StockoutOps.Foundation.Announcement

/-! ## The invariant -/

/-- The name of the lock of a case. -/
def ShadowRunControl.caseLockName (row : ShadowRunControl) : String :=
  "shadow:case:" ++ row.tenantId ++ ":" ++ row.caseId ++ ":" ++ row.caseVersion ++ ":" ++
    row.processorVersion

namespace ShadowView

def runIds (view : ShadowView) : List ShadowRunId := view.runs.map (·.shadowRunId)

def intakeIds (view : ShadowView) : List IntakeId := view.intakes.map (·.intakeId)

/-- The runs of the `shadow_run_started` events. -/
def startedRuns (view : ShadowView) : List ShadowRunId :=
  (view.events.filter (fun event => event.eventType == "shadow_run_started")).map (·.shadowRunId)

/-- The intakes of the `shadow_intake_imported` events. -/
def importedIntakes (view : ShadowView) : List IntakeId :=
  (view.intakeEvents.filter (fun event => event.eventType == "shadow_intake_imported")).map
    (·.intakeId)

def owesRun (view : ShadowView) (t : Tid) : Option ShadowRunId :=
  match view.unrecorded t with
  | some (.run shadowRunId) => some shadowRunId
  | _ => none

def owesIntake (view : ShadowView) (t : Tid) : Option IntakeId :=
  match view.unrecorded t with
  | some (.intake intakeId) => some intakeId
  | _ => none

/-- The `shadow_run_completed` events of a run. -/
def completions (view : ShadowView) (shadowRunId : ShadowRunId) : List ShadowEventRow :=
  view.events.filter (fun event =>
    event.shadowRunId == shadowRunId && event.eventType == "shadow_run_completed")

def diffsOf (view : ShadowView) (shadowRunId : ShadowRunId) : List ShadowDiffRow :=
  view.diffs.filter (fun row => row.shadowRunId == shadowRunId)

/-- A run's identities are its own, and it is the run of an admitted call. -/
structure Identified (Origin : ShadowRunControl → Prop) (view : ShadowView) : Prop where
  keys : (view.runs.map (·.keyId)).Nodup
  cases : (view.runs.map (·.caseIdentity)).Nodup
  origin : ∀ row ∈ view.runs, Origin row.toShadowRunControl

/-- What a completion has left behind. -/
structure Recorded (models : ShadowModels) (view : ShadowView) (row : ShadowRunRow)
    (call : CompleteCall) : Prop where
  outcome : row.toShadowRunOutcome = call.outcome models
  run : call.run.shadowRunId = row.shadowRunId
  tenant : call.principal.tenantId = row.tenantId
  event : view.completions row.shadowRunId = [call.completedEvent]
  diffs : view.diffsOf row.shadowRunId = call.comparison.entries.map call.diffRow

/-- A run is either as it was started, or completed with all its records. -/
structure Outcomes (models : ShadowModels) (view : ShadowView) : Prop where
  events : ∀ event ∈ view.events, event.shadowRunId ∈ view.runIds
  diffs : ∀ row ∈ view.diffs, row.shadowRunId ∈ view.runIds
  started : ∀ row ∈ view.runs, row.status = .started →
    view.completions row.shadowRunId = [] ∧ view.diffsOf row.shadowRunId = [] ∧
      row.investigationRunId = none
  terminal : ∀ row ∈ view.runs, row.status ≠ .started →
    (∃ call, view.Recorded models row call) ∧ ∃ t, view.completedBy row.shadowRunId = some t
  completed : ∀ shadowRunId t, view.completedBy shadowRunId = some t →
    ∃ row ∈ view.runs, row.shadowRunId = shadowRunId ∧ row.status ≠ .started

/-- The claim of a run comes with the lock of its case. -/
def Claimed (lockKey : String → Int) (view : ShadowView) : Prop :=
  ∀ t shadowRunId, view.claims t = some shadowRunId →
    ∃ row ∈ view.runs, row.shadowRunId = shadowRunId ∧
      view.sessionLocks (lockKey row.caseLockName) = some t

/-- The claims of a run exclude each other only where a payload hash is of one
case; `exclusive` says that it is. -/
structure Inv (exclusive : Prop) (lockKey : String → Int) (models : ShadowModels)
    (Origin : ShadowRunControl → Prop) (view : ShadowView) : Prop where
  runs : Announced view.runIds view.startedRuns view.owesRun
  intakes : Announced view.intakeIds view.importedIntakes view.owesIntake
  identified : view.Identified Origin
  outcomes : view.Outcomes models
  claimed : exclusive → view.Claimed lockKey

/-! ## Evolution -/

/-- A run keeps what identifies it, a terminal run and an intake all they have. -/
def Extends (before after : ShadowView) : Prop :=
  (∀ row ∈ before.runs, ∃ next ∈ after.runs,
    next.toShadowRunControl = row.toShadowRunControl ∧ (row.status ≠ .started → next = row)) ∧
    ∀ row ∈ before.intakes, row ∈ after.intakes

theorem Extends.refl (view : ShadowView) : view.Extends view :=
  ⟨fun row member => ⟨row, member, rfl, fun _ => rfl⟩, fun _ member => member⟩

theorem Extends.trans {first second third : ShadowView} (left : first.Extends second)
    (right : second.Extends third) : first.Extends third := by
  refine ⟨fun row member => ?_, fun row member => right.2 row (left.2 row member)⟩
  obtain ⟨middle, memberMiddle, control, terminal⟩ := left.1 row member
  obtain ⟨next, memberNext, controlNext, terminalNext⟩ := right.1 middle memberMiddle
  refine ⟨next, memberNext, controlNext.trans control, fun ended => ?_⟩
  obtain rfl := terminal ended
  exact terminalNext ended

/-- What `t` relies on: its locks, its claim, its debts and its completions are
its own affair. -/
structure Rely (t : Tid) (before after : ShadowView) : Prop where
  locks : ∀ key, after.sessionLocks key = some t ↔ before.sessionLocks key = some t
  claim : after.claims t = before.claims t
  unrecorded : after.unrecorded t = before.unrecorded t
  completedBy : ∀ shadowRunId,
    after.completedBy shadowRunId = some t ↔ before.completedBy shadowRunId = some t
  extends_ : before.Extends after

theorem Rely.refl (t : Tid) (view : ShadowView) : view.Rely t view :=
  ⟨fun _ => .rfl, rfl, rfl, fun _ => .rfl, .refl view⟩

theorem Rely.trans {t : Tid} {first second third : ShadowView} (left : first.Rely t second)
    (right : second.Rely t third) : first.Rely t third where
  locks := fun key => (right.locks key).trans (left.locks key)
  claim := right.claim.trans left.claim
  unrecorded := right.unrecorded.trans left.unrecorded
  completedBy := fun id => (right.completedBy id).trans (left.completedBy id)
  extends_ := left.extends_.trans right.extends_

/-- `t` waits for a lock behind all those it holds. -/
def Waits (t : Tid) (view : ShadowView) : Prop :=
  ∃ key holder, holder ≠ t ∧ view.sessionLocks key = some holder ∧
    ∀ own, view.sessionLocks own = some t → own < key

end ShadowView

/-! ## Updates of the view -/

namespace ShadowView

section Updates

variable {exclusive : Prop} {lockKey : String → Int} {models : ShadowModels}
  {Origin : ShadowRunControl → Prop}
  {view : ShadowView} {t u : Tid}

theorem inv_empty : (ShadowView.empty).Inv exclusive lockKey models Origin where
  runs := .empty
  intakes := .empty
  identified := ⟨List.nodup_nil, List.nodup_nil, fun _ => nofun⟩
  outcomes := ⟨fun _ => nofun, fun _ => nofun, fun _ => nofun, fun _ => nofun, fun _ _ => nofun⟩
  claimed := fun _ _ _ => nofun

theorem Identified.congr {after : ShadowView} (identified : view.Identified Origin)
    (runs : after.runs = view.runs) : after.Identified Origin := by
  obtain ⟨keys, cases, origin⟩ := identified
  exact ⟨by rwa [runs], by rwa [runs], by rwa [runs]⟩

theorem Recorded.congr {after : ShadowView} {row : ShadowRunRow} {call : CompleteCall}
    (recorded : view.Recorded models row call)
    (events : after.completions row.shadowRunId = view.completions row.shadowRunId)
    (diffs : after.diffsOf row.shadowRunId = view.diffsOf row.shadowRunId) :
    after.Recorded models row call :=
  ⟨recorded.outcome, recorded.run, recorded.tenant, events.trans recorded.event,
    diffs.trans recorded.diffs⟩

/-- Events that complete no run leave the outcomes as they are. -/
theorem Outcomes.congr {after : ShadowView} (outcomes : view.Outcomes models)
    (runs : after.runs = view.runs) (diffs : after.diffs = view.diffs)
    (events : ∀ event ∈ after.events, event.shadowRunId ∈ view.runIds)
    (completions : ∀ id, after.completions id = view.completions id)
    (completedBy : after.completedBy = view.completedBy) : after.Outcomes models where
  events := by
    rw [runIds, runs]
    exact events
  diffs := by
    rw [runIds, runs, diffs]
    exact outcomes.diffs
  started := by
    intro row member started
    rw [runs] at member
    rw [completions, diffsOf, diffs]
    exact outcomes.started row member started
  terminal := by
    intro row member ended
    rw [runs] at member
    obtain ⟨⟨call, recorded⟩, completer⟩ := outcomes.terminal row member ended
    rw [completedBy]
    exact ⟨⟨call, recorded.congr (completions _) (by rw [diffsOf, diffs, diffsOf])⟩, completer⟩
  completed := by
    rw [completedBy, runs]
    exact outcomes.completed

/-- Locks and claims change, the tables do not. -/
theorem Inv.congr {after : ShadowView} (inv : view.Inv exclusive lockKey models Origin)
    (runs : after.runs = view.runs) (diffs : after.diffs = view.diffs)
    (events : after.events = view.events) (intakes : after.intakes = view.intakes)
    (intakeEvents : after.intakeEvents = view.intakeEvents)
    (unrecorded : after.unrecorded = view.unrecorded)
    (completedBy : after.completedBy = view.completedBy) 
    (claimed : exclusive → after.Claimed lockKey) :
    after.Inv exclusive lockKey models Origin where
  runs := by
    rw [runIds, runs, startedRuns, events, show after.owesRun = view.owesRun by
      funext t; rw [owesRun, unrecorded, owesRun]]
    exact inv.runs
  intakes := by
    rw [intakeIds, intakes, importedIntakes, intakeEvents, show after.owesIntake =
      view.owesIntake by funext t; rw [owesIntake, unrecorded, owesIntake]]
    exact inv.intakes
  identified := inv.identified.congr runs
  outcomes := inv.outcomes.congr runs diffs (by rw [events]; exact inv.outcomes.events)
    (fun id => by rw [completions, events, completions]) completedBy
  claimed := claimed

/-! ### Locks and claims -/

theorem rely_setLock {key : Int} {holder : Option Tid} (other : u ≠ t)
    (before : view.sessionLocks key = none ∨ view.sessionLocks key = some t)
    (after : holder = none ∨ holder = some t) : view.Rely u (view.setLock key holder) where
  locks := by
    intro own
    by_cases same : own = key
    · subst same
      simp only [setLock, Function.update_self]
      rcases before with none_ | mine <;> rcases after with rfl | rfl <;>
        simp [*, Ne.symm other]
    · simp [setLock, Function.update_of_ne same]
  claim := rfl
  unrecorded := rfl
  completedBy := fun _ => .rfl
  extends_ := .refl view

theorem inv_lock {key : Int} (inv : view.Inv exclusive lockKey models Origin)
    (free : available (view.sessionLocks key) t = true) :
    (view.setLock key (some t)).Inv exclusive lockKey models Origin := by
  refine inv.congr rfl rfl rfl rfl rfl rfl rfl fun sole => ?_
  intro v shadowRunId claim
  obtain ⟨row, member, id, lock⟩ := inv.claimed sole v shadowRunId claim
  refine ⟨row, member, id, ?_⟩
  by_cases same : lockKey row.caseLockName = key
  · rw [same] at lock ⊢
    rw [lock] at free
    simp only [setLock, Function.update_self]
    simp only [available, Bool.or_eq_true, beq_iff_eq, Option.some.injEq, reduceCtorEq,
      false_or] at free
    rw [free]
  · simpa [setLock, Function.update_of_ne same] using lock

theorem inv_unlock {key : Int} (inv : view.Inv exclusive lockKey models Origin)
    (held : view.sessionLocks key = some t) (released : view.claims t = none) :
    (view.setLock key none).Inv exclusive lockKey models Origin := by
  refine inv.congr rfl rfl rfl rfl rfl rfl rfl fun sole => ?_
  intro v shadowRunId claim
  obtain ⟨row, member, id, lock⟩ := inv.claimed sole v shadowRunId claim
  refine ⟨row, member, id, ?_⟩
  have different : lockKey row.caseLockName ≠ key := by
    intro same
    rw [same, held] at lock
    obtain rfl := Option.some.inj lock
    exact absurd (released.symm.trans claim) nofun
  simpa [setLock, Function.update_of_ne different] using lock

theorem rely_closeSession (other : u ≠ t) : view.Rely u (view.closeSession t) where
  locks := by
    intro key
    simp only [closeSession]
    split
    case isTrue mine => simp [mine, Ne.symm other]
    case isFalse => exact .rfl
  claim := Function.update_of_ne other _ _
  unrecorded := rfl
  completedBy := fun _ => .rfl
  extends_ := .refl view

theorem inv_closeSession (inv : view.Inv exclusive lockKey models Origin) :
    (view.closeSession t).Inv exclusive lockKey models Origin := by
  refine inv.congr rfl rfl rfl rfl rfl rfl rfl fun sole => ?_
  intro v shadowRunId claim
  have different : v ≠ t := fun same => by simp [same, closeSession] at claim
  simp only [closeSession, Function.update_of_ne different] at claim
  obtain ⟨row, member, id, lock⟩ := inv.claimed sole v shadowRunId claim
  exact ⟨row, member, id, by simp [closeSession, lock, different]⟩

theorem rely_setClaim {claim : Option ShadowRunId} (other : u ≠ t) :
    view.Rely u (view.setClaim t claim) where
  locks := fun _ => .rfl
  claim := Function.update_of_ne other _ _
  unrecorded := rfl
  completedBy := fun _ => .rfl
  extends_ := .refl view

theorem inv_openClaim {row : ShadowRunRow} (inv : view.Inv exclusive lockKey models Origin)
    (member : row ∈ view.runs)
    (held : exclusive → view.sessionLocks (lockKey row.caseLockName) = some t) :
    (view.setClaim t (some row.shadowRunId)).Inv exclusive lockKey models Origin := by
  refine inv.congr rfl rfl rfl rfl rfl rfl rfl fun sole => ?_
  intro v shadowRunId claim
  by_cases same : v = t
  · subst same
    simp only [setClaim, Function.update_self, Option.some.injEq] at claim
    exact ⟨row, member, claim, held sole⟩
  · simp only [setClaim, Function.update_of_ne same] at claim
    exact inv.claimed sole v shadowRunId claim

theorem inv_release (inv : view.Inv exclusive lockKey models Origin) :
    (view.setClaim t none).Inv exclusive lockKey models Origin := by
  refine inv.congr rfl rfl rfl rfl rfl rfl rfl fun sole => ?_
  intro v shadowRunId claim
  have different : v ≠ t := fun same => by simp [same, setClaim] at claim
  simp only [setClaim, Function.update_of_ne different] at claim
  exact inv.claimed sole v shadowRunId claim

/-! ### New rows -/

theorem rely_addRun {row : ShadowRunRow} (other : u ≠ t) : view.Rely u (view.addRun t row) where
  locks := fun _ => .rfl
  claim := rfl
  unrecorded := Function.update_of_ne other _ _
  completedBy := fun _ => .rfl
  extends_ := ⟨fun old member => ⟨old, List.mem_append_left _ member, rfl, fun _ => rfl⟩,
    fun _ member => member⟩

theorem owesRun_update (value : Option Unrecorded) {owed : Option ShadowRunId}
    (same : owed = match value with | some (.run id) => some id | _ => none) :
    (fun v => match Function.update view.unrecorded t value v with
      | some (.run id) => some id
      | _ => none) = Function.update view.owesRun t owed := by
  funext v
  by_cases mine : v = t
  · subst mine
    simp [same]
  · simp [Function.update_of_ne mine, owesRun]

theorem owesIntake_update (value : Option Unrecorded) {owed : Option IntakeId}
    (same : owed = match value with | some (.intake id) => some id | _ => none) :
    (fun v => match Function.update view.unrecorded t value v with
      | some (.intake id) => some id
      | _ => none) = Function.update view.owesIntake t owed := by
  funext v
  by_cases mine : v = t
  · subst mine
    simp [same]
  · simp [Function.update_of_ne mine, owesIntake]

/-- A thread that owes nothing still owes nothing of the other kind. -/
theorem update_owes {κ : Type} {owes : Tid → Option κ} (free : owes t = none) :
    Function.update owes t none = owes := by
  rw [← free, Function.update_eq_self]

theorem owesRun_none (free : view.unrecorded t = none) : view.owesRun t = none := by
  simp [owesRun, free]

theorem owesIntake_none (free : view.unrecorded t = none) : view.owesIntake t = none := by
  simp [owesIntake, free]

/-- A fresh run has no records yet. -/
theorem Outcomes.fresh (outcomes : view.Outcomes models) {shadowRunId : ShadowRunId}
    (fresh : shadowRunId ∉ view.runIds) :
    view.completions shadowRunId = [] ∧ view.diffsOf shadowRunId = [] := by
  constructor
  · refine List.filter_eq_nil_iff.mpr fun event member => ?_
    simp only [Bool.and_eq_true, beq_iff_eq, not_and]
    rintro rfl
    exact absurd (outcomes.events event member) fresh
  · refine List.filter_eq_nil_iff.mpr fun row member => ?_
    simp only [beq_iff_eq]
    rintro rfl
    exact fresh (outcomes.diffs row member)

theorem inv_addRun {row : ShadowRunRow} (inv : view.Inv exclusive lockKey models Origin)
    (free : view.unrecorded t = none) (origin : Origin row.toShadowRunControl)
    (started : row.status = .started) (unlinked : row.investigationRunId = none)
    (id : row.shadowRunId ∉ view.runs.map (·.shadowRunId))
    (key : row.keyId ∉ view.runs.map (·.keyId))
    (case : row.caseIdentity ∉ view.runs.map (·.caseIdentity)) :
    (view.addRun t row).Inv exclusive lockKey models Origin where
  runs := by
    have added := inv.runs.add (owesRun_none free) id
    rw [← owesRun_update (some (.run row.shadowRunId)) rfl] at added
    rw [runIds, addRun, List.map_append]
    exact added
  intakes := by
    have kept := inv.intakes
    rw [← update_owes (owesIntake_none free),
      ← owesIntake_update (some (.run row.shadowRunId)) rfl] at kept
    exact kept
  identified := by
    refine ⟨?_, ?_, ?_⟩
    · simp only [addRun, List.map_append, List.map_cons, List.map_nil]
      exact List.nodup_append_comm.mp (List.nodup_cons.mpr ⟨key, inv.identified.keys⟩)
    · simp only [addRun, List.map_append, List.map_cons, List.map_nil]
      exact List.nodup_append_comm.mp (List.nodup_cons.mpr ⟨case, inv.identified.cases⟩)
    · intro other member
      rcases List.mem_append.mp member with old | new
      · exact inv.identified.origin other old
      · obtain rfl := List.mem_singleton.mp new
        exact origin
  outcomes := by
    have grown : ∀ other ∈ view.runIds, other ∈ (view.addRun t row).runIds := by
      intro other member
      simp only [runIds, addRun, List.map_append]
      exact List.mem_append_left _ member
    refine ⟨fun event member => grown _ (inv.outcomes.events event member),
      fun diff member => grown _ (inv.outcomes.diffs diff member), ?_, ?_, ?_⟩
    · intro other member isStarted
      rcases List.mem_append.mp member with old | new
      · exact inv.outcomes.started other old isStarted
      · obtain rfl := List.mem_singleton.mp new
        obtain ⟨events, diffs⟩ := inv.outcomes.fresh id
        exact ⟨events, diffs, unlinked⟩
    · intro other member ended
      rcases List.mem_append.mp member with old | new
      · obtain ⟨⟨call, recorded⟩, completer⟩ := inv.outcomes.terminal other old ended
        exact ⟨⟨call, recorded.outcome, recorded.run, recorded.tenant, recorded.event,
          recorded.diffs⟩, completer⟩
      · obtain rfl := List.mem_singleton.mp new
        exact absurd started ended
    · intro shadowRunId v completed
      obtain ⟨other, member, same, ended⟩ := inv.outcomes.completed shadowRunId v completed
      exact ⟨other, List.mem_append_left _ member, same, ended⟩
  claimed := by
    intro sole v shadowRunId claim
    obtain ⟨other, member, same, lock⟩ := inv.claimed sole v shadowRunId claim
    exact ⟨other, List.mem_append_left _ member, same, lock⟩

/-! ### New events -/

theorem rely_addEvent {event : ShadowEventRow} (other : u ≠ t) :
    view.Rely u (view.addEvent t event) where
  locks := fun _ => .rfl
  claim := rfl
  unrecorded := Function.update_of_ne other _ _
  completedBy := fun _ => .rfl
  extends_ := .refl view

theorem Outcomes.addEvent {event : ShadowEventRow} (outcomes : view.Outcomes models)
    (known : event.shadowRunId ∈ view.runIds)
    (kind : event.eventType ≠ "shadow_run_completed") :
    (view.addEvent t event).Outcomes models := by
  refine outcomes.congr rfl rfl (fun other member => ?_) (fun id => ?_) rfl
  · rcases List.mem_append.mp member with old | new
    · exact outcomes.events other old
    · obtain rfl := List.mem_singleton.mp new
      exact known
  · simp [completions, ShadowView.addEvent, List.filter_append, kind]

/-- The thread that inserted a run records it. -/
theorem inv_startedEvent {event : ShadowEventRow} (inv : view.Inv exclusive lockKey models Origin)
    (owes : view.unrecorded t = some (.run event.shadowRunId))
    (kind : event.eventType = "shadow_run_started") :
    (view.addEvent t event).Inv exclusive lockKey models Origin where
  runs := by
    have owed : view.owesRun t = some event.shadowRunId := by simp [owesRun, owes]
    have announced := inv.runs.announce owed
    rw [← owesRun_update none rfl] at announced
    rw [startedRuns, ShadowView.addEvent, List.filter_append, List.map_append,
      List.filter_singleton, kind]
    exact announced
  intakes := by
    have kept := inv.intakes
    have free : view.owesIntake t = none := by simp [owesIntake, owes]
    rw [← update_owes free, ← owesIntake_update none rfl] at kept
    exact kept
  identified := inv.identified.congr rfl
  outcomes := by
    have owed : view.owesRun t = some event.shadowRunId := by simp [owesRun, owes]
    exact inv.outcomes.addEvent (inv.runs.owed t _ owed).1 (by simp [kind])
  claimed := inv.claimed

/-- An event of another kind, by a thread that owes nothing. -/
theorem inv_otherEvent {event : ShadowEventRow} (inv : view.Inv exclusive lockKey models Origin)
    (free : view.unrecorded t = none) (known : event.shadowRunId ∈ view.runIds)
    (notStarted : event.eventType ≠ "shadow_run_started")
    (notCompleted : event.eventType ≠ "shadow_run_completed") :
    (view.addEvent t event).Inv exclusive lockKey models Origin where
  runs := by
    have kept := inv.runs
    rw [← update_owes (owesRun_none free), ← owesRun_update none rfl] at kept
    have same : (view.addEvent t event).startedRuns = view.startedRuns := by
      simp [startedRuns, ShadowView.addEvent, List.filter_append, notStarted]
    rw [same]
    exact kept
  intakes := by
    have kept := inv.intakes
    rw [← update_owes (owesIntake_none free), ← owesIntake_update none rfl] at kept
    exact kept
  identified := inv.identified.congr rfl
  outcomes := inv.outcomes.addEvent known notCompleted
  claimed := inv.claimed

/-! ### Completions -/

theorem row_eq_of_id (announced : Announced view.runIds view.startedRuns view.owesRun)
    {left right : ShadowRunRow} (leftMember : left ∈ view.runs) (rightMember : right ∈ view.runs)
    (same : left.shadowRunId = right.shadowRunId) : left = right :=
  List.inj_on_of_nodup_map announced.nodup leftMember rightMember same

theorem mem_completedRuns {tenantId : String} {shadowRunId : ShadowRunId}
    {outcome : ShadowRunOutcome} {runs : List ShadowRunRow} {next : ShadowRunRow} :
    next ∈ completedRuns tenantId shadowRunId outcome runs ↔
      (next ∈ runs ∧ isStarted tenantId shadowRunId next = false) ∨
        ∃ row ∈ runs, isStarted tenantId shadowRunId row = true ∧
          next = row.withOutcome outcome := by
  simp only [completedRuns, List.mem_map, updatedRow]
  constructor
  · rintro ⟨row, member, rfl⟩
    cases selected : isStarted tenantId shadowRunId row with
    | true => exact .inr ⟨row, member, selected, by simp⟩
    | false => exact .inl (by simp [member, selected])
  · rintro (⟨member, other⟩ | ⟨row, member, selected, rfl⟩)
    · exact ⟨next, member, by simp [other]⟩
    · exact ⟨row, member, by simp [selected]⟩

/-- A column that identifies a run is not touched by a completion. -/
theorem map_completedRuns {κ : Type} (column : ShadowRunControl → κ) {tenantId : String}
    {shadowRunId : ShadowRunId} {outcome : ShadowRunOutcome} (runs : List ShadowRunRow) :
    (completedRuns tenantId shadowRunId outcome runs).map (column ·.toShadowRunControl) =
      runs.map (column ·.toShadowRunControl) := by
  rw [completedRuns, List.map_map]
  refine List.map_congr_left fun row _ => ?_
  simp only [Function.comp_apply, updatedRow]
  split
  · rfl
  · rfl

section Completion

variable {call : CompleteCall} {row : ShadowRunRow}

/-- The view once `t` has completed the run of a call. -/
abbrev afterCompletion (models : ShadowModels) (view : ShadowView) (t : Tid)
    (call : CompleteCall) : ShadowView :=
  view.addCompletion t call.run.shadowRunId
    (completedRuns call.principal.tenantId call.run.shadowRunId (call.outcome models) view.runs)
    (call.completion models).diffs (call.completion models).event

theorem extends_afterCompletion : view.Extends (afterCompletion models view t call) := by
  refine ⟨fun row member => ?_, fun _ member => member⟩
  cases selected : isStarted call.principal.tenantId call.run.shadowRunId row with
  | true =>
      refine ⟨row.withOutcome (call.outcome models),
        mem_completedRuns.mpr (.inr ⟨row, member, selected, rfl⟩), rfl, fun ended => ?_⟩
      exact absurd (isStarted_iff.mp selected).2.2 ended
  | false => exact ⟨row, mem_completedRuns.mpr (.inl ⟨member, selected⟩), rfl, fun _ => rfl⟩

theorem rely_afterCompletion (other : u ≠ t) (announced : view.Outcomes models)
    (member : row ∈ view.runs)
    (started : isStarted call.principal.tenantId call.run.shadowRunId row = true)
    (ids : Announced view.runIds view.startedRuns view.owesRun) :
    view.Rely u (afterCompletion models view t call) where
  locks := fun _ => .rfl
  claim := rfl
  unrecorded := rfl
  completedBy := by
    intro shadowRunId
    by_cases same : shadowRunId = call.run.shadowRunId
    · subst same
      simp only [addCompletion, Function.update_self, Option.some.injEq, Ne.symm other, false_iff]
      intro completed
      obtain ⟨old, oldMember, id, ended⟩ := announced.completed _ u completed
      obtain ⟨rowId, -, isStarted⟩ := isStarted_iff.mp started
      obtain rfl := row_eq_of_id ids oldMember member (id.trans rowId.symm)
      exact ended isStarted
    · simp [addCompletion, Function.update_of_ne same]
  extends_ := extends_afterCompletion

theorem completions_addCompletion {id : ShadowRunId} {runs : List ShadowRunRow}
    {diffs : List ShadowDiffRow} {event : ShadowEventRow} :
    (view.addCompletion t id runs diffs event).completions = fun other =>
      view.completions other ++ (if event.shadowRunId = other ∧
        event.eventType = "shadow_run_completed" then [event] else []) := by
  funext other
  simp [completions, addCompletion, List.filter_append, List.filter_singleton]

theorem diffsOf_addCompletion {id : ShadowRunId} {runs : List ShadowRunRow}
    {event : ShadowEventRow} {other : ShadowRunId} :
    (view.addCompletion t id runs ((call.completion models).diffs) event).diffsOf other =
      view.diffsOf other ++ (if call.run.shadowRunId = other then
        call.comparison.entries.map call.diffRow else []) := by
  simp only [diffsOf, addCompletion, List.filter_append, CompleteCall.completion]
  congr 1
  by_cases same : call.run.shadowRunId = other
  · rw [if_pos same]
    refine List.filter_eq_self.mpr fun diff member => ?_
    obtain ⟨entry, -, rfl⟩ := List.mem_map.mp member
    simpa [CompleteCall.diffRow] using same
  · rw [if_neg same]
    refine List.filter_eq_nil_iff.mpr fun diff member => ?_
    obtain ⟨entry, -, rfl⟩ := List.mem_map.mp member
    simpa [CompleteCall.diffRow] using same

/-- The completed run has its records, the others keep theirs. -/
theorem Outcomes.complete (outcomes : view.Outcomes models)
    (ids : Announced view.runIds view.startedRuns view.owesRun) (member : row ∈ view.runs)
    (started : isStarted call.principal.tenantId call.run.shadowRunId row = true) :
    (afterCompletion models view t call).Outcomes models := by
  obtain ⟨rowId, rowTenant, isStarted⟩ := isStarted_iff.mp started
  obtain ⟨noEvents, noDiffs, unlinked⟩ := outcomes.started row member isStarted
  have runIds : (afterCompletion models view t call).runIds = view.runIds :=
    map_completedRuns (·.shadowRunId) view.runs
  have present : call.run.shadowRunId ∈ view.runIds := rowId ▸ List.mem_map_of_mem member
  have only : ∀ other ∈ view.runs, other.shadowRunId = call.run.shadowRunId → other = row :=
    fun other otherMember same => row_eq_of_id ids otherMember member (same.trans rowId.symm)
  refine ⟨?_, ?_, ?_, ?_, ?_⟩
  · rw [runIds]
    intro event eventMember
    rcases List.mem_append.mp eventMember with old | new
    · exact outcomes.events event old
    · obtain rfl := List.mem_singleton.mp new
      exact present
  · rw [runIds]
    intro diff diffMember
    rcases List.mem_append.mp diffMember with old | new
    · exact outcomes.diffs diff old
    · obtain ⟨entry, -, rfl⟩ := List.mem_map.mp new
      exact present
  · intro next nextMember nextStarted
    rcases mem_completedRuns.mp nextMember with ⟨old, kept⟩ | ⟨old, -, -, rfl⟩
    · obtain ⟨events, diffs, none_⟩ := outcomes.started next old nextStarted
      have different : call.run.shadowRunId ≠ next.shadowRunId := by
        intro same
        rw [only next old same.symm, started] at kept
        cases kept
      rw [completions_addCompletion, diffsOf_addCompletion]
      simp [events, diffs, none_, different, CompleteCall.completion,
        CompleteCall.completedEvent]
    · simp only [ShadowRunRow.withOutcome, CompleteCall.outcome,
        CompleteCall.terminalStatus] at nextStarted
      split at nextStarted <;> cases nextStarted
  · intro next nextMember ended
    rcases mem_completedRuns.mp nextMember with ⟨old, kept⟩ | ⟨old, oldMember, oldStarted, rfl⟩
    · obtain ⟨⟨done, recorded⟩, completer⟩ := outcomes.terminal next old ended
      have different : call.run.shadowRunId ≠ next.shadowRunId := by
        intro same
        obtain rfl := only next old same.symm
        exact ended isStarted
      refine ⟨⟨done, recorded.congr ?_ ?_⟩, ?_⟩
      · rw [completions_addCompletion]
        simp [different, CompleteCall.completion, CompleteCall.completedEvent]
      · rw [diffsOf_addCompletion]
        simp [different]
      · simpa [addCompletion, Function.update_of_ne (Ne.symm different)] using completer
    · obtain rfl := only old oldMember (isStarted_iff.mp oldStarted).1
      rw [rowId] at noEvents noDiffs
      refine ⟨⟨call, rfl, rowId.symm, rowTenant.symm, ?_, ?_⟩, t, ?_⟩
      · rw [completions_addCompletion]
        simp [ShadowRunRow.withOutcome, noEvents, rowId, CompleteCall.completion,
          CompleteCall.completedEvent]
      · rw [diffsOf_addCompletion]
        simp [ShadowRunRow.withOutcome, noDiffs, rowId]
      · simp [addCompletion, ShadowRunRow.withOutcome, rowId]
  · intro shadowRunId v completed
    by_cases same : shadowRunId = call.run.shadowRunId
    · refine ⟨row.withOutcome (call.outcome models),
        mem_completedRuns.mpr (.inr ⟨row, member, started, rfl⟩), rowId.trans same.symm, ?_⟩
      simp only [ShadowRunRow.withOutcome, CompleteCall.outcome, CompleteCall.terminalStatus]
      split <;> nofun
    · simp only [addCompletion, Function.update_of_ne same] at completed
      obtain ⟨old, oldMember, id, ended⟩ := outcomes.completed shadowRunId v completed
      refine ⟨old, mem_completedRuns.mpr (.inl ⟨oldMember, ?_⟩), id, ended⟩
      by_contra selected
      rw [Bool.not_eq_false] at selected
      exact ended (isStarted_iff.mp selected).2.2

theorem inv_afterCompletion (inv : view.Inv exclusive lockKey models Origin)
    (member : row ∈ view.runs)
    (started : isStarted call.principal.tenantId call.run.shadowRunId row = true) :
    (afterCompletion models view t call).Inv exclusive lockKey models Origin where
  runs := by
    rw [runIds, show List.map _ (afterCompletion models view t call).runs = _ from
      map_completedRuns (·.shadowRunId) view.runs]
    have same : (afterCompletion models view t call).startedRuns = view.startedRuns := by
      simp [startedRuns, addCompletion, List.filter_append, CompleteCall.completion,
        CompleteCall.completedEvent]
    rw [same]
    exact inv.runs
  intakes := inv.intakes
  identified := by
    refine ⟨?_, ?_, fun next nextMember => ?_⟩
    · rw [show List.map _ (afterCompletion models view t call).runs = _ from
        map_completedRuns ShadowRunControl.keyId view.runs]
      exact inv.identified.keys
    · rw [show List.map _ (afterCompletion models view t call).runs = _ from
        map_completedRuns ShadowRunControl.caseIdentity view.runs]
      exact inv.identified.cases
    · rcases mem_completedRuns.mp nextMember with ⟨old, -⟩ | ⟨old, oldMember, -, rfl⟩
      · exact inv.identified.origin next old
      · exact inv.identified.origin old oldMember
  outcomes := inv.outcomes.complete inv.runs member started
  claimed := by
    intro sole v shadowRunId claim
    obtain ⟨old, oldMember, id, lock⟩ := inv.claimed sole v shadowRunId claim
    have grown : view.Extends (afterCompletion models view t call) := extends_afterCompletion
    obtain ⟨next, nextMember, control, -⟩ := grown.1 old oldMember
    exact ⟨next, nextMember, by rw [control, id], by rw [control]; exact lock⟩

end Completion

/-! ### Intakes -/

theorem rely_addIntake {row : ShadowIntakeRow} (other : u ≠ t) :
    view.Rely u (view.addIntake t row) where
  locks := fun _ => .rfl
  claim := rfl
  unrecorded := Function.update_of_ne other _ _
  completedBy := fun _ => .rfl
  extends_ := ⟨(Extends.refl view).1, fun _ member => List.mem_append_left _ member⟩

theorem inv_addIntake {row : ShadowIntakeRow} (inv : view.Inv exclusive lockKey models Origin)
    (free : view.unrecorded t = none)
    (fresh : row.intakeId ∉ view.intakes.map (·.intakeId)) :
    (view.addIntake t row).Inv exclusive lockKey models Origin where
  runs := by
    have kept := inv.runs
    rw [← update_owes (owesRun_none free),
      ← owesRun_update (some (.intake row.intakeId)) rfl] at kept
    exact kept
  intakes := by
    have added := inv.intakes.add (owesIntake_none free) fresh
    rw [← owesIntake_update (some (.intake row.intakeId)) rfl] at added
    rw [intakeIds, addIntake, List.map_append]
    exact added
  identified := inv.identified.congr rfl
  outcomes := inv.outcomes.congr rfl rfl inv.outcomes.events (fun _ => rfl) rfl
  claimed := inv.claimed

theorem rely_addIntakeEvent {event : IntakeEventRow} (other : u ≠ t) :
    view.Rely u (view.addIntakeEvent t event) where
  locks := fun _ => .rfl
  claim := rfl
  unrecorded := Function.update_of_ne other _ _
  completedBy := fun _ => .rfl
  extends_ := .refl view

/-- The thread that inserted an intake records it. -/
theorem inv_importedEvent {event : IntakeEventRow} (inv : view.Inv exclusive lockKey models Origin)
    (owes : view.unrecorded t = some (.intake event.intakeId))
    (kind : event.eventType = "shadow_intake_imported") :
    (view.addIntakeEvent t event).Inv exclusive lockKey models Origin where
  runs := by
    have kept := inv.runs
    have free : view.owesRun t = none := by simp [owesRun, owes]
    rw [← update_owes free, ← owesRun_update none rfl] at kept
    exact kept
  intakes := by
    have owed : view.owesIntake t = some event.intakeId := by simp [owesIntake, owes]
    have announced := inv.intakes.announce owed
    rw [← owesIntake_update none rfl] at announced
    rw [importedIntakes, addIntakeEvent, List.filter_append, List.map_append,
      List.filter_singleton, kind]
    exact announced
  identified := inv.identified.congr rfl
  outcomes := inv.outcomes.congr rfl rfl inv.outcomes.events (fun _ => rfl) rfl
  claimed := inv.claimed

/-- An event of another kind, by a thread that owes nothing. -/
theorem inv_otherIntakeEvent {event : IntakeEventRow}
    (inv : view.Inv exclusive lockKey models Origin)
    (free : view.unrecorded t = none) (kind : event.eventType ≠ "shadow_intake_imported") :
    (view.addIntakeEvent t event).Inv exclusive lockKey models Origin where
  runs := by
    have kept := inv.runs
    rw [← update_owes (owesRun_none free), ← owesRun_update none rfl] at kept
    exact kept
  intakes := by
    have kept := inv.intakes
    rw [← update_owes (owesIntake_none free), ← owesIntake_update none rfl] at kept
    have same : (view.addIntakeEvent t event).importedIntakes = view.importedIntakes := by
      simp [importedIntakes, addIntakeEvent, List.filter_append, kind]
    rw [same]
    exact kept
  identified := inv.identified.congr rfl
  outcomes := inv.outcomes.congr rfl rfl inv.outcomes.events (fun _ => rfl) rfl
  claimed := inv.claimed

end Updates

end ShadowView

end StockoutOps.Shadow
