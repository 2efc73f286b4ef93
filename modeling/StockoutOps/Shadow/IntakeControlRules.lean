import StockoutOps.Foundation.Actions
import StockoutOps.Shadow.Actions
import StockoutOps.Shadow.IntakeControl

/-!
Contract: what holds between the callers of the intake methods.

Owns: the invariant of the control events, what a caller relies on while it holds the
lock of an intake, and the rule of each method.

Does not own: what a whole run makes of them.

An intake has one lock for its control events, and whoever inserts one holds it from
before its SELECT until after its commit.
-/

namespace StockoutOps.Shadow

open StockoutOps.Investigation StockoutOps.Sql StockoutOps.Foundation.Interleaving

/-! ## Control events -/

def controlKinds : List String := [acceptedForM205, excluded]

namespace ShadowView

variable (view : ShadowView)

/-- The events of one kind of an intake. -/
def eventsOfKind (kind : String) (intakeId : IntakeId) : List IntakeEventRow :=
  view.intakeEvents.filter fun event => event.intakeId == intakeId && event.eventType == kind

/-- The tenant has imported the intake. -/
def Owns (tenantId : String) (intakeId : IntakeId) : Prop :=
  ∃ row ∈ view.intakes, row.intakeId = intakeId ∧ row.tenantId = tenantId

/-- The intake has an event of the kind. -/
def HasEvent (kind : String) (intakeId : IntakeId) : Prop :=
  ∃ event ∈ view.intakeEvents, event.intakeId = intakeId ∧ event.eventType = kind

/-- The intake is excluded for this reason. -/
def ExcludedFor (intakeId : IntakeId) (reason : String) : Prop :=
  ∃ event ∈ view.intakeEvents, event.intakeId = intakeId ∧ event.eventType = excluded ∧
    reasonOf event.payload = some (.str reason)

variable {view} {kind : String} {intakeId : IntakeId} {event : IntakeEventRow}

theorem mem_eventsOfKind : event ∈ view.eventsOfKind kind intakeId ↔
    event ∈ view.intakeEvents ∧ event.intakeId = intakeId ∧ event.eventType = kind := by
  simp [eventsOfKind]

/-- An intake of two tenants is one intake. -/
theorem Owns.tenant_eq {left right : String} (ids : (view.intakes.map (·.intakeId)).Nodup)
    (first : view.Owns left intakeId) (second : view.Owns right intakeId) : left = right := by
  obtain ⟨row, member, id, rfl⟩ := first
  obtain ⟨other, otherMember, otherId, rfl⟩ := second
  rw [List.inj_on_of_nodup_map ids member otherMember (id.trans otherId.symm)]

end ShadowView

theorem reasonOf_exclusionPayload (reason : String) :
    reasonOf (exclusionPayload reason) = some (.str reason) := rfl

/-! ## The discipline -/

section Discipline

variable (service : ShadowService)

/-- An event that its transaction may commit. -/
structure Staged (view : ShadowView) (t : Tid) (event : IntakeEventRow) : Prop where
  kind : event.eventType ∈ controlKinds
  reason : event.eventType = excluded →
    ∃ reason ∈ exclusionReasonCodes, event.payload = exclusionPayload reason
  owned : view.Owns event.tenantId event.intakeId
  locked : view.sessionLocks (service.controlKey event.tenantId event.intakeId) = some t
  first : view.eventsOfKind event.eventType event.intakeId = []

structure IntakeInv (state : IntakeWorld) : Prop where
  ids : (state.view.intakes.map (·.intakeId)).Nodup
  bound : ∀ event ∈ state.view.intakeEvents, state.view.Owns event.tenantId event.intakeId
  once : ∀ kind ∈ controlKinds, ∀ intakeId, (state.view.eventsOfKind kind intakeId).length ≤ 1
  reasons : ∀ event ∈ state.view.intakeEvents, event.eventType = excluded →
    ∃ reason ∈ exclusionReasonCodes, event.payload = exclusionPayload reason
  staged : ∀ t event, state.pending t = some event → Staged service state.view t event

/-- What the others leave to `t`: nothing is taken back, and the events of an intake
whose lock `t` holds are its own to add. -/
structure IntakeRely (t : Tid) (before after : IntakeWorld) : Prop where
  intakes : before.view.intakes <+: after.view.intakes
  events : before.view.intakeEvents <+: after.view.intakeEvents
  locks : ∀ key, before.view.sessionLocks key = some t → after.view.sessionLocks key = some t
  pending : after.pending t = before.pending t
  own : ∀ event, (t, event) ∈ after.committedBy → (t, event) ∈ before.committedBy
  guarded : ∀ tenantId intakeId,
    before.view.sessionLocks (service.controlKey tenantId intakeId) = some t →
      before.view.Owns tenantId intakeId → ∀ kind ∈ controlKinds,
        after.view.eventsOfKind kind intakeId = before.view.eventsOfKind kind intakeId

theorem ShadowView.Owns.mono {before after : ShadowView} {tenantId : String} {intakeId : IntakeId}
    (grown : before.intakes <+: after.intakes) (owned : before.Owns tenantId intakeId) :
    after.Owns tenantId intakeId := by
  obtain ⟨row, member, same⟩ := owned
  exact ⟨row, grown.subset member, same⟩

/-- A caller may have to wait for a lock. -/
def intakeDiscipline : Discipline Tid Input IntakeWorld where
  Inv := IntakeInv service
  Rely := IntakeRely service
  Allowed := fun _ _ => True
  Waits := fun _ _ => True
  refl := fun _ _ => ⟨List.prefix_refl _, List.prefix_refl _, fun _ held => held, rfl,
    fun _ own => own, fun _ _ _ _ _ _ => rfl⟩
  trans := fun _ _ _ _ first second =>
    { intakes := first.intakes.trans second.intakes
      events := first.events.trans second.events
      locks := fun key held => second.locks key (first.locks key held)
      pending := second.pending.trans first.pending
      own := fun event own => first.own event (second.own event own)
      guarded := fun tenantId intakeId held owned kind control =>
        (second.guarded tenantId intakeId (first.locks _ held) (owned.mono first.intakes) kind
          control).trans (first.guarded tenantId intakeId held owned kind control) }

end Discipline

/-! ## Steps -/

section Steps

variable {service : ShadowService} {t : Tid} {state : IntakeWorld}

/-- A step of `t` on the tables that has to do with no control event. -/
structure Plain (t : Tid) (before after : ShadowView) : Prop where
  intakes : before.intakes <+: after.intakes
  ids : (after.intakes.map (·.intakeId)).Nodup
  events : ∃ new, after.intakeEvents = before.intakeEvents ++ new ∧
    ∀ event ∈ new, event.eventType ∉ controlKinds ∧ after.Owns event.tenantId event.intakeId
  locks : ∀ key u, u ≠ t → before.sessionLocks key = some u → after.sessionLocks key = some u

theorem Plain.eventsOfKind {before after : ShadowView} (plain : Plain t before after)
    {kind : String} (control : kind ∈ controlKinds) (intakeId : IntakeId) :
    after.eventsOfKind kind intakeId = before.eventsOfKind kind intakeId := by
  obtain ⟨new, grown, others⟩ := plain.events
  have none_ : (new.filter fun event => event.intakeId == intakeId && event.eventType == kind) =
      [] := by
    rw [List.filter_eq_nil_iff]
    intro event member matches_
    simp only [Bool.and_eq_true, beq_iff_eq] at matches_
    exact (others event member).1 (matches_.2 ▸ control)
  rw [ShadowView.eventsOfKind, grown, List.filter_append, none_, List.append_nil]
  rfl

/-- A plain step while nothing is pending. -/
theorem guarantee_plain (inv : IntakeInv service state) (free : state.pending t = none)
    {base : ShadowWorld} (plain : Plain t state.view base.shadow) :
    (intakeDiscipline service).Guarantee t state { state with base := base } := by
  obtain ⟨new, grown, others⟩ := plain.events
  constructor
  · refine ⟨plain.ids, ?_, ?_, ?_, ?_⟩
    · intro event member
      rcases List.mem_append.mp (grown ▸ member) with old | added
      · exact (inv.bound event old).mono plain.intakes
      · exact (others event added).2
    · intro kind control intakeId
      show (base.shadow.eventsOfKind kind intakeId).length ≤ 1
      rw [plain.eventsOfKind control]
      exact inv.once kind control intakeId
    · intro event member isExcluded
      rcases List.mem_append.mp (grown ▸ member) with old | added
      · exact inv.reasons event old isExcluded
      · exact absurd (isExcluded ▸ by decide) (others event added).1
    · intro u event pending
      have different : u ≠ t := by
        rintro rfl
        exact absurd (free.symm.trans pending) nofun
      have staged := inv.staged u event pending
      exact ⟨staged.kind, staged.reason, staged.owned.mono plain.intakes,
        plain.locks _ u different staged.locked,
        (plain.eventsOfKind staged.kind _).trans staged.first⟩
  · intro u different
    exact ⟨plain.intakes, ⟨new, grown.symm⟩, fun key held => plain.locks key u different held, rfl,
      fun _ own => own, fun _ intakeId _ _ kind control => plain.eventsOfKind control intakeId⟩

/-- Locks that `t` takes or gives up. -/
theorem plain_locks {view : ShadowView} (ids : (view.intakes.map (·.intakeId)).Nodup)
    {after : ShadowView} (intakes : after.intakes = view.intakes)
    (events : after.intakeEvents = view.intakeEvents)
    (locks : ∀ key u, u ≠ t → view.sessionLocks key = some u →
      after.sessionLocks key = some u) : Plain t view after :=
  ⟨intakes ▸ List.prefix_refl _, intakes ▸ ids,
    ⟨[], by rw [events, List.append_nil], fun _ => nofun⟩, locks⟩

theorem locks_setLock {view : ShadowView} {key : Int} {holder : Option Tid}
    (own : available (view.sessionLocks key) t = true) :
    ∀ other u, u ≠ t → view.sessionLocks other = some u →
      (view.setLock key holder).sessionLocks other = some u := by
  intro other u different held
  have elsewhere : other ≠ key := by
    rintro rfl
    simp [available, held, different] at own
  simp only [ShadowView.setLock, Function.update_of_ne elsewhere]
  exact held

theorem locks_closeSession {view : ShadowView} :
    ∀ key u, u ≠ t → view.sessionLocks key = some u →
      (view.closeSession t).sessionLocks key = some u := by
  intro key u different held
  simp only [ShadowView.closeSession, held, Option.some.injEq, if_neg different]

/-- The transaction of `t` ends, with its event or without. -/
theorem guarantee_conclude (inv : IntakeInv service state) {events : List IntakeEventRow}
    (choice : events = [] ∨ ∃ event, state.pending t = some event ∧ events = [event]) :
    (intakeDiscipline service).Guarantee t state (state.conclude t events) := by
  have mine : ∀ event ∈ events, Staged service state.view t event := by
    intro event member
    rcases choice with rfl | ⟨pending, held, rfl⟩
    · cases member
    · obtain rfl := List.mem_singleton.mp member
      exact inv.staged t event held
  -- Where another caller holds the lock of an intake, `t` adds no event of it.
  have kept : ∀ u, u ≠ t → ∀ tenantId intakeId, state.view.Owns tenantId intakeId →
      state.view.sessionLocks (service.controlKey tenantId intakeId) = some u →
        ∀ kind, (state.conclude t events).view.eventsOfKind kind intakeId =
          state.view.eventsOfKind kind intakeId := by
    intro u different tenantId intakeId owned held kind
    have none_ : (events.filter fun event =>
        event.intakeId == intakeId && event.eventType == kind) = [] := by
      rw [List.filter_eq_nil_iff]
      intro event member matches_
      simp only [Bool.and_eq_true, beq_iff_eq] at matches_
      obtain ⟨rfl, -⟩ := matches_
      have staged := mine event member
      have locked := staged.locked
      rw [staged.owned.tenant_eq inv.ids owned, held] at locked
      exact different (Option.some.inj locked)
    show (state.view.intakeEvents ++ events).filter _ = _
    rw [List.filter_append, none_, List.append_nil]
    rfl
  constructor
  · refine ⟨inv.ids, ?_, ?_, ?_, ?_⟩
    · intro event member
      rcases List.mem_append.mp member with old | added
      · exact inv.bound event old
      · exact (mine event added).owned
    · intro kind control intakeId
      show ((state.view.intakeEvents ++ events).filter _).length ≤ 1
      rw [List.filter_append]
      rcases choice with rfl | ⟨event, held, rfl⟩
      · rw [List.filter_nil, List.append_nil]
        exact inv.once kind control intakeId
      · by_cases matches_ : event.intakeId = intakeId ∧ event.eventType = kind
        · obtain ⟨rfl, rfl⟩ := matches_
          have first := (mine event List.mem_cons_self).first
          rw [ShadowView.eventsOfKind] at first
          rw [first]
          simp
        · rw [List.filter_cons_of_neg (by simpa using matches_), List.filter_nil, List.append_nil]
          exact inv.once kind control intakeId
    · intro event member isExcluded
      rcases List.mem_append.mp member with old | added
      · exact inv.reasons event old isExcluded
      · exact (mine event added).reason isExcluded
    · intro u event pending
      have different : u ≠ t := by
        rintro rfl
        simp [IntakeWorld.conclude] at pending
      have before : state.pending u = some event := by
        simpa [IntakeWorld.conclude, Function.update_of_ne different] using pending
      have staged := inv.staged u event before
      exact ⟨staged.kind, staged.reason, staged.owned,
        locks_closeSession _ u different staged.locked,
        (kept u different _ _ staged.owned staged.locked _).trans staged.first⟩
  · intro u different
    refine ⟨List.prefix_refl _, List.prefix_append _ _,
      fun key held => locks_closeSession key u different held,
      Function.update_of_ne different _ _, ?_,
      fun tenantId intakeId held owned kind _ => kept u different tenantId intakeId owned held kind⟩
    intro event member
    rcases List.mem_append.mp member with old | added
    · exact old
    · obtain ⟨_, -, same⟩ := List.mem_map.mp added
      exact absurd (congrArg Prod.fst same).symm different

theorem guarantee_crash_intake (inv : IntakeInv service state) :
    (intakeDiscipline service).Guarantee t state (state.crash t) := by
  have rolledBack := guarantee_conclude (t := t) inv (.inl rfl)
  have events : (state.conclude t []).view.intakeEvents = state.view.intakeEvents :=
    List.append_nil _
  have same : ∀ kind intakeId, (state.crash t).view.eventsOfKind kind intakeId =
      (state.conclude t []).view.eventsOfKind kind intakeId := by
    intro kind intakeId
    rw [ShadowView.eventsOfKind, ShadowView.eventsOfKind, events]
    rfl
  constructor
  · have ended := rolledBack.inv
    refine ⟨ended.ids, fun event member => ended.bound event (events ▸ member),
      fun kind control intakeId => same kind intakeId ▸ ended.once kind control intakeId,
      fun event member => ended.reasons event (events ▸ member), fun u event pending => ?_⟩
    have staged := ended.staged u event pending
    exact ⟨staged.kind, staged.reason, staged.owned, staged.locked, staged.first ▸ same _ _⟩
  · intro u different
    have relied := rolledBack.rely u different
    refine ⟨relied.intakes, List.prefix_refl _, relied.locks, relied.pending, fun _ own => own,
      fun tenantId intakeId held owned kind control =>
        (same kind intakeId).trans (relied.guarded tenantId intakeId held owned kind control)⟩

/-- `t` inserts a first event of an intake whose lock it holds. -/
theorem guarantee_insertPending (inv : IntakeInv service state) {event : IntakeEventRow}
    (staged : Staged service state.view t event) :
    (intakeDiscipline service).Guarantee t state
      { state with pending := Function.update state.pending t (some event) } := by
  constructor
  · refine ⟨inv.ids, inv.bound, inv.once, inv.reasons, fun u other pending => ?_⟩
    by_cases same : u = t
    · subst same
      obtain rfl : event = other := by simpa using pending
      exact staged
    · exact inv.staged u other (by simpa [Function.update_of_ne same] using pending)
  · intro u different
    exact ⟨List.prefix_refl _, List.prefix_refl _, fun _ held => held,
      Function.update_of_ne different _ _, fun _ own => own, fun _ _ _ _ _ _ => rfl⟩

end Steps

/-! ## `import_case` -/

section Import

variable {t : Tid}

/-- A statement of `import_case`. -/
def importKind : ActionKind Tid Input ShadowWorld := fun _ action =>
  ∀ t input base result after, (base.shadow.intakes.map (·.intakeId)).Nodup →
    action t input base = some (result, after) → Plain t base.shadow after.shadow

/-- A statement that leaves the tables and the locks alone. -/
theorem importKind_read {ρ : Type} {action : ShadowAction ρ}
    (still : ∀ t input base result after, action t input base = some (result, after) →
      after = base) : importKind _ action := by
  intro t input base result after ids answered
  rw [still t input base result after answered]
  exact plain_locks ids rfl rfl fun _ _ _ held => held

theorem importKind_advisoryLock (key : Int) : importKind _ (ShadowAction.advisoryLock key) := by
  intro t input base result after ids answered
  obtain ⟨free, -, rfl⟩ := advisoryLock_cases answered
  exact plain_locks ids rfl rfl (locks_setLock free)

theorem importKind_advisoryUnlock (key : Int) :
    importKind _ (ShadowAction.advisoryUnlock key) := by
  intro t input base result after ids answered
  unfold ShadowAction.advisoryUnlock at answered
  split at answered
  case isTrue own =>
    obtain ⟨-, rfl⟩ := Prod.mk.inj (Option.some.inj answered)
    exact plain_locks ids rfl rfl (locks_setLock (by simp [available, own]))
  case isFalse =>
    obtain ⟨-, rfl⟩ := Prod.mk.inj (Option.some.inj answered)
    exact plain_locks ids rfl rfl fun _ _ _ held => held

theorem importKind_close : importKind _ ShadowAction.close := by
  intro t input base result after ids answered
  obtain ⟨-, rfl⟩ := Prod.mk.inj (Option.some.inj answered)
  exact plain_locks ids rfl rfl locks_closeSession

theorem importKind_insertIntake (row : ShadowIntakeRow) :
    importKind _ (ShadowAction.insertIntake row) := by
  intro t input base result after ids answered
  obtain ⟨-, rfl, fresh⟩ | ⟨_, -, rfl⟩ := insertIntake_cases answered
  · refine ⟨List.prefix_append _ _, ?_, ⟨[], (List.append_nil _).symm, fun _ => nofun⟩,
      fun _ _ _ held => held⟩
    show ((base.shadow.intakes ++ [row]).map (·.intakeId)).Nodup
    rw [List.map_append, List.map_singleton, List.nodup_append_comm]
    exact List.nodup_cons.mpr ⟨fresh, ids⟩
  · exact plain_locks ids rfl rfl fun _ _ _ held => held

theorem importKind_insertIntakeEvent {event : IntakeEventRow}
    (other : event.eventType ∉ controlKinds) :
    importKind _ (ShadowAction.insertIntakeEvent event) := by
  intro t input base result after ids answered
  obtain ⟨-, rfl, present⟩ | ⟨-, rfl, -⟩ := insertIntakeEvent_cases answered
  · refine ⟨List.prefix_refl _, ids, ⟨[event], rfl, fun added member => ?_⟩,
      fun _ _ _ held => held⟩
    obtain rfl := List.mem_singleton.mp member
    obtain ⟨row, listed, same⟩ := List.any_eq_true.mp present
    simp only [Bool.and_eq_true, beq_iff_eq] at same
    exact ⟨other, row, listed, same⟩
  · exact plain_locks ids rfl rfl fun _ _ _ held => held

theorem every_settle {ρ : Type} (result : Except Failure ρ) :
    (settle result).Every importKind := by
  cases result <;> trivial

theorem every_lockAll (keys : List Int) : (lockAll keys).Every importKind := by
  induction keys with
  | nil => trivial
  | cons key rest inductionHypothesis =>
      exact Call.every_bind (Call.every_exec (importKind_advisoryLock key))
        fun _ => inductionHypothesis

theorem every_unlockAll (keys : List Int) : (unlockAll keys).Every importKind := by
  induction keys with
  | nil => trivial
  | cons key rest inductionHypothesis =>
      exact Call.every_bind (Call.every_exec (importKind_advisoryUnlock key))
        fun _ => inductionHypothesis

theorem every_observeOrImport (call : ImportCall) :
    (observeOrImport call).Every importKind := by
  have inserted : ∀ event : IntakeEventRow, event.eventType ∉ controlKinds →
      (perform (ShadowAction.insertIntakeEvent event)).Every importKind :=
    fun _ other => Call.every_exec (importKind_insertIntakeEvent other)
  refine Call.every_bind (Call.every_exec (importKind_read ?_)) fun found => ?_
  · intro t input base result after answered
    exact (Prod.mk.inj (Option.some.inj answered)).2.symm
  cases found with
  | some row =>
      show Call.Every importKind (if _ then _ else _)
      split
      · exact Call.every_bind (inserted (call.rejectedEvent row)
          (show "shadow_intake_rejected" ∉ controlKinds by decide))
          fun _ => Call.every_raise _
      · exact Call.every_bind (inserted (call.replayedEvent row)
          (show "shadow_intake_replayed" ∉ controlKinds by decide))
          fun _ => Call.every_pure _
  | none =>
      refine Call.every_bind (Call.every_exec (importKind_read ?_)) fun intakeId => ?_
      · intro t input base result after answered
        exact (Prod.mk.inj (Option.some.inj answered)).2.symm
      refine Call.every_bind (Call.every_exec (importKind_insertIntake _)) fun row => ?_
      exact Call.every_bind (inserted (call.importedEvent row)
          (show "shadow_intake_imported" ∉ controlKinds by decide))
        fun _ => Call.every_pure _

theorem every_importCase (service : ShadowService) (principal : Principal) (case : ShadowCase)
    (execute : Bool) : (service.importCase principal case execute).Every importKind := by
  refine Call.every_bind (every_settle _) fun _ => ?_
  refine Call.every_bind (Call.every_exec (importKind_read ?_)) fun now => ?_
  · intro t input base result after answered
    exact (Prod.mk.inj (Option.some.inj answered)).2.symm
  refine Call.every_bind ?_ fun imported => ?_
  · refine Call.every_bind (Call.every_attempt (Call.every_bind (every_lockAll _)
      fun _ => every_observeOrImport _)) fun result => ?_
    refine Call.every_bind (Call.every_bind (every_unlockAll _)
      fun _ => Call.every_exec importKind_close) fun _ => every_settle result
  · show Call.Every importKind (if _ then _ else _)
    split <;> trivial

end Import

end StockoutOps.Shadow
