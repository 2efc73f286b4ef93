import Mathlib.Data.List.Induction
import Mathlib.Data.List.Sort
import StockoutOps.Alerting.RecordHistory
import StockoutOps.Foundation.TransitionLog

/-!
Contract: the life of one alert, as its event history tells it.

Owns: the law that every history keeps (`LifecycleLaw`), and its proof for the
histories that calls build: the measured events form a chain of states, and
FIRED and RESOLVED are the changes of "firing" along it.

Does not own: how calls interleave.
-/

namespace StockoutOps.Alerting

open StockoutOps.Foundation

def EvaluationRow.measured (event : EvaluationRow) : Bool :=
  event.measurementStatus = .evaluated

def EvaluationRow.isLifecycle (event : EvaluationRow) : Bool :=
  event.transition.isLifecycle

/-- The state of the latest measured event. -/
def measuredState (events : List EvaluationRow) : Option AlertState :=
  ((events.filter (·.measured)).getLast?).bind (·.state)

/-- The event history of one alert, in the order of the evaluation ids. -/
structure LifecycleLaw {τ : Type} (platform : EvaluationPlatform) (calls : τ → Submission)
    (log : List (τ × EvaluationRow)) (events : List EvaluationRow) : Prop where
  /-- Each event is stored by a call, whose assessment decides its state. -/
  decided : ∀ event ∈ events, ∃ t, (t, event) ∈ log ∧
    (event.state, event.transition) =
      nextState event.previousState (calls t).request.assessment ∧
    event.measurementStatus = (calls t).request.assessment.measurementStatus
  /-- A measured event starts from the latest measured one before it. -/
  previous : ∀ before event after, events = before ++ event :: after → event.measured = true →
    event.previousState = measuredState before
  unmeasured : ∀ event ∈ events, event.measured = false → event.state = none
  /-- The measured events are the history they would be without the others. -/
  unaffected : ∀ before event after, events.filter (·.measured) = before ++ event :: after →
    event.previousState = before.getLast?.bind (·.state)
  /-- A measured event fires exactly when its assessment is breached. -/
  breached : ∀ event ∈ events, event.measured = true → ∃ t, (t, event) ∈ log ∧
    (event.state = some .firing ↔ (calls t).request.assessment.breached = some true)
  alternates : ∀ index transition,
    ((events.filter (·.isLifecycle)).map (·.transition))[index]? = some transition →
      transition = if index % 2 = 0 then .fired else .resolved
  /-- Firing holds from a FIRED to the next RESOLVED. -/
  firing : ∀ before, before <+: events →
    (measuredState before = some .firing ↔
      (before.filter (·.isLifecycle)).getLast?.map (·.transition) = some .fired)

/-! ## One event -/

section Event

variable {platform : EvaluationPlatform} {submission : Submission} {before : List EvaluationRow}
  {event : EvaluationRow}

theorem StoredBy.previousState (stored : StoredBy platform submission before event) :
    event.previousState = lastState before := by
  rw [stored.row]
  rfl

theorem StoredBy.decided (stored : StoredBy platform submission before event) :
    (event.state, event.transition) =
      nextState event.previousState submission.request.assessment := by
  rw [stored.row]
  rfl

theorem StoredBy.measurementStatus (stored : StoredBy platform submission before event) :
    event.measurementStatus = submission.request.assessment.measurementStatus := by
  rw [stored.row]
  rfl

/-- What `_next_state` makes of the three kinds of assessments. -/
theorem nextState_cases (previous : Option AlertState) (assessment : PolicyAssessment) :
    (assessment.measurementStatus = .unmeasured ∧
        nextState previous assessment = (none, .unmeasured)) ∨
      (assessment.measurementStatus = .evaluated ∧ assessment.breached = some true ∧
        nextState previous assessment =
          (some .firing, if previous = some .firing then .stillFiring else .fired)) ∨
      (assessment.measurementStatus = .evaluated ∧ assessment.breached ≠ some true ∧
        ∃ state transition, nextState previous assessment = (some state, transition) ∧
          state ≠ .firing ∧ transition ≠ .fired ∧
          (transition = .resolved ↔ previous = some .firing)) := by
  unfold nextState
  by_cases status : assessment.measurementStatus = .unmeasured
  · exact .inl ⟨status, if_pos status⟩
  have evaluated := MeasurementStatus.eq_evaluated status
  rw [if_neg status]
  by_cases breached : assessment.breached = some true
  · exact .inr (.inl ⟨evaluated, breached, if_pos breached⟩)
  rw [if_neg breached]
  refine .inr (.inr ⟨evaluated, breached, ?_⟩)
  by_cases firing : previous = some .firing
  · exact ⟨.resolved, .resolved, if_pos firing, nofun, nofun, by simp [firing]⟩
  · refine ⟨.ok, _, if_neg firing, nofun, ?_, ?_⟩
    · split <;> exact nofun
    · split <;> simp [firing]

/-- An event's state is null exactly when it is unmeasured. -/
theorem StoredBy.state_isSome (stored : StoredBy platform submission before event) :
    event.state.isSome = event.measured := by
  have decided := stored.decided
  rw [EvaluationRow.measured, stored.measurementStatus]
  obtain ⟨status, same⟩ | ⟨status, -, same⟩ | ⟨status, -, state, transition, same, -⟩ :=
    nextState_cases event.previousState submission.request.assessment <;>
  · rw [same] at decided
    simp [(Prod.mk.inj decided).1, status]

theorem StoredBy.breached_iff (stored : StoredBy platform submission before event)
    (measured : event.measured = true) :
    event.state = some .firing ↔ submission.request.assessment.breached = some true := by
  have decided := stored.decided
  rw [EvaluationRow.measured, stored.measurementStatus, decide_eq_true_eq] at measured
  obtain ⟨status, -⟩ | ⟨-, breached, same⟩ | ⟨-, breached, state, transition, same, other, -⟩ :=
    nextState_cases event.previousState submission.request.assessment
  · rw [status] at measured
    cases measured
  · rw [same] at decided
    simp [(Prod.mk.inj decided).1, breached]
  · rw [same] at decided
    simp [(Prod.mk.inj decided).1, breached, other]

def isFiring (state : Option AlertState) : Bool :=
  state = some .firing

/-- FIRED and RESOLVED are the changes of "firing". -/
theorem StoredBy.isLifecycle_eq (stored : StoredBy platform submission before event) :
    event.isLifecycle =
      (event.state.isSome && (isFiring event.previousState != isFiring event.state)) := by
  have decided := stored.decided
  unfold EvaluationRow.isLifecycle Transition.isLifecycle isFiring
  obtain ⟨-, same⟩ | ⟨-, -, same⟩ | ⟨-, -, state, transition, same, other, notFired, resolved⟩ :=
    nextState_cases event.previousState submission.request.assessment
  · rw [same] at decided
    obtain ⟨state, transition⟩ := Prod.mk.inj decided
    simp [state, transition]
  · rw [same] at decided
    obtain ⟨state, transition⟩ := Prod.mk.inj decided
    by_cases firing : event.previousState = some .firing <;> simp [state, transition, firing]
  · rw [same] at decided
    obtain ⟨state, transition⟩ := Prod.mk.inj decided
    by_cases firing : event.previousState = some .firing <;>
      simp [state, transition, firing, other, notFired, resolved]

theorem StoredBy.transition_of_lifecycle (stored : StoredBy platform submission before event)
    (lifecycle : event.isLifecycle = true) :
    event.transition = if isFiring event.state then .fired else .resolved := by
  have decided := stored.decided
  unfold EvaluationRow.isLifecycle Transition.isLifecycle at lifecycle
  unfold isFiring
  obtain ⟨-, same⟩ | ⟨-, -, same⟩ | ⟨-, -, state, transition, same, other, notFired, resolved⟩ :=
    nextState_cases event.previousState submission.request.assessment
  · rw [same] at decided
    obtain ⟨state, transition⟩ := Prod.mk.inj decided
    simp [transition] at lifecycle
  · rw [same] at decided
    obtain ⟨state, transition⟩ := Prod.mk.inj decided
    by_cases firing : event.previousState = some .firing <;> simp_all
  · rw [same] at decided
    obtain ⟨state, transition⟩ := Prod.mk.inj decided
    simp_all

end Event

/-! ## A history -/

/-- Every event of the list starts from the state of the events before it. -/
def Follows (platform : EvaluationPlatform) (events : List EvaluationRow) : Prop :=
  ∀ before event, before ++ [event] <+: events →
    ∃ submission, StoredBy platform submission before event

section History

variable {platform : EvaluationPlatform} {events before : List EvaluationRow}

theorem Follows.of_prefix (follows : Follows platform events) (inside : before <+: events) :
    Follows platform before :=
  fun earlier event here => follows earlier event (here.trans inside)

theorem Follows.stored (follows : Follows platform events) {event : EvaluationRow}
    (member : event ∈ events) :
    ∃ submission earlier, StoredBy platform submission earlier event := by
  obtain ⟨earlier, later, rfl⟩ := List.append_of_mem member
  obtain ⟨submission, stored⟩ := follows earlier event ⟨later, by simp⟩
  exact ⟨submission, earlier, stored⟩

theorem Follows.filter_measured (follows : Follows platform events) :
    events.filter (·.measured) = events.filter (·.state.isSome) := by
  refine List.filter_congr fun event member => ?_
  obtain ⟨submission, earlier, stored⟩ := follows.stored member
  exact stored.state_isSome.symm

theorem Follows.measuredState (follows : Follows platform events) :
    measuredState events = lastState events := by
  rw [Alerting.measuredState, lastState, follows.filter_measured]

theorem lastState_concat (event : EvaluationRow) :
    lastState (events ++ [event]) =
      if event.state.isSome then event.state else lastState events := by
  unfold lastState
  rw [List.filter_append]
  by_cases measured : event.state.isSome = true <;> simp [measured]

/-- The measured events are a chain of states, each starting where the last ended. -/
theorem Follows.chain (follows : Follows platform events) :
    TransitionLog.Chain EvaluationRow.previousState EvaluationRow.state (fun _ _ => True) none
      (events.filter (·.state.isSome)) (lastState events) := by
  induction events using List.reverseRecOn with
  | nil => rfl
  | append_singleton earlier event inductionHypothesis =>
      have chain := inductionHypothesis (follows.of_prefix (List.prefix_append _ _))
      obtain ⟨submission, stored⟩ := follows earlier event (List.prefix_refl _)
      rw [lastState_concat, List.filter_append]
      by_cases measured : event.state.isSome = true
      · simpa [measured] using chain.snoc stored.previousState trivial
      · simpa [measured] using chain

/-- "Firing" along the measured events. -/
theorem Follows.firing_chain (follows : Follows platform events) :
    TransitionLog.Chain (fun event : EvaluationRow => isFiring event.previousState)
      (fun event => isFiring event.state) (fun _ _ => True) false
      (events.filter (·.state.isSome)) (isFiring (lastState events)) :=
  follows.chain.map isFiring fun _ _ _ => trivial

/-- The lifecycle events are the changes of "firing". -/
theorem Follows.filter_lifecycle (follows : Follows platform events) :
    events.filter (·.isLifecycle) =
      TransitionLog.changes (fun event : EvaluationRow => isFiring event.previousState)
        (fun event => isFiring event.state) (events.filter (·.state.isSome)) := by
  rw [TransitionLog.changes, List.filter_filter]
  refine List.filter_congr fun event member => ?_
  obtain ⟨submission, earlier, stored⟩ := follows.stored member
  rw [stored.isLifecycle_eq, Bool.and_comm]

theorem Follows.map_transition (follows : Follows platform events) :
    (events.filter (·.isLifecycle)).map (·.transition) =
      ((events.filter (·.isLifecycle)).map (fun event => isFiring event.state)).map
        (fun firing => if firing then .fired else .resolved) := by
  rw [List.map_map]
  refine List.map_congr_left fun event member => ?_
  obtain ⟨inside, lifecycle⟩ := List.mem_filter.mp member
  obtain ⟨submission, earlier, stored⟩ := follows.stored inside
  exact stored.transition_of_lifecycle lifecycle

theorem Follows.alternates (follows : Follows platform events) {index : Nat}
    {transition : Transition}
    (found : ((events.filter (·.isLifecycle)).map (·.transition))[index]? = some transition) :
    transition = if index % 2 = 0 then .fired else .resolved := by
  rw [follows.map_transition, List.getElem?_map, follows.filter_lifecycle] at found
  obtain ⟨firing, at_, rfl⟩ := Option.map_eq_some_iff.mp found
  rw [follows.firing_chain.changes_alternate at_]
  split <;> rfl

theorem Follows.firing (follows : Follows platform events) :
    lastState events = some .firing ↔
      (events.filter (·.isLifecycle)).getLast?.map (·.transition) = some .fired := by
  have last := follows.firing_chain.last_eq_of_changes
  rw [← follows.filter_lifecycle] at last
  have observed : lastState events = some .firing ↔ isFiring (lastState events) = true := by
    simp [isFiring]
  have transitions : (events.filter (·.isLifecycle)).getLast?.map (·.transition) =
      ((events.filter (·.isLifecycle)).getLast?.map fun event => isFiring event.state).map
        (fun firing => if firing then .fired else .resolved) := by
    rw [← List.getLast?_map, follows.map_transition, List.getLast?_map, List.getLast?_map]
  rw [observed, last, transitions]
  cases ((events.filter (·.isLifecycle)).getLast?.map fun event => isFiring event.state) with
  | none => simp
  | some firing => cases firing <;> simp

end History

/-! ## The law -/

section Law

variable {τ : Type} {platform : EvaluationPlatform} {calls : τ → Submission}
  {log : List (τ × EvaluationRow)} {db : AlertDb} {tenantId fingerprint : String}

theorem HistoryInvariant.follows (invariant : HistoryInvariant platform calls log db) :
    Follows platform (db.history tenantId fingerprint) := by
  intro before event inside
  obtain ⟨t, -, stored⟩ := invariant.stored tenantId fingerprint before event inside
  exact ⟨calls t, stored⟩

/-- The rows of an alert are stored in the order of their ids. -/
theorem HistoryInvariant.events_eq (invariant : HistoryInvariant platform calls log db) :
    db.events tenantId fingerprint = db.history tenantId fingerprint :=
  List.Pairwise.insertionSort_eq
    ((invariant.increasing tenantId fingerprint).imp fun less => Int.le_of_lt less)

theorem HistoryInvariant.lifecycleLaw (invariant : HistoryInvariant platform calls log db) :
    LifecycleLaw platform calls log (db.events tenantId fingerprint) := by
  have follows : Follows platform (db.history tenantId fingerprint) := invariant.follows
  rw [invariant.events_eq]
  refine ⟨fun event member => ?_, fun before event after split measured => ?_,
    fun event member unmeasured => ?_, fun before event after split => ?_,
    fun event member measured => ?_, fun index transition found => follows.alternates found,
    fun before inside => ?_⟩
  · obtain ⟨t, before, -, logged, -, stored⟩ := invariant.place member
    exact ⟨t, logged, stored.decided, stored.measurementStatus⟩
  · have inside : before ++ [event] <+: db.history tenantId fingerprint := ⟨after, by simp [split]⟩
    obtain ⟨t, -, stored⟩ := invariant.stored tenantId fingerprint before event inside
    rw [stored.previousState,
      (follows.of_prefix ((List.prefix_append _ _).trans inside)).measuredState]
  · obtain ⟨t, before, -, -, -, stored⟩ := invariant.place member
    rw [← stored.state_isSome] at unmeasured
    simpa using unmeasured
  · have chain := follows.chain
    rw [← follows.filter_measured, split] at chain
    rw [chain.source_eq]
    cases before.getLast? <;> rfl
  · obtain ⟨t, before, -, logged, -, stored⟩ := invariant.place member
    exact ⟨t, logged, stored.breached_iff measured⟩
  · rw [(follows.of_prefix inside).measuredState]
    exact (follows.of_prefix inside).firing

end Law

end StockoutOps.Alerting
