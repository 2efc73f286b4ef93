import StockoutOps.Shadow.Repository

/-!
Contract: what each statement of the shadow repositories can do.

Owns: the answers of a statement and the state each of them leaves, as one
lemma for each statement, and the fields an update of the view leaves alone.

Does not own: what callers know when they execute a statement.
-/

namespace StockoutOps.Shadow

open StockoutOps.Investigation StockoutOps.Sql StockoutOps.Foundation.Interleaving

/-! ## Answers -/

section Answers

variable {ρ : Type} {state after : ShadowWorld} {result : Except Failure ρ}
  {outcome : Except SqlError (ρ × ShadowWorld)}

theorem answerOf_eq_some :
    answerOf state outcome = some (result, after) ↔
      (∃ value, outcome = .ok (value, after) ∧ result = .ok value) ∨
        ∃ error, outcome = .error error ∧ result = .error (.database error) ∧ after = state := by
  cases outcome with
  | ok answer =>
      obtain ⟨value, last⟩ := answer
      simp only [answerOf, Option.some.injEq, Prod.mk.injEq, Except.ok.injEq, reduceCtorEq,
        false_and, exists_false, or_false]
      constructor
      · rintro ⟨rfl, rfl⟩
        exact ⟨value, ⟨rfl, rfl⟩, rfl⟩
      · rintro ⟨value, ⟨rfl, rfl⟩, rfl⟩
        exact ⟨rfl, rfl⟩
  | error error =>
      simp only [answerOf, Option.some.injEq, Prod.mk.injEq, reduceCtorEq, false_and,
        exists_false, Except.error.injEq, false_or]
      constructor
      · rintro ⟨rfl, rfl⟩
        exact ⟨error, rfl, rfl, rfl⟩
      · rintro ⟨error, rfl, rfl, rfl⟩
        exact ⟨rfl, rfl⟩

theorem answerOf_isSome (state : ShadowWorld) (outcome : Except SqlError (ρ × ShadowWorld)) :
    ∃ answer, answerOf state outcome = some answer := by
  cases outcome with
  | ok answer => exact ⟨_, rfl⟩
  | error error => exact ⟨_, rfl⟩

end Answers

section Statements

variable {t : Tid} {input : Input} {state after : ShadowWorld}

/-- The state with another shadow part. -/
abbrev ShadowWorld.withShadow (state : ShadowWorld) (shadow : ShadowView) : ShadowWorld :=
  { state with shadow := shadow }

theorem advisoryLock_cases {key : Int} {result : Except Failure Unit}
    (answered : ShadowAction.advisoryLock key t input state = some (result, after)) :
    available (state.shadow.sessionLocks key) t = true ∧ result = .ok () ∧
      after = state.withShadow (state.shadow.setLock key (some t)) := by
  unfold ShadowAction.advisoryLock at answered
  split at answered
  case isTrue free =>
    obtain ⟨rfl, rfl⟩ := Prod.mk.inj (Option.some.inj answered)
    exact ⟨free, rfl, rfl⟩
  case isFalse => cases answered

/-- The statement that inserts a run does so, or is refused. -/
theorem insertStarted_cases {row : ShadowRunRow} {result : Except Failure ShadowRunRow}
    (answered : ShadowAction.insertStarted row t input state = some (result, after)) :
    (result = .ok row ∧ after = state.withShadow (state.shadow.addRun t row) ∧
        row.shadowRunId ∉ state.shadow.runs.map (·.shadowRunId) ∧
        row.keyId ∉ state.shadow.runs.map (·.keyId) ∧
        row.caseIdentity ∉ state.shadow.runs.map (·.caseIdentity)) ∨
      ∃ error, result = .error (.database error) ∧ after = state := by
  unfold ShadowAction.insertStarted at answered
  rcases answerOf_eq_some.mp answered with ⟨value, accepted, rfl⟩ | ⟨error, -, rfl, rfl⟩
  · obtain ⟨next, inserted, same⟩ := bind_eq_ok.mp accepted
    obtain ⟨rfl, rfl⟩ := Prod.mk.inj (Except.ok.inj same)
    obtain ⟨-, id, key, case, -, -⟩ := insertShadowRun_eq_ok.mp inserted
    exact .inl ⟨rfl, rfl, id, key, case⟩
  · exact .inr ⟨error, rfl, rfl⟩

theorem eventAdmitted_eq_ok {view : ShadowView} {event : ShadowEventRow} {done : Unit} :
    ShadowAction.eventAdmitted view event = .ok done ↔
      event.payload.storable = true ∧ view.runExists event.shadowRunId event.tenantId = true := by
  simp only [ShadowAction.eventAdmitted, guard_bind_eq_ok, require_eq_ok]

theorem insertShadowEvent_cases {event : ShadowEventRow} {result : Except Failure Unit}
    (answered : ShadowAction.insertShadowEvent event t input state = some (result, after)) :
    (result = .ok () ∧ after = state.withShadow (state.shadow.addEvent t event) ∧
        state.shadow.runExists event.shadowRunId event.tenantId = true) ∨
      (∃ error, result = .error (.database error)) ∧ after = state ∧
        ¬ (event.payload.storable = true ∧
          state.shadow.runExists event.shadowRunId event.tenantId = true) := by
  unfold ShadowAction.insertShadowEvent at answered
  rcases answerOf_eq_some.mp answered with ⟨value, accepted, rfl⟩ | ⟨error, refused, rfl, same⟩
  · obtain ⟨_, admitted, same⟩ := bind_eq_ok.mp accepted
    obtain ⟨rfl, rfl⟩ := Prod.mk.inj (Except.ok.inj same)
    exact .inl ⟨rfl, rfl, (eventAdmitted_eq_ok.mp admitted).2⟩
  · refine .inr ⟨⟨error, rfl⟩, same, fun admitted => ?_⟩
    rw [show ShadowAction.eventAdmitted state.shadow event = .ok () from
      eventAdmitted_eq_ok.mpr admitted] at refused
    cases refused

/-- The row that `complete` selects. -/
def isStarted (tenantId : String) (shadowRunId : ShadowRunId) (row : ShadowRunRow) : Bool :=
  row.shadowRunId == shadowRunId && row.tenantId == tenantId && row.status == .started

theorem isStarted_iff {tenantId : String} {shadowRunId : ShadowRunId} {row : ShadowRunRow} :
    isStarted tenantId shadowRunId row = true ↔
      row.shadowRunId = shadowRunId ∧ row.tenantId = tenantId ∧ row.status = .started := by
  simp [isStarted, and_assoc]

/-- The row with its outcome. -/
def ShadowRunRow.withOutcome (row : ShadowRunRow) (outcome : ShadowRunOutcome) : ShadowRunRow :=
  { row with toShadowRunOutcome := outcome }

@[simp] theorem ShadowRunRow.withOutcome_control (row : ShadowRunRow)
    (outcome : ShadowRunOutcome) :
    (row.withOutcome outcome).toShadowRunControl = row.toShadowRunControl := rfl

/-- The rows after a completion. -/
def completedRuns (tenantId : String) (shadowRunId : ShadowRunId) (outcome : ShadowRunOutcome)
    (runs : List ShadowRunRow) : List ShadowRunRow :=
  runs.map (updatedRow (isStarted tenantId shadowRunId) (·.withOutcome outcome))

/-- `complete` finds no row, is refused, or completes the one row it selects. -/
theorem completeShadowRun_cases {tenantId : String} {shadowRunId : ShadowRunId}
    {completion : ShadowAction.Completion} {result : Except Failure (Option ShadowRunRow)}
    (answered : ShadowAction.completeShadowRun tenantId shadowRunId completion t input state =
      some (result, after)) :
    (after = state ∧ (result = .ok none ∨ ∃ error, result = .error (.database error))) ∨
      ∃ row ∈ state.shadow.runs, isStarted tenantId shadowRunId row = true ∧
        result = .ok (some (row.withOutcome completion.outcome)) ∧
        Completed state.world.view.db row (row.withOutcome completion.outcome) ∧
        after = state.withShadow (state.shadow.addCompletion t shadowRunId
          (completedRuns tenantId shadowRunId completion.outcome state.shadow.runs)
          completion.diffs completion.event) := by
  unfold ShadowAction.completeShadowRun at answered
  rcases answerOf_eq_some.mp answered with ⟨value, accepted, rfl⟩ | ⟨error, -, rfl, rfl⟩
  · obtain ⟨-, rest⟩ := guard_bind_eq_ok.mp accepted
    obtain ⟨runs, updated, found⟩ := bind_eq_ok.mp rest
    obtain ⟨rfl, admitted⟩ := updateShadowRun_eq_ok.mp updated
    revert found
    cases selected : state.shadow.runs.find? (isStarted tenantId shadowRunId) with
    | none =>
        intro found
        have same : state.shadow.runs.find? (fun row : ShadowRunRow =>
          row.shadowRunId == shadowRunId && row.tenantId == tenantId &&
            row.status == .started) = none := selected
        rw [same] at found
        obtain ⟨rfl, rfl⟩ := Prod.mk.inj (Except.ok.inj found)
        exact .inl ⟨rfl, .inl rfl⟩
    | some row =>
        intro found
        have same : state.shadow.runs.find? (fun row : ShadowRunRow =>
          row.shadowRunId == shadowRunId && row.tenantId == tenantId &&
            row.status == .started) = some row := selected
        rw [same] at found
        have member := List.mem_of_find?_eq_some selected
        have picked := List.find?_some selected
        obtain ⟨-, rest⟩ := guard_bind_eq_ok.mp found
        obtain ⟨-, done⟩ := guard_bind_eq_ok.mp rest
        obtain ⟨rfl, rfl⟩ := Prod.mk.inj (Except.ok.inj done)
        exact .inr ⟨row, member, picked, rfl, (admitted row member picked).1, rfl⟩
  · exact .inl ⟨rfl, .inr ⟨error, rfl⟩⟩

theorem insertIntake_cases {row : ShadowIntakeRow} {result : Except Failure ShadowIntakeRow}
    (answered : ShadowAction.insertIntake row t input state = some (result, after)) :
    (result = .ok row ∧ after = state.withShadow (state.shadow.addIntake t row) ∧
        row.intakeId ∉ state.shadow.intakes.map (·.intakeId)) ∨
      ∃ error, result = .error (.database error) ∧ after = state := by
  unfold ShadowAction.insertIntake at answered
  rcases answerOf_eq_some.mp answered with ⟨value, accepted, rfl⟩ | ⟨error, -, rfl, rfl⟩
  · simp only [guard_bind_eq_ok, require_eq_ok] at accepted
    obtain ⟨-, -, id, -, same⟩ := accepted
    obtain ⟨rfl, rfl⟩ := Prod.mk.inj (Except.ok.inj same)
    exact .inl ⟨rfl, rfl, id⟩
  · exact .inr ⟨error, rfl, rfl⟩

theorem insertIntakeEvent_cases {event : IntakeEventRow} {result : Except Failure Unit}
    (answered : ShadowAction.insertIntakeEvent event t input state = some (result, after)) :
    (result = .ok () ∧ after = state.withShadow (state.shadow.addIntakeEvent t event) ∧
        state.shadow.intakeExists event.intakeId event.tenantId = true) ∨
      (∃ error, result = .error (.database error)) ∧ after = state ∧
        ¬ (event.payload.storable = true ∧
          state.shadow.intakeExists event.intakeId event.tenantId = true) := by
  unfold ShadowAction.insertIntakeEvent at answered
  rcases answerOf_eq_some.mp answered with ⟨value, accepted, rfl⟩ | ⟨error, refused, rfl, same⟩
  · simp only [guard_bind_eq_ok, require_eq_ok] at accepted
    obtain ⟨-, present, same⟩ := accepted
    obtain ⟨rfl, rfl⟩ := Prod.mk.inj (Except.ok.inj same)
    exact .inl ⟨rfl, rfl, present⟩
  · refine .inr ⟨⟨error, rfl⟩, same, fun admitted => ?_⟩
    have accepted : (do
        require (.dataError "invalid input syntax for type json") (event.payload.storable = true)
        require (.foreignKeyViolation "shadow_case_intake_event_intake_id_tenant_id_fkey")
          (state.shadow.intakeExists event.intakeId event.tenantId = true)
        .ok ((), { state with shadow := state.shadow.addIntakeEvent t event })) =
        (.ok ((), { state with shadow := state.shadow.addIntakeEvent t event }) :
          Except SqlError (Unit × ShadowWorld)) := by
      simp only [guard_bind_eq_ok, require_eq_ok]
      exact ⟨admitted.1, admitted.2, trivial⟩
    rw [accepted] at refused
    cases refused

end Statements

end StockoutOps.Shadow
