import StockoutOps.Shadow.Schema

/-!
Contract: the statements of the application role on `shadow_run`.

Owns: INSERT, UPDATE and the trigger `enforce_shadow_run_mutation`.

Does not own: which statements the application issues.

The role has no DELETE. The trigger fires on an UPDATE; no trigger sees an
INSERT. The referenced `investigation_run` rows are those of one database.
-/

namespace StockoutOps.Shadow

open StockoutOps.Investigation StockoutOps.Sql

/-- `PERFORM 1 FROM investigation_run WHERE run_id = ... AND tenant_id = ...` -/
def investigationBound (investigation : Db) (row : ShadowRunRow) : Bool :=
  row.investigationRunId.any fun runId => (investigation.run? row.tenantId runId).isSome

/-- The columns whose absence the trigger calls an incomplete result contract. -/
def ShadowRunOutcome.incomplete (row : ShadowRunOutcome) : Bool :=
  row.investigationRunId.isNone || row.providerLabel.isNone || row.outputJson.isNone ||
    row.diffJson.isNone || row.outputHash.isNone || row.diffHash.isNone ||
    row.latencyMs.isNone || row.costEvidenceLabel.isNone

/-- The UPDATE branch of the trigger. -/
def enforceShadowRunMutation (investigation : Db) (old new : ShadowRunRow) :
    Except SqlError Unit := do
  raiseIf "shadow_run may transition only once from started to a terminal status"
    (old.status ≠ .started ∨ new.status = .started)
  raiseIf "shadow_run immutable control fields cannot change"
    (new.toShadowRunControl ≠ old.toShadowRunControl)
  raiseIf "terminal shadow_run requires completed_at" (new.completedAt.isNone = true)
  raiseIf "terminal shadow_run requires a complete result contract" (new.incomplete = true)
  raiseIf "shadow_run investigation tenant binding is invalid"
    (investigationBound investigation new = false)

/-- `REFERENCES investigation_run(run_id)` -/
def investigationExists (investigation : Db) (row : ShadowRunRow) : Bool :=
  nullOr (fun runId => (investigation.runs runId).isSome) row.investigationRunId

def insertShadowRun (investigation : Db) (runs : List ShadowRunRow) (new : ShadowRunRow) :
    Except SqlError (List ShadowRunRow) := do
  checkAll new.checks
  require (.uniqueViolation "shadow_run_pkey")
    (new.shadowRunId ∉ runs.map (·.shadowRunId))
  require (.uniqueViolation "shadow_run_tenant_id_idempotency_key_key")
    (new.keyId ∉ runs.map (·.keyId))
  require (.uniqueViolation "shadow_run_tenant_id_case_id_case_version_processor_version_key")
    (new.caseIdentity ∉ runs.map (·.caseIdentity))
  require (.foreignKeyViolation "shadow_run_investigation_run_id_fkey")
    (investigationExists investigation new = true)
  .ok (runs ++ [new])

def updateShadowRunRow (investigation : Db) (old new : ShadowRunRow) :
    Except SqlError ShadowRunRow := do
  enforceShadowRunMutation investigation old new
  checkAll new.checks
  .ok new

/-- `UPDATE shadow_run SET ... WHERE ...`; both parts may read the whole row. -/
def updateShadowRun (investigation : Db) (where_ : ShadowRunRow → Bool)
    (set : ShadowRunRow → ShadowRunRow) (runs : List ShadowRunRow) :
    Except SqlError (List ShadowRunRow) :=
  runs.mapM fun row =>
    if where_ row then updateShadowRunRow investigation row (set row) else .ok row

/-- A statement of the role. -/
inductive ShadowStatement where
  | insert (row : ShadowRunRow)
  | update (where_ : ShadowRunRow → Bool) (set : ShadowRunRow → ShadowRunRow)

namespace ShadowStatement

def execute (investigation : Db) (runs : List ShadowRunRow) :
    ShadowStatement → Except SqlError (List ShadowRunRow)
  | .insert row => insertShadowRun investigation runs row
  | .update where_ set => updateShadowRun investigation where_ set runs

/-- A statement that raises has no effect. -/
def apply (investigation : Db) (runs : List ShadowRunRow) (statement : ShadowStatement) :
    List ShadowRunRow :=
  match statement.execute investigation runs with
  | .ok next => next
  | .error _ => runs

def run (investigation : Db) (runs : List ShadowRunRow) (statements : List ShadowStatement) :
    List ShadowRunRow :=
  statements.foldl (apply investigation) runs

end ShadowStatement

/-! ## What an accepted statement did -/

section Accepted

variable {investigation : Db} {runs next : List ShadowRunRow} {old new : ShadowRunRow}

theorem insertShadowRun_eq_ok :
    insertShadowRun investigation runs new = .ok next ↔
      (∀ check ∈ new.checks, check.2 = true) ∧ new.shadowRunId ∉ runs.map (·.shadowRunId) ∧
        new.keyId ∉ runs.map (·.keyId) ∧ new.caseIdentity ∉ runs.map (·.caseIdentity) ∧
        investigationExists investigation new = true ∧ next = runs ++ [new] := by
  simp only [insertShadowRun, guard_bind_eq_ok, checkAll_eq_ok, require_eq_ok, Except.ok.injEq,
    eq_comm (a := runs ++ [new])]

/-- What the trigger lets through. -/
structure Completed (investigation : Db) (old new : ShadowRunRow) : Prop where
  started : old.status = .started
  terminal : new.status ≠ .started
  control : new.toShadowRunControl = old.toShadowRunControl
  completedAt : new.completedAt.isSome = true
  complete : new.incomplete = false
  bound : investigationBound investigation new = true

theorem enforceShadowRunMutation_eq_ok {done : Unit} :
    enforceShadowRunMutation investigation old new = .ok done ↔
      Completed investigation old new := by
  simp only [enforceShadowRunMutation, guard_bind_eq_ok, raiseIf_eq_ok, not_or, not_not,
    Bool.not_eq_true, Option.isNone_eq_false_iff, Bool.not_eq_false]
  constructor
  · rintro ⟨⟨started, terminal⟩, control, completedAt, complete, bound⟩
    exact ⟨started, terminal, control, completedAt, complete, bound⟩
  · rintro ⟨started, terminal, control, completedAt, complete, bound⟩
    exact ⟨⟨started, terminal⟩, control, completedAt, complete, bound⟩

theorem updateShadowRunRow_eq_ok {row : ShadowRunRow} :
    updateShadowRunRow investigation old new = .ok row ↔
      Completed investigation old new ∧ (∀ check ∈ new.checks, check.2 = true) ∧ row = new := by
  simp only [updateShadowRunRow, guard_bind_eq_ok, enforceShadowRunMutation_eq_ok,
    checkAll_eq_ok, Except.ok.injEq, eq_comm (a := new)]

/-- What an accepted UPDATE made of a row. -/
def updatedRow (where_ : ShadowRunRow → Bool) (set : ShadowRunRow → ShadowRunRow)
    (row : ShadowRunRow) : ShadowRunRow :=
  if where_ row then set row else row

theorem updateShadowRun_eq_ok {where_ : ShadowRunRow → Bool}
    {set : ShadowRunRow → ShadowRunRow} :
    updateShadowRun investigation where_ set runs = .ok next ↔
      next = runs.map (updatedRow where_ set) ∧ ∀ row ∈ runs, where_ row = true →
        Completed investigation row (set row) ∧ ∀ check ∈ (set row).checks, check.2 = true := by
  have functional : ∀ row value,
      (if where_ row then updateShadowRunRow investigation row (set row) else .ok row) =
        (.ok value : Except SqlError ShadowRunRow) → value = updatedRow where_ set row := by
    intro row value accepted
    unfold updatedRow
    split at accepted
    case isTrue selected =>
      rw [if_pos selected]
      exact (updateShadowRunRow_eq_ok.mp accepted).2.2
    case isFalse other =>
      rw [if_neg other]
      exact (Except.ok.inj accepted).symm
  rw [updateShadowRun, mapM_eq_ok_map functional]
  refine and_congr_right fun _ => forall₂_congr fun row _ => ?_
  unfold updatedRow
  cases selected : where_ row with
  | true => simp [updateShadowRunRow_eq_ok]
  | false => simp

end Accepted

end StockoutOps.Shadow
