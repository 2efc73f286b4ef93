import StockoutOps.Shadow.Contracts
import StockoutOps.Shadow.Statements

/-!
Contract: the terminal rows of `shadow_run`, under every statement of the role.

Owns: what a terminal row must hold, that it never changes, and the statements
under which every terminal row holds it.

Does not own: the application's own statements, which are some of the role's.

The trigger checks a row that becomes terminal by an UPDATE. A row that is
inserted as terminal is seen by the CHECK constraints alone; and the trigger
takes the JSON `null` for a result, which the driver reads as `None`.
-/

namespace StockoutOps.Shadow

open StockoutOps.Investigation StockoutOps.Sql

/-- The result contract of a terminal row. -/
structure TerminalComplete (investigation : Db) (models : ShadowModels) (row : ShadowRunRow) :
    Prop where
  investigationRun : ∃ runId, row.investigationRunId = some runId ∧
    (investigation.run? row.tenantId runId).isSome = true
  providerLabel : row.providerLabel.isSome = true
  outputJson : row.outputJson.isSome = true
  diffJson : row.diffJson.isSome = true
  outputHash : row.outputHash.isSome = true
  diffHash : row.diffHash.isSome = true
  latencyMs : row.latencyMs.isSome = true
  costEvidenceLabel : row.costEvidenceLabel.isSome = true
  completedAt : row.completedAt.isSome = true
  provenance : provenanceBaselineConsistent row.toShadowRunControl = true
  execute : row.execute = false
  externalActionCount : row.externalActionCount = 0
  result : ∀ replay, resultFromRecord models row.record replay ≠ .error missingResult

/-- In every state of the run the terminal rows are complete, and they stay. -/
def TerminalRunsComplete (investigation : Db) (models : ShadowModels)
    (statements : List ShadowStatement) : Prop :=
  ∀ before after, statements = before ++ after →
    ∀ row ∈ ShadowStatement.run investigation [] before, row.status ≠ .started →
      TerminalComplete investigation models row ∧
        row ∈ ShadowStatement.run investigation [] statements

/-- What an INSERT leaves unchecked of a terminal row, and an UPDATE of a JSON value. -/
structure ResultWritten (investigation : Db) (row : ShadowRunRow) : Prop where
  completedAt : row.completedAt.isSome = true
  complete : row.incomplete = false
  bound : investigationBound investigation row = true
  outputJson : row.outputJson ≠ some .null
  diffJson : row.diffJson ≠ some .null

/-- No accepted INSERT writes a terminal row without its result, and no accepted
UPDATE the JSON `null` for one. -/
def WritesResults (investigation : Db) (runs : List ShadowRunRow) : ShadowStatement → Prop
  | .insert row => ∀ next, insertShadowRun investigation runs row = .ok next →
      row.status ≠ .started → ResultWritten investigation row
  | .update where_ set => ∀ next, updateShadowRun investigation where_ set runs = .ok next →
      ∀ row ∈ runs, where_ row = true →
        (set row).outputJson ≠ some .null ∧ (set row).diffJson ≠ some .null

/-- Every statement of the run meets a condition on the rows before it. -/
def EachStatement (investigation : Db)
    (Keeps : List ShadowRunRow → ShadowStatement → Prop) :
    List ShadowRunRow → List ShadowStatement → Prop
  | _, [] => True
  | runs, statement :: rest =>
      Keeps runs statement ∧
        EachStatement investigation Keeps (statement.apply investigation runs) rest

/-! ## One row -/

section Row

variable {investigation : Db} {models : ShadowModels} {row : ShadowRunRow}

theorem loadJsonb_isSome_iff {value : Option Json} :
    (loadJsonb value).isSome = true ↔ value.isSome = true ∧ value ≠ some .null := by
  unfold loadJsonb
  split <;> simp_all

theorem incomplete_eq_false_iff :
    row.incomplete = false ↔ row.investigationRunId.isSome = true ∧
      row.providerLabel.isSome = true ∧ row.outputJson.isSome = true ∧
      row.diffJson.isSome = true ∧ row.outputHash.isSome = true ∧ row.diffHash.isSome = true ∧
      row.latencyMs.isSome = true ∧ row.costEvidenceLabel.isSome = true := by
  simp only [ShadowRunOutcome.incomplete, Bool.or_eq_false_iff, Option.isNone_eq_false_iff,
    and_assoc]

theorem investigationBound_iff :
    investigationBound investigation row = true ↔ ∃ runId, row.investigationRunId = some runId ∧
      (investigation.run? row.tenantId runId).isSome = true := by
  simp [investigationBound, Option.any_eq_true]

/-- On a row the CHECK constraints accept, the rest is up to the writer. -/
theorem terminalComplete_iff (checks : ∀ check ∈ row.checks, check.2 = true) :
    TerminalComplete investigation models row ↔ ResultWritten investigation row := by
  simp only [ShadowRunRow.checks, List.forall_mem_cons] at checks
  obtain ⟨-, -, -, -, -, -, -, -, execute, -, -, -, -, external, provenance, -⟩ := checks
  constructor
  · intro complete
    have loaded := (resultFromRecord_ne_missing_iff models row.record true).mp
      (complete.result true)
    simp only [ShadowRunRow.hasResult, ShadowRunRow.record, Bool.and_eq_true,
      loadJsonb_isSome_iff] at loaded
    obtain ⟨⟨⟨⟨investigationRun, output⟩, diff⟩, -⟩, -⟩ := loaded
    exact
      { completedAt := complete.completedAt
        complete := incomplete_eq_false_iff.mpr ⟨investigationRun, complete.providerLabel,
          output.1, diff.1, complete.outputHash, complete.diffHash, complete.latencyMs,
          complete.costEvidenceLabel⟩
        bound := investigationBound_iff.mpr complete.investigationRun
        outputJson := output.2
        diffJson := diff.2 }
  · intro written
    obtain ⟨investigationRun, providerLabel, outputJson, diffJson, outputHash, diffHash,
      latencyMs, costEvidenceLabel⟩ := incomplete_eq_false_iff.mp written.complete
    have loaded : row.record.hasResult = true := by
      simp only [ShadowRunRow.hasResult, ShadowRunRow.record, Bool.and_eq_true,
        loadJsonb_isSome_iff]
      exact ⟨⟨⟨⟨investigationRun, outputJson, written.outputJson⟩, diffJson, written.diffJson⟩,
        outputHash⟩, diffHash⟩
    exact
      { investigationRun := investigationBound_iff.mp written.bound
        providerLabel := providerLabel
        outputJson := outputJson
        diffJson := diffJson
        outputHash := outputHash
        diffHash := diffHash
        latencyMs := latencyMs
        costEvidenceLabel := costEvidenceLabel
        completedAt := written.completedAt
        provenance := provenance
        execute := by simpa using execute
        externalActionCount := by simpa using external
        result := fun replay => (resultFromRecord_ne_missing_iff models _ replay).mpr loaded }

/-- What the trigger let through lacks a result only as the JSON `null`. -/
theorem Completed.resultWritten_iff {old : ShadowRunRow}
    (completed : Completed investigation old row) :
    ResultWritten investigation row ↔
      row.outputJson ≠ some .null ∧ row.diffJson ≠ some .null :=
  ⟨fun written => ⟨written.outputJson, written.diffJson⟩, fun ⟨output, diff⟩ =>
    ⟨completed.completedAt, completed.complete, completed.bound, output, diff⟩⟩

end Row

/-! ## One statement -/

section Statements

variable {investigation : Db} {models : ShadowModels} {runs next : List ShadowRunRow}
  {statement : ShadowStatement}

/-- The terminal rows of a table are complete. -/
def TerminalRowsComplete (investigation : Db) (models : ShadowModels)
    (runs : List ShadowRunRow) : Prop :=
  ∀ row ∈ runs, row.status ≠ .started → TerminalComplete investigation models row

/-- No statement changes a terminal row. -/
theorem terminal_mem_apply {row : ShadowRunRow} (member : row ∈ runs)
    (terminal : row.status ≠ .started) : row ∈ statement.apply investigation runs := by
  unfold ShadowStatement.apply
  split
  case h_2 => exact member
  case h_1 next accepted =>
    cases statement with
    | insert new =>
        obtain ⟨-, -, -, -, -, rfl⟩ := insertShadowRun_eq_ok.mp accepted
        exact List.mem_append_left _ member
    | update where_ set =>
        obtain ⟨rfl, updates⟩ := updateShadowRun_eq_ok.mp accepted
        refine List.mem_map.mpr ⟨row, member, if_neg fun selected => ?_⟩
        exact terminal (updates row member selected).1.started

theorem terminalRowsComplete_apply_iff :
    TerminalRowsComplete investigation models (statement.apply investigation runs) ↔
      TerminalRowsComplete investigation models runs ∧
        WritesResults investigation runs statement := by
  have older (complete : TerminalRowsComplete investigation models
      (statement.apply investigation runs)) : TerminalRowsComplete investigation models runs :=
    fun row member terminal => complete row (terminal_mem_apply member terminal) terminal
  refine ⟨fun complete => ⟨older complete, ?_⟩, fun ⟨complete, writes⟩ => ?_⟩
  · cases statement with
    | insert new =>
        intro next accepted terminal
        obtain ⟨checks, -, -, -, -, rfl⟩ := insertShadowRun_eq_ok.mp accepted
        refine (terminalComplete_iff checks).mp (complete new ?_ terminal)
        simp [ShadowStatement.apply, ShadowStatement.execute, accepted]
    | update where_ set =>
        intro next accepted row member selected
        obtain ⟨rfl, updates⟩ := updateShadowRun_eq_ok.mp accepted
        obtain ⟨completed, checks⟩ := updates row member selected
        refine completed.resultWritten_iff.mp ((terminalComplete_iff checks).mp
          (complete (set row) ?_ completed.terminal))
        simp only [ShadowStatement.apply, ShadowStatement.execute, accepted]
        exact List.mem_map.mpr ⟨row, member, if_pos selected⟩
  · unfold ShadowStatement.apply
    split
    case h_2 => exact complete
    case h_1 next accepted =>
      cases statement with
      | insert new =>
          have written := writes next accepted
          obtain ⟨checks, -, -, -, -, rfl⟩ := insertShadowRun_eq_ok.mp accepted
          intro row member terminal
          rcases List.mem_append.mp member with old | added
          · exact complete row old terminal
          · obtain rfl := List.mem_singleton.mp added
            exact (terminalComplete_iff checks).mpr (written terminal)
      | update where_ set =>
          have written := writes next accepted
          obtain ⟨rfl, updates⟩ := updateShadowRun_eq_ok.mp accepted
          intro row member terminal
          obtain ⟨old, oldMember, rfl⟩ := List.mem_map.mp member
          unfold updatedRow at terminal ⊢
          split at terminal
          case isFalse other =>
            rw [if_neg other]
            exact complete old oldMember terminal
          case isTrue selected =>
            rw [if_pos selected]
            obtain ⟨completed, checks⟩ := updates old oldMember selected
            exact (terminalComplete_iff checks).mpr
              (completed.resultWritten_iff.mpr (written old oldMember selected))

/-! ## Every run -/

theorem terminal_mem_run (statements : List ShadowStatement) {row : ShadowRunRow}
    (member : row ∈ runs) (terminal : row.status ≠ .started) :
    row ∈ ShadowStatement.run investigation runs statements := by
  induction statements generalizing runs with
  | nil => exact member
  | cons statement rest inductionHypothesis =>
      exact inductionHypothesis (terminal_mem_apply member terminal)

theorem terminalRowsComplete_run_iff (statements : List ShadowStatement) :
    TerminalRowsComplete investigation models
        (ShadowStatement.run investigation runs statements) ↔
      TerminalRowsComplete investigation models runs ∧
        EachStatement investigation (WritesResults investigation) runs statements := by
  induction statements generalizing runs with
  | nil => exact ⟨fun complete => ⟨complete, trivial⟩, And.left⟩
  | cons statement rest inductionHypothesis =>
      have later : TerminalRowsComplete investigation models
          (ShadowStatement.run investigation runs (statement :: rest)) ↔ _ := inductionHypothesis
      rw [later, terminalRowsComplete_apply_iff, and_assoc]
      rfl

end Statements

/-- The terminal rows are complete in every state of a run, and load, exactly
when its INSERTs of terminal rows and its UPDATEs write every result. -/
theorem terminal_runs_complete_iff (investigation : Db) (models : ShadowModels)
    (statements : List ShadowStatement) :
    TerminalRunsComplete investigation models statements ↔
      EachStatement investigation (WritesResults investigation) [] statements := by
  have final : EachStatement investigation (WritesResults investigation) [] statements ↔
      TerminalRowsComplete investigation models
        (ShadowStatement.run investigation [] statements) := by
    rw [terminalRowsComplete_run_iff]
    exact ⟨fun writes => ⟨fun _ member => absurd member List.not_mem_nil, writes⟩, And.right⟩
  rw [final]
  constructor
  · intro complete row member terminal
    exact (complete statements [] (List.append_nil _).symm row member terminal).1
  · rintro complete before after rfl row member terminal
    have stays : row ∈ ShadowStatement.run investigation [] (before ++ after) := by
      rw [ShadowStatement.run, List.foldl_append]
      exact terminal_mem_run after member terminal
    exact ⟨complete row stays terminal, stays⟩

/-! ### A row inserted as terminal -/

/-- The model library finds no field it requires. -/
def strictModels : ShadowModels where
  validateActual := fun _ => .error "Field required"
  validateComparison := fun _ => .error "Field required"
  dumpActual := fun _ => .obj []
  dumpComparison := fun _ => .obj []

def emptyCompletion : ShadowRunRow where
  shadowRunId := 1
  tenantId := "t_alpha"
  idempotencyKey := "key-1"
  payloadHash := "fffac496cedabd494923c9b78ba329f9c866bcd8a80c21de2899a1ac10bd2b23"
  caseId := "case-1"
  caseVersion := "v1"
  casePackVersion := "m2-shadow-cases-v1-2026-01-01"
  processorVersion := "m2-shadow-processor-v1.1"
  promptVersion := "m1-bounded-reasoning-v1"
  toolSchemaVersion := "v1"
  provenanceLabel := .simulated
  baselineSource := .controlledSyntheticReference
  execute := false
  externalActionCount := 0
  createdBy := "operator-1"
  createdAt := 0
  status := .completed
  investigationRunId := none
  providerLabel := none
  outputJson := none
  diffJson := none
  outputHash := none
  diffHash := none
  latencyMs := none
  estimatedCostUsd := none
  costEvidenceLabel := none
  completedAt := none

theorem inserted_completion_has_no_result :
    insertShadowRun Db.empty [] emptyCompletion = .ok [emptyCompletion] ∧
      resultFromRecord strictModels emptyCompletion.record true = .error missingResult ∧
      ¬ TerminalRunsComplete Db.empty strictModels [.insert emptyCompletion] := by
  have accepted : insertShadowRun Db.empty [] emptyCompletion = .ok [emptyCompletion] :=
    insertShadowRun_eq_ok.mpr (by decide +kernel)
  refine ⟨accepted, rfl, fun complete => ?_⟩
  have stored : emptyCompletion ∈ ShadowStatement.run Db.empty [] [.insert emptyCompletion] := by
    simp [ShadowStatement.run, ShadowStatement.apply, ShadowStatement.execute, accepted]
  have row := (complete _ [] (List.append_nil _).symm _ stored (by decide)).1
  exact absurd row.completedAt (by decide)

end StockoutOps.Shadow
