import Mathlib.Data.List.Induction
import StockoutOps.Alerting.OutboxSpec

/-!
Contract: the transitions outbox rows make along a run of raw statements.

Owns: the transition a statement makes on one row, the transitions of a row
over a run, and what a row of the next state can come from (`RowStep`).

Does not own: any count of transitions; the laws about counters say which ones
they count.
-/

namespace StockoutOps.Alerting

open StockoutOps.Sql

/-- The states of a row before and after an UPDATE. -/
abbrev RowTransition := OutboxState × OutboxState

/-- The transition an accepted statement makes on the row of an id. -/
def AppStatement.transition? (db : AlertDb) (id : Int) : AppStatement → Option RowTransition
  | .updateOutbox where_ set =>
      match Alerting.updateOutbox where_ set db with
      | .ok _ => ((db.outboxRow? id).filter where_).map (fun row => (row.state, (set row).state))
      | .error _ => none
  | _ => none

/-- The transitions the row of an id makes in a run. -/
def transitionsOf (id : Int) (db : AlertDb) : List AppStatement → List RowTransition
  | [] => []
  | statement :: rest =>
      (statement.transition? db id).toList ++ transitionsOf id (statement.apply db) rest

theorem runStatements_append_singleton (db : AlertDb) (statements : List AppStatement)
    (statement : AppStatement) :
    runStatements db (statements ++ [statement]) =
      statement.apply (runStatements db statements) := by
  simp [runStatements]

theorem transitionsOf_append_singleton (id : Int) (db : AlertDb) (statements : List AppStatement)
    (statement : AppStatement) :
    transitionsOf id db (statements ++ [statement]) =
      transitionsOf id db statements ++
        (statement.transition? (runStatements db statements) id).toList := by
  induction statements generalizing db with
  | nil => simp [transitionsOf, runStatements]
  | cons head rest inductionHypothesis =>
      simp only [List.cons_append, transitionsOf, inductionHypothesis, List.append_assoc]
      rfl

/-! ## One statement -/

section Step

variable {db next : AlertDb} {statement : AppStatement} {row : OutboxRow}

/-- Where a row of the state after a statement comes from. -/
inductive RowStep (db : AlertDb) (statement : AppStatement) (row : OutboxRow) : Prop where
  | kept (member : row ∈ db.outbox) (still : statement.transition? db row.outboxId = none)
  | inserted (fresh : ∀ other ∈ db.outbox, other.outboxId ≠ row.outboxId)
      (insert : ∃ state, guardAlertOutboxInsert state row = .ok ())
      (checks : ∀ check ∈ row.checks, check.2 = true)
      (still : statement.transition? db row.outboxId = none)
  | updated (old : OutboxRow) (where_ : OutboxRow → Bool) (set : OutboxRow → OutboxProgress)
      (member : old ∈ db.outbox) (selected : where_ old = true) (new : row = old.set (set old))
      (update : OutboxRowUpdate db old row) (same : statement = .updateOutbox where_ set)
      (accepted : ∃ next, statement.execute db = .ok next)
      (moved : statement.transition? db row.outboxId = some (old.state, row.state))

/-- A statement that does not rewrite the outbox at most adds rows to it. -/
theorem rowStep_insertOutbox {onConflictDoNothing : Bool} {rows : List OutboxRow}
    (accepted : (AppStatement.insertOutbox onConflictDoNothing rows).execute db = .ok next)
    (member : row ∈ next.outbox) :
    RowStep db (.insertOutbox onConflictDoNothing rows) row := by
  have grows := foldlM_preserves
    (fun state => (∀ other ∈ db.outbox, other ∈ state.outbox) ∧
      ∀ other ∈ state.outbox, RowStep db (.insertOutbox onConflictDoNothing rows) other)
    (fun state new result holds inserted => ?_)
    ⟨fun _ => id, fun other otherMember => .kept otherMember rfl⟩ accepted
  · exact grows.2 row member
  · cases inserting : insertOutbox onConflictDoNothing state new with
    | error error => simp [inserting] at inserted
    | ok value =>
        simp only [inserting, Except.map_ok, Except.ok.injEq] at inserted
        subst inserted
        obtain ⟨-, same⟩ | ⟨-, same, insert⟩ := insertOutbox_ok inserting
        · rwa [same]
        · rw [same]
          refine ⟨fun other otherMember => List.mem_append_left _ (holds.1 other otherMember),
            fun other otherMember => ?_⟩
          rcases List.mem_append.mp otherMember with old | fresh
          · exact holds.2 other old
          · rw [List.mem_singleton.mp fresh]
            exact .inserted (fun old oldMember => insert.freshId old (holds.1 old oldMember))
              ⟨state, insert.guard⟩ (checkAll_eq_ok.mp insert.checks) rfl

/-- An accepted UPDATE makes a transition on each row it selects. -/
theorem transition?_updateOutbox {where_ : OutboxRow → Bool} {set : OutboxRow → OutboxProgress}
    (unique : (db.outbox.map (·.outboxId)).Nodup)
    (accepted : updateOutbox where_ set db = .ok next) (member : row ∈ db.outbox) :
    (AppStatement.updateOutbox where_ set).transition? db row.outboxId =
      if where_ row then some (row.state, (set row).state) else none := by
  simp only [AppStatement.transition?, accepted]
  rw [(outboxRow?_eq_some_iff unique).mpr ⟨member, rfl⟩]
  cases selected : where_ row <;> simp [selected]

theorem mem_outbox_updateOutbox {where_ : OutboxRow → Bool} {set : OutboxRow → OutboxProgress}
    (accepted : updateOutbox where_ set db = .ok next) (member : row ∈ db.outbox)
    (selected : where_ row = true) :
    row.set (set row) ∈ ((AppStatement.updateOutbox where_ set).apply db).outbox := by
  have executed : (AppStatement.updateOutbox where_ set).execute db = .ok next := accepted
  unfold AppStatement.apply
  rw [executed, (updateOutbox_eq_ok.mp accepted).1]
  exact List.mem_map.mpr ⟨row, member, if_pos selected⟩

theorem rowStep_updateOutbox {where_ : OutboxRow → Bool} {set : OutboxRow → OutboxProgress}
    (unique : (db.outbox.map (·.outboxId)).Nodup)
    (accepted : updateOutbox where_ set db = .ok next) (member : row ∈ next.outbox) :
    RowStep db (.updateOutbox where_ set) row := by
  have transition : ∀ old ∈ db.outbox,
      (AppStatement.updateOutbox where_ set).transition? db old.outboxId =
        if where_ old then some (old.state, (set old).state) else none :=
    fun old => transition?_updateOutbox unique accepted
  obtain ⟨rows, rfl, updated⟩ := updateOutbox_ok accepted
  obtain ⟨old, oldMember, ⟨other, rfl⟩ | ⟨selected, rfl, update⟩⟩ :=
    exists_old_of_mem updated member
  · exact .kept oldMember (by rw [transition row oldMember, other]; rfl)
  · exact .updated old where_ set oldMember selected rfl update rfl ⟨_, accepted⟩
      (by rw [OutboxRow.set_identity, transition old oldMember, selected]; rfl)

theorem outbox_execute_of_other {next : AlertDb}
    (notInsert : ∀ onConflictDoNothing rows, statement ≠ .insertOutbox onConflictDoNothing rows)
    (notUpdate : ∀ where_ set, statement ≠ .updateOutbox where_ set)
    (accepted : statement.execute db = .ok next) : next.outbox = db.outbox := by
  cases statement with
  | insertEvaluation rows =>
      refine foldlM_preserves (fun state => state.outbox = db.outbox)
        (fun state new result holds inserted => ?_) rfl accepted
      obtain ⟨rfl, -⟩ := insertEvaluation_ok inserted
      exact holds
  | insertOutbox onConflictDoNothing rows => exact absurd rfl (notInsert onConflictDoNothing rows)
  | insertAttemptEvent onConflictDoNothing rows =>
      refine foldlM_preserves (fun state => state.outbox = db.outbox)
        (fun state new result holds inserted => ?_) rfl accepted
      obtain ⟨-, -, ⟨rfl, -⟩ | ⟨rfl, -⟩⟩ := insertAttemptEvent_ok inserted <;> exact holds
  | insertLedger onConflictDoNothing rows =>
      refine foldlM_preserves (fun state => state.outbox = db.outbox)
        (fun state new result holds inserted => ?_) rfl accepted
      obtain ⟨rfl, -⟩ | ⟨rfl, -⟩ := insertLedger_ok inserted <;> exact holds
  | updateOutbox where_ set => exact absurd rfl (notUpdate where_ set)
  | updateLedger where_ set =>
      obtain ⟨rows, rfl, -⟩ := updateLedger_ok accepted
      rfl

/-- Every row of the state after a statement was there, was inserted or was updated. -/
theorem rowStep_apply (unique : (db.outbox.map (·.outboxId)).Nodup)
    (member : row ∈ (statement.apply db).outbox) : RowStep db statement row := by
  unfold AppStatement.apply at member
  split at member
  case h_2 refused =>
    refine .kept member ?_
    cases statement with
    | updateOutbox where_ set =>
        have rejected : Alerting.updateOutbox where_ set db = .error _ := refused
        simp [AppStatement.transition?, rejected]
    | insertEvaluation | insertOutbox | insertAttemptEvent | insertLedger | updateLedger => rfl
  case h_1 next accepted =>
    cases statement with
    | insertOutbox onConflictDoNothing rows => exact rowStep_insertOutbox accepted member
    | updateOutbox where_ set => exact rowStep_updateOutbox unique accepted member
    | insertEvaluation | insertAttemptEvent | insertLedger | updateLedger =>
        rw [outbox_execute_of_other (by simp) (by simp) accepted] at member
        exact .kept member rfl

/-- No row leaves the outbox. -/
theorem exists_row_apply (member : row ∈ db.outbox) :
    ∃ later ∈ (statement.apply db).outbox, later.outboxId = row.outboxId := by
  unfold AppStatement.apply
  split
  case h_2 => exact ⟨row, member, rfl⟩
  case h_1 next accepted =>
    cases statement with
    | insertOutbox onConflictDoNothing rows =>
        refine foldlM_preserves (fun state => ∃ later ∈ state.outbox, later.outboxId = row.outboxId)
          (fun state new result holds inserted => ?_) ⟨row, member, rfl⟩ accepted
        cases inserting : insertOutbox onConflictDoNothing state new with
        | error error => simp [inserting] at inserted
        | ok value =>
            simp only [inserting, Except.map_ok, Except.ok.injEq] at inserted
            subst inserted
            obtain ⟨-, same⟩ | ⟨-, same, -⟩ := insertOutbox_ok inserting
            · rwa [same]
            · obtain ⟨later, laterMember, sameId⟩ := holds
              exact ⟨later, by rw [same]; exact List.mem_append_left _ laterMember, sameId⟩
    | updateOutbox where_ set =>
        obtain ⟨rows, rfl, updated⟩ := updateOutbox_ok accepted
        obtain ⟨new, newMember, ⟨-, rfl⟩ | ⟨-, rfl, -⟩⟩ := exists_new_of_mem updated member
        · exact ⟨new, newMember, rfl⟩
        · exact ⟨_, newMember, rfl⟩
    | insertEvaluation | insertAttemptEvent | insertLedger | updateLedger =>
        rw [outbox_execute_of_other (by simp) (by simp) accepted]
        exact ⟨row, member, rfl⟩

theorem transition?_of_missing {id : Int} (missing : db.outboxRow? id = none) :
    statement.transition? db id = none := by
  cases statement with
  | updateOutbox where_ set =>
      simp only [AppStatement.transition?, missing]
      split <;> rfl
  | insertEvaluation | insertOutbox | insertAttemptEvent | insertLedger | updateLedger => rfl

/-- A terminal ledger row is never touched again. -/
theorem mem_ledger_apply {entry : LedgerRow} (member : entry ∈ db.ledger)
    (terminal : entry.status ≠ .claimed) : entry ∈ (statement.apply db).ledger := by
  unfold AppStatement.apply
  split
  case h_2 => exact member
  case h_1 next accepted =>
    cases statement with
    | insertEvaluation rows =>
        refine foldlM_preserves (fun state => entry ∈ state.ledger)
          (fun state new result holds inserted => ?_) member accepted
        obtain ⟨rfl, -⟩ := insertEvaluation_ok inserted
        exact holds
    | insertOutbox onConflictDoNothing rows =>
        refine foldlM_preserves (fun state => entry ∈ state.ledger)
          (fun state new result holds inserted => ?_) member accepted
        cases inserting : insertOutbox onConflictDoNothing state new with
        | error error => simp [inserting] at inserted
        | ok value =>
            simp only [inserting, Except.map_ok, Except.ok.injEq] at inserted
            obtain ⟨-, same⟩ | ⟨-, same, -⟩ := insertOutbox_ok inserting <;>
              rw [← inserted, same] <;> exact holds
    | insertAttemptEvent onConflictDoNothing rows =>
        refine foldlM_preserves (fun state => entry ∈ state.ledger)
          (fun state new result holds inserted => ?_) member accepted
        obtain ⟨-, -, ⟨rfl, -⟩ | ⟨rfl, -⟩⟩ := insertAttemptEvent_ok inserted <;> exact holds
    | insertLedger onConflictDoNothing rows =>
        refine foldlM_preserves (fun state => entry ∈ state.ledger)
          (fun state new result holds inserted => ?_) member accepted
        obtain ⟨rfl, -⟩ | ⟨rfl, -⟩ := insertLedger_ok inserted
        · exact holds
        · exact List.mem_append_left _ holds
    | updateOutbox where_ set =>
        obtain ⟨rows, rfl, -⟩ := updateOutbox_ok accepted
        exact member
    | updateLedger where_ set =>
        obtain ⟨rows, rfl, updated⟩ := updateLedger_ok accepted
        obtain ⟨new, newMember, ⟨-, rfl⟩ | ⟨-, -, claimed, -⟩⟩ := exists_new_of_mem updated member
        · exact newMember
        · exact absurd claimed terminal

end Step

/-! ## A run -/

/-- Every statement of a run that is accepted meets a condition on it and on the
tables before it. -/
def EveryAccepted (condition : AlertDb → AppStatement → Prop) (db : AlertDb) :
    List AppStatement → Prop
  | [] => True
  | statement :: rest =>
      (∀ next, statement.execute db = .ok next → condition db statement) ∧
        EveryAccepted condition (statement.apply db) rest

theorem everyAccepted_append_singleton {condition : AlertDb → AppStatement → Prop} {db : AlertDb}
    {statements : List AppStatement} {statement : AppStatement} :
    EveryAccepted condition db (statements ++ [statement]) ↔
      EveryAccepted condition db statements ∧
        ∀ next, statement.execute (runStatements db statements) = .ok next →
          condition (runStatements db statements) statement := by
  induction statements generalizing db with
  | nil => simp [EveryAccepted, runStatements]
  | cons head rest inductionHypothesis =>
      simp only [List.cons_append, EveryAccepted, inductionHypothesis, and_assoc]
      rfl

/-- What holds at first, and after a statement that meets the condition if it is
accepted, holds throughout a run whose accepted statements meet it. -/
theorem holds_of_everyAccepted {condition : AlertDb → AppStatement → Prop} {db : AlertDb}
    {Holds : List AppStatement → Prop} {statements : List AppStatement} (initial : Holds [])
    (step : ∀ before statement, Holds before →
      (∀ next, statement.execute (runStatements db before) = .ok next →
        condition (runStatements db before) statement) → Holds (before ++ [statement]))
    (every : EveryAccepted condition db statements) :
    ∀ before, before <+: statements → Holds before := by
  induction statements using List.reverseRecOn with
  | nil =>
      intro before start
      rw [List.prefix_nil.mp start]
      exact initial
  | append_singleton earlier statement inductionHypothesis =>
      intro before start
      obtain ⟨everyEarlier, last⟩ := everyAccepted_append_singleton.mp every
      rcases List.prefix_concat_iff.mp start with rfl | within
      · exact step earlier statement
          (inductionHypothesis everyEarlier earlier (List.prefix_refl earlier)) last
      · exact inductionHypothesis everyEarlier before within

/-- Conversely, a law that fails right after an accepted statement which does not
meet the condition holds throughout a run only if every accepted one meets it. -/
theorem everyAccepted_of_law {condition : AlertDb → AppStatement → Prop} {db : AlertDb}
    {Law : List AppStatement → Prop} {statements : List AppStatement}
    (step : ∀ before statement next, Law before → Law (before ++ [statement]) →
      statement.execute (runStatements db before) = .ok next →
      condition (runStatements db before) statement)
    (laws : ∀ before, before <+: statements → Law before) :
    EveryAccepted condition db statements := by
  induction statements using List.reverseRecOn with
  | nil => trivial
  | append_singleton earlier statement inductionHypothesis =>
      refine everyAccepted_append_singleton.mpr
        ⟨inductionHypothesis fun before start => laws before (start.trans (List.prefix_append _ _)),
          fun next accepted => ?_⟩
      exact step earlier statement next (laws earlier (List.prefix_append _ _))
        (laws _ (List.prefix_refl _)) accepted

/-- A row that is not there yet has made no transition. -/
theorem transitionsOf_of_missing {id : Int} (statements : List AppStatement)
    (missing : ∀ row ∈ (runStatements AlertDb.empty statements).outbox, row.outboxId ≠ id) :
    transitionsOf id AlertDb.empty statements = [] := by
  induction statements using List.reverseRecOn with
  | nil => rfl
  | append_singleton before statement inductionHypothesis =>
      rw [runStatements_append_singleton] at missing
      have earlier : ∀ row ∈ (runStatements AlertDb.empty before).outbox, row.outboxId ≠ id := by
        intro row member same
        obtain ⟨later, laterMember, sameId⟩ : ∃ later ∈ (statement.apply _).outbox,
            later.outboxId = row.outboxId := exists_row_apply member
        exact missing later laterMember (sameId.trans same)
      rw [transitionsOf_append_singleton, inductionHypothesis earlier,
        transition?_of_missing (outboxRow?_eq_none_iff.mpr earlier)]
      rfl

end StockoutOps.Alerting
