import StockoutOps.Foundation.RankedPaths
import StockoutOps.Investigation.RepositoryRules

/-!
Contract: how runs, tool rows and the tables around them move on.

Owns: which states and transitions the service uses, how many transitions a run
still has before it (`longestPath`), how a run and a tool row move (`MovesTo`),
how the tables and the visible state do (`MovesOn`), and that every commit of a
repository method is such a move.

Does not own: which moves a caller makes.
-/

namespace StockoutOps.Investigation

open StockoutOps.Sql StockoutOps.Foundation.RankedPaths

/-! ## Runs -/

/-- The states that `_resume_step` moves on from. -/
def RunState.automatic : RunState → Bool
  | .created | .validating | .gatheringEvidence | .qualityChecks | .reasoning
  | .draftingRecommendation => true
  | .awaitingHuman | .approved | .editedAndApproved | .rejected | .escalated | .closed
  | .failedAuthz => false

/-- The states of committed runs: a decision closes its run in the same transaction,
and nothing fails its authorization after intake. -/
def RunState.committed : RunState → Bool
  | .approved | .editedAndApproved | .rejected | .failedAuthz => false
  | .created | .validating | .gatheringEvidence | .qualityChecks | .reasoning
  | .draftingRecommendation | .awaitingHuman | .escalated | .closed => true

/-- The transitions of the table that the service takes. -/
def serviceTransitions : RunState → List RunState
  | .created => [.validating]
  | .validating => [.gatheringEvidence]
  | .gatheringEvidence => [.qualityChecks, .escalated]
  | .qualityChecks => [.reasoning, .escalated]
  | .reasoning => [.draftingRecommendation, .escalated]
  | .draftingRecommendation => [.awaitingHuman]
  | .awaitingHuman => [.approved, .editedAndApproved, .rejected, .escalated]
  | .approved | .editedAndApproved | .rejected | .escalated => [.closed]
  | .closed | .failedAuthz => []

theorem canTransition_of_mem {current target : RunState}
    (taken : target ∈ serviceTransitions current) : canTransition current target = true := by
  cases current <;> cases target <;> simp_all [canTransition, transitions, serviceTransitions]

/-- The number of transitions on the longest way from a state to an end. -/
def longestPath : RunState → Nat
  | .created => 8
  | .validating => 7
  | .gatheringEvidence => 6
  | .qualityChecks => 5
  | .reasoning => 4
  | .draftingRecommendation => 3
  | .awaitingHuman => 2
  | .approved | .editedAndApproved | .rejected | .escalated => 1
  | .closed | .failedAuthz => 0

/-- A transition leaves fewer of them. -/
theorem longestPath_lt {current target : RunState}
    (allowed : canTransition current target = true) :
    longestPath target < longestPath current := by
  cases current <;> cases target <;> simp_all [canTransition, transitions, longestPath]

/-- Where a run may get in so many transitions. -/
abbrev StatePath : Nat → RunState → RunState → Prop :=
  Path (fun current target => canTransition current target = true)

theorem StatePath.longestPath_add_le {count : Nat} {first last : RunState}
    (path : StatePath count first last) : longestPath last + count ≤ longestPath first :=
  path.rank_add_le fun _ _ => longestPath_lt

/-- The columns that a draft fills. -/
structure RunRow.SameDraft (old new : RunRow) : Prop where
  draftJson : new.draftJson = old.draftJson
  draftHash : new.draftHash = old.draftHash
  draftCreatedAt : new.draftCreatedAt = old.draftCreatedAt
  reviewExpiresAt : new.reviewExpiresAt = old.reviewExpiresAt

/-- A run goes along the transition table, counts its transitions, and keeps
its identity and a draft that it has. -/
structure RunRow.MovesTo (old new : RunRow) : Prop where
  same : old.SameRun new
  path : ∃ count, StatePath count old.state new.state ∧
    new.stateVersion = old.stateVersion + count
  draft : old.draftJson.isSome = true → old.SameDraft new

namespace RunRow.MovesTo

variable {first second third : RunRow}

theorem refl (row : RunRow) : row.MovesTo row :=
  ⟨.refl row, ⟨0, .nil, rfl⟩, fun _ => ⟨rfl, rfl, rfl, rfl⟩⟩

theorem trans (left : first.MovesTo second) (right : second.MovesTo third) :
    first.MovesTo third where
  same := left.same.trans right.same
  path := by
    obtain ⟨count, path, version⟩ := left.path
    obtain ⟨more, pathMore, versionMore⟩ := right.path
    exact ⟨count + more, path.trans pathMore, by omega⟩
  draft := by
    intro drafted
    have kept := left.draft drafted
    have last := right.draft (kept.draftJson ▸ drafted)
    exact ⟨last.draftJson.trans kept.draftJson, last.draftHash.trans kept.draftHash,
      last.draftCreatedAt.trans kept.draftCreatedAt,
      last.reviewExpiresAt.trans kept.reviewExpiresAt⟩

/-- A run that is closed stays closed. -/
theorem closed (moves : first.MovesTo second) (closed : first.state = .closed) :
    second.state = .closed := by
  obtain ⟨count, path, -⟩ := moves.path
  have kept : ∀ current target, canTransition current target = true →
      current = .closed → target = .closed := by
    intro current target allowed same
    simp [same, canTransition, transitions] at allowed
  exact path.preserves (P := (· = .closed)) kept closed

/-- A run whose state or version has changed has fewer transitions before it. -/
theorem overtaken (moves : first.MovesTo second)
    (changed : ¬ (second.state = first.state ∧ second.stateVersion = first.stateVersion)) :
    longestPath second.state < longestPath first.state := by
  obtain ⟨count, path, version⟩ := moves.path
  have bound := path.longestPath_add_le
  cases count with
  | zero => exact absurd ⟨path.eq_of_zero, version⟩ changed
  | succ count => omega

end RunRow.MovesTo

theorem setState_movesTo {row : RunRow} {target : RunState} (now : Timestamp)
    (allowed : canTransition row.state target = true) : row.MovesTo (setState target now row) where
  same := setState_sameRun target now row
  path := ⟨1, .single allowed, rfl⟩
  draft := fun _ => ⟨rfl, rfl, rfl, rfl⟩

/-- A draft is only given to a run that has none. -/
theorem setDraft_movesTo {row : RunRow} (draft : Json) (draftHash : String)
    (now expiresAt : Timestamp) (allowed : canTransition row.state .awaitingHuman = true)
    (undrafted : row.draftJson = none) :
    row.MovesTo (setDraft draft draftHash now expiresAt row) where
  same := setDraft_sameRun draft draftHash now expiresAt row
  path := ⟨1, .single allowed, rfl⟩
  draft := by simp [undrafted]

/-! ## Tool rows -/

/-- A tool row keeps what identifies it, and is final once it has been settled. -/
structure ToolRow.MovesTo (old new : ToolRow) : Prop where
  runId : new.runId = old.runId
  tenantId : new.tenantId = old.tenantId
  toolName : new.toolName = old.toolName
  requestHash : new.requestHash = old.requestHash
  settled : old.status ≠ .started → new = old

theorem ToolRow.MovesTo.refl (row : ToolRow) : row.MovesTo row :=
  ⟨rfl, rfl, rfl, rfl, fun _ => rfl⟩

theorem ToolRow.MovesTo.trans {first second third : ToolRow} (left : first.MovesTo second)
    (right : second.MovesTo third) : first.MovesTo third where
  runId := right.runId.trans left.runId
  tenantId := right.tenantId.trans left.tenantId
  toolName := right.toolName.trans left.toolName
  requestHash := right.requestHash.trans left.requestHash
  settled := by
    intro settled
    have same := left.settled settled
    exact (right.settled (same ▸ settled)).trans same

/-! ## Tables -/

structure Db.MovesOn (old new : Db) : Prop where
  evolves : old.Evolves new
  runs : ∀ runId row, old.runs runId = some row →
    ∃ next, new.runs runId = some next ∧ row.MovesTo next
  tools : ∀ runId tool row, old.tools runId tool = some row →
    ∃ next, new.tools runId tool = some next ∧ row.MovesTo next

theorem Db.MovesOn.refl (db : Db) : db.MovesOn db where
  evolves := .refl db
  runs := fun _ row found => ⟨row, found, .refl row⟩
  tools := fun _ _ row found => ⟨row, found, .refl row⟩

theorem Db.MovesOn.trans {first second third : Db} (left : first.MovesOn second)
    (right : second.MovesOn third) : first.MovesOn third where
  evolves := left.evolves.trans right.evolves
  runs := by
    intro runId row found
    obtain ⟨next, there, moves⟩ := left.runs runId row found
    obtain ⟨last, thereLast, movesLast⟩ := right.runs runId next there
    exact ⟨last, thereLast, moves.trans movesLast⟩
  tools := by
    intro runId tool row found
    obtain ⟨next, there, moves⟩ := left.tools runId tool row found
    obtain ⟨last, thereLast, movesLast⟩ := right.tools runId tool next there
    exact ⟨last, thereLast, moves.trans movesLast⟩

/-- A tool row that has been settled is there for good. -/
theorem Db.MovesOn.settled {old new : Db} (moves : old.MovesOn new) {tenantId : String}
    {runId : RunId} {tool : ToolName} {row : ToolRow}
    (found : old.tool? tenantId runId tool = some row) (settled : row.status ≠ .started) :
    new.tool? tenantId runId tool = some row := by
  obtain ⟨stored, tenant⟩ := Db.tool?_eq_some.mp found
  obtain ⟨next, there, movesRow⟩ := moves.tools _ _ _ stored
  obtain rfl := movesRow.settled settled
  exact Db.tool?_eq_some.mpr ⟨there, tenant⟩

/-- The tables move on, and what has left the process or has been committed has
been so for good. -/
structure View.MovesOn (before after : View) : Prop where
  db : before.db.MovesOn after.db
  invocations : ∃ added, after.invocations = before.invocations ++ added
  commitLog : ∃ added, after.commitLog = before.commitLog ++ added

theorem View.MovesOn.refl (view : View) : view.MovesOn view :=
  ⟨.refl view.db, ⟨[], by simp⟩, ⟨[], by simp⟩⟩

theorem View.MovesOn.trans {first second third : View} (left : first.MovesOn second)
    (right : second.MovesOn third) : first.MovesOn third where
  db := left.db.trans right.db
  invocations := by
    obtain ⟨added, invoked⟩ := left.invocations
    obtain ⟨more, invokedMore⟩ := right.invocations
    exact ⟨added ++ more, by rw [invokedMore, invoked, List.append_assoc]⟩
  commitLog := by
    obtain ⟨added, logged⟩ := left.commitLog
    obtain ⟨more, loggedMore⟩ := right.commitLog
    exact ⟨added ++ more, by rw [loggedMore, logged, List.append_assoc]⟩

/-- Only the sessions change. -/
theorem View.movesOn_of_same {before after : View} (db : after.db = before.db)
    (invocations : after.invocations = before.invocations)
    (commitLog : after.commitLog = before.commitLog) : before.MovesOn after :=
  ⟨db ▸ .refl _, ⟨[], by simp [invocations]⟩, ⟨[], by simp [commitLog]⟩⟩

/-! ## Commits -/

theorem Db.tools_applyAll (db : Db) (writes : List Write) :
    (db.applyAll writes).tools = db.tools := by
  induction writes generalizing db with
  | nil => rfl
  | cons write rest inductionHypothesis =>
      refine (inductionHypothesis (db.apply write)).trans ?_
      cases write <;> rfl

/-- Writes whose last word on a run is a move of it. -/
theorem Db.movesOn_applyAll {db : Db} {writes : List Write}
    (fits : ∀ write ∈ writes, write.Fits db)
    (runs : ∀ runId row, db.runs runId = some row →
      ∃ next, (db.applyAll writes).runs runId = some next ∧ row.MovesTo next) :
    db.MovesOn (db.applyAll writes) where
  evolves := Db.evolves_applyAll fits
  runs := runs
  tools := fun runId tool row found =>
    ⟨row, by rw [Db.tools_applyAll, found], .refl row⟩

theorem View.movesOn_commit {view : View} {t : Tid} {writes : List Write}
    (moves : view.db.MovesOn (view.db.applyAll writes)) : view.MovesOn (view.commit t writes) where
  db := moves
  invocations := ⟨[], by simp [View.commit]⟩
  commitLog := by
    unfold View.commit
    by_cases empty : writes.isEmpty = true
    · exact ⟨[], by simp [empty]⟩
    · exact ⟨[(t, writes)], by simp [empty]⟩

theorem Db.movesOn_event (db : Db) (event : EventRow) :
    db.MovesOn (db.applyAll [.insertEvent event]) :=
  Db.movesOn_applyAll (fun write member => by
    obtain rfl := List.mem_singleton.mp member
    trivial) fun _ row found => ⟨row, found, .refl row⟩

/-- One run moves; the others stay. -/
theorem Db.runs_update {db : Db} {old row : RunRow} (stored : db.runs row.runId = some old)
    (moves : old.MovesTo row) (runId : RunId) (other : RunRow)
    (found : db.runs runId = some other) :
    ∃ next, Function.update db.runs row.runId (some row) runId = some next ∧
      other.MovesTo next := by
  by_cases here : runId = row.runId
  · subst here
    obtain rfl : old = other := Option.some.inj (stored.symm.trans found)
    exact ⟨row, Function.update_self _ _ _, moves⟩
  · exact ⟨other, (Function.update_of_ne here _ _).trans found, .refl other⟩

theorem Db.movesOn_transition {db : Db} {old row : RunRow}
    (stored : db.runs row.runId = some old) (moves : old.MovesTo row)
    (checked : checkAll row.checks = .ok ()) (event : EventRow) :
    db.MovesOn (db.applyAll [.updateRun row, .insertEvent event]) := by
  refine Db.movesOn_applyAll (fun write member => ?_) (Db.runs_update stored moves)
  simp only [List.mem_cons, List.not_mem_nil, or_false] at member
  rcases member with rfl | rfl
  · exact ⟨⟨old, stored, moves.same⟩, checked⟩
  · trivial

/-- A run may be decided either way, and is closed after that. -/
theorem ReviewAction.mem_serviceTransitions (action : ReviewAction) :
    action.target ∈ serviceTransitions .awaitingHuman ∧
      .closed ∈ serviceTransitions action.target := by
  cases action <;> decide

/-- The two transitions of a decision. -/
theorem ReviewCall.movesTo_closedRun {call : ReviewCall} {run : RunRow}
    (awaits : run.state = .awaitingHuman) : run.MovesTo (call.closedRun run) := by
  obtain ⟨decides, closes⟩ := call.action.mem_serviceTransitions
  have decided : run.MovesTo (call.decidedRun run) :=
    setState_movesTo call.now (awaits ▸ canTransition_of_mem decides)
  exact decided.trans (setState_movesTo call.now (canTransition_of_mem closes))

theorem ReviewCall.runs_decided {db : Db} {call : ReviewCall} {run : RunRow}
    {decidedId closedId : Nat} :
    (db.applyAll (call.decided run decidedId closedId)).runs =
      Function.update db.runs run.runId (some (call.closedRun run)) := by
  show Function.update (Function.update db.runs run.runId _) run.runId _ = _
  rw [Function.update_idem]

theorem Db.movesOn_decided {db : Db} {call : ReviewCall} {run : RunRow}
    {decidedId closedId : Nat} (stored : db.runs run.runId = some run)
    (awaits : run.state = .awaitingHuman) (checked : checkAll run.checks = .ok ()) :
    db.MovesOn (db.applyAll (call.decided run decidedId closedId)) := by
  refine Db.movesOn_applyAll (fun write member => ?_) fun runId other found => ?_
  · simp only [ReviewCall.decided, List.mem_cons, List.not_mem_nil, or_false] at member
    rcases member with rfl | rfl | rfl | rfl | rfl
    · trivial
    · exact ⟨⟨run, stored, setState_sameRun _ _ _⟩, checked⟩
    · trivial
    · exact ⟨⟨run, stored, (setState_sameRun _ _ _).trans (setState_sameRun _ _ _)⟩, checked⟩
    · trivial
  · have moves : run.MovesTo (call.closedRun run) := ReviewCall.movesTo_closedRun awaits
    have stored : db.runs (call.closedRun run).runId = some run := stored
    rw [ReviewCall.runs_decided]
    exact Db.runs_update stored moves runId other found

theorem Db.movesOn_created {db : Db} {call : IntakeCall} {runId : RunId} {eventId : Nat}
    (fresh : db.runs runId = none) (unused : db.keys call.key = none)
    (checked : checkAll (call.runRow runId).checks = .ok ()) :
    db.MovesOn (db.applyAll (call.created runId eventId)) := by
  refine Db.movesOn_applyAll (fun write member => ?_) fun other row found => ?_
  · simp only [IntakeCall.created, List.mem_cons, List.not_mem_nil, or_false] at member
    rcases member with rfl | rfl | rfl
    · exact ⟨fresh, checked⟩
    · exact unused
    · trivial
  · have different : other ≠ runId := by
      rintro rfl
      simp [fresh] at found
    exact ⟨row, (Function.update_of_ne different _ _).trans found, .refl row⟩

/-! ## Tools -/

/-- A row that is inserted, or that a row not yet settled moves to. -/
theorem Db.movesOn_setTool {db : Db} {row : ToolRow}
    (moves : ∀ old, db.tools row.runId row.toolName = some old → old.MovesTo row) :
    db.MovesOn (db.setTool row) := by
  have tools : ∀ runId tool old, db.tools runId tool = some old →
      ∃ next, (db.setTool row).tools runId tool = some next ∧ old.MovesTo next := by
    intro runId tool old found
    by_cases here : (runId, tool) = (row.runId, row.toolName)
    · obtain ⟨rfl, rfl⟩ := Prod.mk.inj here
      exact ⟨row, Db.tools_setTool_self _ _, moves old found⟩
    · exact ⟨old, (Db.tools_setTool_of_ne here).trans found, .refl old⟩
  refine ⟨{ Db.Evolves.refl db with tools := fun runId tool old found => ?_ },
    fun _ run found => ⟨run, found, .refl run⟩, tools⟩
  obtain ⟨next, there, movesRow⟩ := tools runId tool old found
  exact ⟨next, there, movesRow.tenantId⟩

end StockoutOps.Investigation
