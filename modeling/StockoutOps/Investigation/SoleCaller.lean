import StockoutOps.Foundation.Alone
import StockoutOps.Investigation.RepositoryRules

/-!
Contract: a caller that has the database to itself.

Owns: the protocol in which nothing changes between two statements of the
caller, its soundness for a run alone, and what each repository method then
does to the one state there is.

Does not own: the calls, and what they read from outside.
-/

namespace StockoutOps.Investigation

open StockoutOps.Sql StockoutOps.Foundation.Interleaving

/-- Nobody but `t` holds a lock. -/
def World.Unlocked (world : World) (t : Tid) : Prop := ∀ u, u ≠ t → ¬ world.HoldsAny u

/-- The database at rest: no transaction is open and no session holds a lock. -/
structure World.Resting (world : World) : Prop where
  locked : world.Locked
  idle : ∀ t, world.Idle t
  unclaimed : ∀ t key, world.view.claimConnection t ≠ .held key

theorem World.Resting.unlocked {world : World} (resting : world.Resting) (t : Tid) :
    world.Unlocked t :=
  fun u _ => World.Idle.not_holdsAny (resting.idle u) resting.locked (resting.unclaimed u)

namespace Protocol

/-- Between two statements of `t` the visible state stays what it is. -/
def alone (t : Tid) (Allowed : Input → Prop) (input : ∃ input, Allowed input) : Protocol where
  Inv := fun _ => True
  Rely := fun u before after => u = t → after = before
  Allowed := fun _ => Allowed
  live := True
  input := fun _ => input
  refl := fun _ _ _ => rfl
  trans := fun _ _ _ _ left right same => (right same).trans (left same)

section Alone

variable {t : Tid} {Allowed : Input → Prop} {input : ∃ input, Allowed input} {view later : View}
  {ρ : Type}

theorem alone_later (relied : (alone t Allowed input).Later t view later) : later = view :=
  relied.rely rfl

/-- Whatever `t` does is welcome. -/
theorem alone_guarantee (before after : View) : (alone t Allowed input).Guarantee t before after :=
  ⟨trivial, fun _ other same => absurd same other⟩

theorem alone_stays {Post : Except Failure ρ → View → Prop} {result : Except Failure ρ}
    (post : Post result view) : (alone t Allowed input).Stays t Post result view := by
  intro last relied _
  rw [alone_later relied]
  exact post

/-- Nobody else takes a lock while `t` runs. -/
theorem unlocked_of_guarantee {before after : World}
    (inv : (alone t Allowed input).discipline.Inv before)
    (guarantee : (alone t Allowed input).discipline.Guarantee t before after)
    (unlocked : before.Unlocked t) : after.Unlocked t := by
  intro u other holds
  have relied := (guarantee.rely u other).1
  apply unlocked u other
  rcases holds with ⟨runId, held⟩ | ⟨key, held⟩ | ⟨key, held⟩
  · exact .inl ⟨runId, (relied.runLock runId).mp held⟩
  · exact .inr (.inl ⟨key, (relied.keyLock key).mp held⟩)
  · have claimed := (guarantee.inv.1.advisory key u).mp held
    rcases relied.view.claim with same | lost
    · exact .inr (.inr ⟨key, (inv.1.advisory key u).mpr (same ▸ claimed)⟩)
    · simp [lost] at claimed

theorem not_waits_of_unlocked {world : World} (unlocked : world.Unlocked t) : ¬ world.Waits t := by
  rintro (⟨-, u, other, holds⟩ | ⟨-, u, other, holds⟩)
  · exact unlocked u other holds.any
  · exact unlocked u other holds

/-- A call that serves its caller runs well on a database at rest. -/
theorem alone_of_serves {routine : Routine ρ} {Post : Except Failure ρ → View → Prop}
    {world : World} (resting : world.Resting)
    (serves : (alone t Allowed input).Serves t routine Post world.view) :
    Prog.Alone Allowed t routine (fun result last => Post result last.view) world := by
  have inv : (alone t Allowed input).discipline.Inv world := ⟨resting.locked, trivial⟩
  have safe := serves world (resting.idle t) (.refl _ t world.view) inv
  refine Prog.Alone.mono (fun result last post => post.2)
    (alone_of_safe (fun state => state.Unlocked t)
      (fun before after invBefore guarantee unlocked => ?_)
      (fun state _ unlocked waits => ?_) safe inv (resting.unlocked t))
  · exact unlocked_of_guarantee invBefore guarantee unlocked
  · exact not_waits_of_unlocked unlocked (waits trivial)

theorem alone_clock {follow : Timestamp → Routine ρ} {Post : Except Failure ρ → View → Prop}
    (serves : ∀ now, (alone t Allowed input).Serves t (follow now) Post view) :
    (alone t Allowed input).Serves t (execute Statement.clock >>= follow) Post view := by
  refine serves_clock fun later relied _ allowed _ => ?_
  rw [alone_later relied]
  exact serves _

/-! ## The run of the caller -/

/-- What the caller knows of its run between two statements. -/
structure Stage (view : View) (run : RunRow) (rows : ToolName → Option ToolRow) : Prop where
  stored : view.db.runs run.runId = some run
  tools : view.db.tools run.runId = rows

section Stages

variable {principal : Principal} {run : RunRow} {rows : ToolName → Option ToolRow}
  {tool : ToolName}

theorem Stage.run? (stage : Stage view run rows) (tenant : run.tenantId = principal.tenantId) :
    view.db.run? principal.tenantId run.runId = some run :=
  Db.run?_eq_some.mpr ⟨stage.stored, tenant⟩

theorem Stage.moved (stage : Stage view run rows) {next : RunRow} (same : run.SameRun next)
    (event : EventRow) :
    Stage (view.commit t [.updateRun next, .insertEvent event]) next rows where
  stored := by simp [View.commit, Db.applyAll, Db.apply]
  tools := by
    rw [same.runId]
    exact stage.tools

/-- A tool row of the run is inserted or replaced. -/
theorem Stage.setTool (stage : Stage view run rows) {row : ToolRow} (ofRun : row.runId = run.runId)
    (ofTool : row.toolName = tool) {after : View} (db : after.db = view.db.setTool row) :
    Stage after run (Function.update rows tool (some row)) where
  stored := by
    rw [db]
    exact stage.stored
  tools := by
    rw [db, ← stage.tools, ← ofRun, ← ofTool]
    simp [Db.setTool]

/-- A legal transition of the stored run happens. -/
theorem serves_move {move : Move} {now : Timestamp} {Post : Except Failure RunRow → View → Prop}
    (stage : Stage view run rows) (unclaimed : View.Unclaimed view t)
    (tenant : run.tenantId = principal.tenantId)
    (legal : canTransition run.state move.target = true)
    (same : ∀ row : RunRow, row.SameRun (move.set row))
    (checked : checkAll run.checks = .ok () → checkAll (move.set run).checks = .ok ())
    (moved : ∀ eventId, Post (.ok (move.set run))
      (view.commit t [.updateRun (move.set run),
        .insertEvent ((move.event principal run now).numbered eventId)])) :
    (alone t Allowed input).Serves t (compareAndSwap principal run move now) Post view := by
  refine serves_compareAndSwap same (fun _ => unclaimed)
    (fun later relied holds row eventId _ stored _ _ _ _ _ => ?_)
    (fun later relied holds row error found refused => ?_)
    (fun later relied holds missed => ?_) (fun illegal => ?_)
  · rw [alone_later relied] at stored ⊢
    obtain rfl : run = row := Option.some.inj (stage.stored.symm.trans stored)
    exact ⟨alone_guarantee _ _, alone_stays (moved eventId)⟩
  · rw [alone_later relied, stage.run? tenant] at found
    obtain rfl := Option.some.inj found
    rw [checked (holds.keyed.checked _ _ (alone_later relied ▸ stage.stored))] at refused
    cases refused
  · rw [alone_later relied] at missed
    exact absurd ⟨rfl, rfl⟩ (missed run (stage.run? tenant))
  · simp [legal] at illegal

/-! ## Tools -/

/-- The first caller of a tool gets the claim. -/
theorem serves_claimTool {toolLockKey : RunId → ToolName → Int} {requestHash : String}
    {now : Timestamp} {Post : Except Failure (ToolRow × Bool) → View → Prop}
    (stage : Stage view run rows) (unclaimed : View.Unclaimed view t) (fresh : rows tool = none)
    (hex : isHex64 requestHash = true)
    (claimed : ∀ row after, row.runId = run.runId → row.tenantId = principal.tenantId →
      row.toolName = tool → row.status = .started → after.claimConnection t ≠ .lost →
      Stage after run (Function.update rows tool (some row)) → Post (.ok (row, true)) after) :
    (alone t Allowed input).Serves t
      (claimOrObserveTool toolLockKey principal run.runId tool requestHash now) Post view := by
  refine serves_lockTool unclaimed fun later relied holds free => ⟨alone_guarantee _ _, ?_⟩
  rw [alone_later relied] at holds free ⊢
  have held : (view.claim t (toolLockKey run.runId tool)).claimConnection t ≠ .lost := by
    simp [View.claim]
  have absent : view.db.tools run.runId tool = none := by rw [stage.tools, fresh]
  refine serves_selectTool (fun later relied _ lost => ?_) fun later relied _ _ => ?_
  · rw [alone_later relied] at lost
    exact absurd lost held
  rw [alone_later relied]
  have unseen : (view.claim t (toolLockKey run.runId tool)).db.tool? principal.tenantId run.runId
      tool = none := by simp [Db.tool?, View.claim, absent]
  rw [unseen]
  refine serves_insertTool (fun later failure relied _ refused => ?_)
    fun later relied _ _ _ _ _ _ => ⟨alone_guarantee _ _, serves_pure (alone_stays ?_)⟩
  · rw [alone_later relied] at refused
    rcases refused with lost | ⟨error, refused⟩ | taken | gone
    · exact absurd lost held
    · simp [ToolRow.checks, checkAll, hex] at refused
    · simp [View.claim, absent] at taken
    · simp [View.claim, stage.stored] at gone
  · rw [alone_later relied]
    have inner : Stage (view.claim t (toolLockKey run.runId tool)) run rows :=
      ⟨stage.stored, stage.tools⟩
    refine claimed _ _ rfl rfl rfl rfl held (inner.setTool ?_ ?_ ?_)
    · rfl
    · rfl
    · rfl

/-- The claim is released whatever the body does. -/
theorem serves_withClaim {body : Routine ρ} {Post : Except Failure ρ → View → Prop}
    (serves : (alone t Allowed input).Serves t body
      (fun result last => last.claimConnection t ≠ .lost ∧
        Post result (last.endClaim t .closed)) view) :
    (alone t Allowed input).Serves t (withClaim body) Post view := by
  refine serves_attempt (serves_mono (fun result last _ ended => ?_) serves)
  refine serves_unlockTool fun later relied _ => ?_
  rw [alone_later relied]
  exact ⟨alone_guarantee _ _, fun lost => absurd lost ended.1,
    fun _ => serves_lift (alone_stays ended.2)⟩

/-- The row the claim inserted is completed, or its result is refused. -/
theorem serves_complete {status : ToolStatus} {result : Option Json} {metadata : Json}
    {now : Timestamp} {row : ToolRow} {Post : Except Failure Unit → View → Prop}
    (stage : Stage view run rows) (found : rows tool = some row)
    (ofRun : row.runId = run.runId) (ofTool : row.toolName = tool)
    (tenant : row.tenantId = principal.tenantId)
    (refused : ¬ (nullOr Json.storable result = true ∧ metadata.storable = true) → ∀ error,
      Post (.error (.database error)) view)
    (completed : nullOr Json.storable result = true ∧ metadata.storable = true → ∀ after done,
      after.claimConnection = view.claimConnection → done.status = status →
      done.resultJson = result → done.tenantId = principal.tenantId →
      Stage after run (Function.update rows tool (some done)) → Post (.ok ()) after) :
    (alone t Allowed input).Serves t
      (completeTool principal run.runId tool result metadata status now) Post view := by
  have stored : view.db.tools run.runId tool = some row := by rw [stage.tools, found]
  refine serves_completeTool (fun later error relied _ unstorable => ?_)
    (fun later relied _ absent => ?_) fun later relied _ old storable there _ =>
      ⟨alone_guarantee _ _, serves_pure (alone_stays ?_)⟩
  · rw [alone_later relied]
    exact alone_stays (refused unstorable error)
  · rw [alone_later relied] at absent
    simp [Db.tool?, stored, tenant] at absent
  · rw [alone_later relied] at there ⊢
    obtain rfl := Option.some.inj (there.symm.trans stored)
    let done : ToolRow :=
      { old with
        status := status
        resultJson := result
        metadataJson := metadata
        completedAt := some now }
    have ofRunDone : done.runId = run.runId := ofRun
    have ofToolDone : done.toolName = tool := ofTool
    exact completed storable _ done rfl rfl rfl tenant (stage.setTool ofRunDone ofToolDone rfl)

theorem serves_listed {codec : EvidenceCodec} {Post : Except Failure (List Evidence) → View → Prop}
    (listed : Post (codec.parseAll (view.db.evidencePayloads principal.tenantId run.runId)) view) :
    (alone t Allowed input).Serves t (listEvidence codec principal run.runId) Post view := by
  refine serves_select (fun db => db.evidencePayloads principal.tenantId run.runId)
    (fun _ _ _ => rfl) fun later relied _ => ?_
  rw [alone_later relied]
  exact serves_lift (alone_stays listed)

/-- A tool or the adapter answers. -/
theorem serves_called {α : Type} {statement : Statement α} {answer : Input → Except Failure α}
    {follow : α → Routine ρ} {Post : Except Failure ρ → View → Prop}
    (invokes : ∀ input (world : World), statement t input world =
      some (answer input, { world with view := world.view.invoke run.runId tool }))
    (goes : ∀ answered, Allowed answered → (alone t Allowed input).Goes t follow Post
      (answer answered) (view.invoke run.runId tool)) :
    (alone t Allowed input).Serves t (execute statement >>= follow) Post view := by
  refine serves_invoke invokes fun later relied _ answered allowed => ?_
  rw [alone_later relied]
  exact ⟨alone_guarantee _ _, goes answered allowed⟩

/-- The answer is caught, whatever it is. -/
theorem serves_attempt_called {α : Type} {statement : Statement α}
    {answer : Input → Except Failure α} {follow : Except Failure α → Routine ρ}
    {Post : Except Failure ρ → View → Prop}
    (invokes : ∀ input (world : World), statement t input world =
      some (answer input, { world with view := world.view.invoke run.runId tool }))
    (serves : ∀ answered, Allowed answered → (alone t Allowed input).Serves t
      (follow (answer answered)) Post (view.invoke run.runId tool)) :
    (alone t Allowed input).Serves t (Call.attempt (execute statement) >>= follow) Post view := by
  refine serves_attempt ?_
  rw [← Call.bind_pure (execute statement)]
  refine serves_called invokes fun answered allowed => ?_
  have rest := serves answered allowed
  cases result : answer answered with
  | ok value =>
      rw [result] at rest
      exact serves_pure fun later relied _ => Serves.rely rest relied
  | error exception =>
      rw [result] at rest
      exact fun later relied _ => Serves.rely rest relied

end Stages

/-! ## Intake -/

/-- `begin_intake` with a key and a run identifier that nobody has used. -/
theorem serves_begin {call : IntakeCall} {Post : Except Failure (RunRow × Bool) → View → Prop}
    (unclaimed : View.Unclaimed view t) (unused : view.db.keys call.key = none)
    (fresh : ∀ drawn, Allowed drawn → view.db.runs drawn.uuid = none)
    (created : ∀ drawn eventId, Allowed drawn →
      checkAll (call.runRow drawn.uuid).checks = .ok () →
      checkAll (call.keyRow drawn.uuid).checks = .ok () →
      Post (.ok (call.runRow drawn.uuid, true)) (view.commit t (call.created drawn.uuid eventId)))
    (refused : ∀ drawn, Allowed drawn →
      ((∃ error, checkAll (call.runRow drawn.uuid).checks = .error error) ∨
        ∃ error, checkAll (call.keyRow drawn.uuid).checks = .error error) → ∀ error,
      Post (.error (.database error)) view) :
    (alone t Allowed input).Serves t (beginIntake call) Post view := by
  refine serves_beginIntake ⟨?_, ?_, ?_, ?_, ?_⟩ fun _ => unclaimed
  · intro later relied _ drawn eventId allowed _ _ checkedRun checkedKey
    rw [alone_later relied]
    exact ⟨alone_guarantee _ _, alone_stays (created drawn eventId allowed checkedRun checkedKey)⟩
  · intro later relied _ existing run found
    rw [alone_later relied, unused] at found
    cases found
  · intro later relied _ existing run found
    rw [alone_later relied, unused] at found
    cases found
  · intro later relied _ existing found
    rw [alone_later relied, unused] at found
    cases found
  · intro later relied _ drawn allowed refuses error
    rw [alone_later relied] at refuses ⊢
    rcases refuses with run | key | taken
    · exact alone_stays (refused drawn allowed (.inl run) error)
    · exact alone_stays (refused drawn allowed (.inr key) error)
    · simp [fresh drawn allowed] at taken

end Alone

end Protocol

end StockoutOps.Investigation
