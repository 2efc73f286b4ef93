import StockoutOps.Foundation.Frames
import StockoutOps.Investigation.ServiceProtocol

/-!
Contract: what a call of the service knows, and how its steps change that.

Owns: facts that stay while the tables move on, what a call knows of its run and
of a tool that it has claimed, and one rule each for a rejection, a transition,
a claim, and the settling of a claimed row.

Does not own: the stages that these steps make up.
-/

namespace StockoutOps.Investigation

open StockoutOps.Sql StockoutOps.Foundation.Interleaving

/-! ## Frames -/

namespace Protocol

variable {protocol : Protocol} {t : Tid} {view : View} {ρ : Type} {Fact : View → Prop}

theorem serves_frame {routine : Routine ρ} {Post : Except Failure ρ → View → Prop}
    (relied : ∀ before after, protocol.Later t before after → Fact before → Fact after)
    (owed : ∀ before after, protocol.Guarantee t before after → Fact before → Fact after)
    (serves : protocol.Serves t routine Post view) (fact : Fact view) :
    protocol.Serves t routine (fun result last => Post result last ∧ Fact last) view := by
  intro world idle reliedWorld inv
  have later : ∀ before after : World, protocol.discipline.Rely t before after →
      protocol.discipline.Inv after → Fact before.view → Fact after.view :=
    fun before after relies _ held => relied _ _ (later_of_rely relies) held
  have owing : ∀ before after : World, protocol.discipline.Guarantee t before after →
      Fact before.view → Fact after.view := fun before after guarantee held =>
    owed _ _ ⟨guarantee.inv.2, fun u other => (guarantee.rely u other).2⟩ held
  have framed := Discipline.Safe.frame later owing (serves world idle reliedWorld inv)
    (relied _ _ reliedWorld fact)
  exact Discipline.Safe.mono (fun _ _ _ both => ⟨both.1.1, both.1.2, both.2⟩) framed

end Protocol

namespace ServiceSetup

open Protocol

section Facts

variable {setup : ServiceSetup} {t : Tid} {view last : View} {ρ α : Type} {Fact : View → Prop}
  {principal : Principal} {run next : RunRow} {runId : RunId} {tool : ToolName}

/-- The fact stays while the tables move on. -/
def Steady (Fact : View → Prop) : Prop :=
  ∀ before after : View, before.MovesOn after → Fact before → Fact after

theorem Steady.later (steady : Steady Fact) (relied : setup.protocol.Later t view last)
    (fact : Fact view) : Fact last :=
  steady _ _ relied.rely.moves fact

theorem Steady.guaranteed (steady : Steady Fact) {after : View}
    (guarantee : setup.protocol.Guarantee t view after) (fact : Fact view) : Fact after :=
  steady _ _ (moves_of_guarantee guarantee) fact

/-- What stays is known beside whatever else a routine ends with. -/
theorem serves_steady (steady : Steady Fact) (fact : Fact view) {routine : Routine ρ}
    {Post : Except Failure ρ → View → Prop}
    (serves : setup.protocol.Serves t routine Post view) :
    setup.protocol.Serves t routine (fun result last => Post result last ∧ Fact last) view :=
  serves_frame (fun _ _ relied held => steady.later relied held)
    (fun _ _ guarantee held => steady.guaranteed guarantee held) serves fact

/-! ## The run of a call -/

/-- The run is one of the tenant, was stored like that, and means what it says. -/
structure Known (setup : ServiceSetup) (principal : Principal) (run : RunRow) (view : View) :
    Prop where
  tenant : run.tenantId = principal.tenantId
  stored : ∃ now, view.db.runs run.runId = some now ∧ run.MovesTo now
  means : run.Means setup.service view.db

theorem steady_known (setup : ServiceSetup) (principal : Principal) (run : RunRow) :
    Steady (Known setup principal run) := by
  intro before after moves known
  obtain ⟨now, found, movesRun⟩ := known.stored
  obtain ⟨next, there, movesNext⟩ := moves.db.runs _ _ found
  exact ⟨known.tenant, ⟨next, there, movesRun.trans movesNext⟩, known.means.moves moves.db⟩

/-- A run that is stored is known. -/
theorem known_of_stored (inv : ServiceInv setup view)
    (found : view.db.runs run.runId = some run) (tenant : run.tenantId = principal.tenantId) :
    Known setup principal run view :=
  ⟨tenant, ⟨run, found, .refl run⟩, inv.means.runs _ _ found⟩

theorem Known.run? (known : Known setup principal run view) :
    ∃ now, view.db.run? principal.tenantId run.runId = some now ∧ run.MovesTo now := by
  obtain ⟨now, found, movesRun⟩ := known.stored
  exact ⟨now, Db.run?_eq_some.mpr ⟨found, movesRun.same.tenantId.trans known.tenant⟩, movesRun⟩

/-- Between two stages `t` knows its run and holds no tool. -/
structure Calm (setup : ServiceSetup) (t : Tid) (principal : Principal) (run : RunRow)
    (view : View) : Prop where
  unclaimed : View.Unclaimed view t
  known : Known setup principal run view

theorem Calm.later (calm : Calm setup t principal run view)
    (relied : setup.protocol.Later t view last) : Calm setup t principal run last :=
  ⟨calm.unclaimed.later relied.view, (steady_known _ _ _).later relied calm.known⟩

/-- The stored run has fewer transitions before it than the one known. -/
def Overtaken (run : RunRow) (view : View) : Prop :=
  ∃ now, view.db.runs run.runId = some now ∧ longestPath now.state < longestPath run.state

theorem steady_overtaken (run : RunRow) : Steady (Overtaken run) := by
  intro before after moves overtaken
  obtain ⟨now, found, fewer⟩ := overtaken
  obtain ⟨next, there, movesRun⟩ := moves.db.runs _ _ found
  obtain ⟨count, path, -⟩ := movesRun.path
  have bound := path.longestPath_add_le
  exact ⟨next, there, by omega⟩

end Facts

section Rules

variable {setup : ServiceSetup} {t : Tid} {view last : View} {ρ α : Type} {Fact : View → Prop}
  {principal : Principal} {run next : RunRow} {runId : RunId} {tool : ToolName}

/-- Where nothing but `Stays` is asked of an error, one that is no lost transition. -/
theorem not_lostTransition {failure : Failure}
    (other : ∀ message, failure ≠ .conflict "STATE_VERSION_CONFLICT" message) :
    ¬ LostTransition failure := fun ⟨message, same⟩ => other message same

/-! ## Rejections and transitions -/

/-- The event of a rejection, and then the exception. -/
theorem serves_rejected {code : String} {now : Timestamp} {exception : Failure}
    {Post : Except Failure ρ → View → Prop}
    (absent : ∀ later, setup.protocol.Later t view later → setup.protocol.Holds later →
      later.db.run? principal.tenantId runId = none →
      setup.protocol.Stays t Post (.error (.stockoutOps .notFoundError)) later)
    (rejected : ∀ later, setup.protocol.Later t view later → setup.protocol.Holds later →
      ∀ run eventId, setup.protocol.Guarantee t later (later.commit t
        [.insertEvent ((controlRejected principal run code now).numbered eventId)]) →
      setup.protocol.Stays t Post (.error exception) (later.commit t
        [.insertEvent ((controlRejected principal run code now).numbered eventId)])) :
    setup.protocol.Serves t
      (do
        appendRejectedControl principal runId code now
        raise exception : Routine ρ) Post view := by
  refine serves_rejectControl absent ?_
  intro later relied _ run _ last reliedLast holds eventId
  have guarantee : setup.protocol.Guarantee t last (last.commit t
      [.insertEvent ((controlRejected principal run code now).numbered eventId)]) :=
    guarantee_event holds.inv (by simp)
  exact ⟨guarantee, rejected last (relied.trans reliedLast) holds run eventId guarantee⟩

/-- What a stage makes of a run: a later run, or none, and then the run of the
call has been overtaken if a transition was lost. -/
def Advanced (setup : ServiceSetup) (t : Tid) (principal : Principal) (run : RunRow) :
    Except Failure RunRow → View → Prop
  | .ok next, last => run.MovesTo next ∧ Calm setup t principal next last
  | .error exception, last =>
      Calm setup t principal run last ∧ (LostTransition exception → Overtaken run last)

theorem stays_advanced {result : Except Failure RunRow}
    (advanced : Advanced setup t principal run result view) :
    setup.protocol.Stays t (Advanced setup t principal run) result view := by
  intro later relied _
  cases result with
  | ok next => exact ⟨advanced.1, advanced.2.later relied⟩
  | error exception =>
      exact ⟨advanced.1.later relied,
        fun lost => (steady_overtaken run).later relied (advanced.2 lost)⟩

/-- A compare-and-swap on the run of the call. -/
theorem serves_advance {move : Move} {now : Timestamp}
    (taken : move.target ∈ serviceTransitions run.state)
    (same : ∀ row : RunRow, row.SameRun (move.set row))
    (reached : ∀ row, (move.set row).state = move.target)
    (version : ∀ row, (move.set row).stateVersion = row.stateVersion + 1)
    (sound : ∀ later row, setup.protocol.Later t view later → setup.protocol.Holds later →
      row.state = run.state → run.SameRun row → row.Means setup.service later.db →
      row.MovesTo (move.set row) ∧ (move.set row).Means setup.service later.db)
    (calm : Calm setup t principal run view) :
    setup.protocol.Serves t (compareAndSwap principal run move now)
      (fun result last => Advanced setup t principal run result last ∧
        ∀ next, result = .ok next → ∃ row, next = move.set row) view := by
  have advanced : ∀ {last : View} {exception : Failure}, Calm setup t principal run last →
      (LostTransition exception → Overtaken run last) →
      setup.protocol.Stays t (fun result last => Advanced setup t principal run result last ∧
        ∀ next, result = .ok next → ∃ row, next = move.set row) (.error exception) last := by
    intro last exception calm overtaken later relied holds
    refine ⟨stays_advanced ?_ later relied holds, by simp⟩
    exact ⟨calm, overtaken⟩
  refine serves_compareAndSwap same (fun _ => calm.unclaimed) ?_
    (fun later relied _ row error _ _ => advanced (calm.later relied)
      fun lost => absurd lost (not_lostTransition (by simp [Failure.conflict])))
    (fun later relied holds missed => ?_)
    (fun invalid => absurd (canTransition_of_mem taken) (by simp [invalid]))
  · intro later relied holds row eventId allowed found tenant state _ checked above
    have rowId := holds.keyed.runs _ _ found
    obtain ⟨stored, foundNow, movesRow⟩ := (calm.later relied).known.stored
    obtain rfl : row = stored := Option.some.inj (found.symm.trans foundNow)
    obtain ⟨moves, means⟩ := sound later row relied holds state movesRow.same
      (holds.inv.means.runs _ _ found)
    have storedSet : later.db.runs (move.set row).runId = some row := by
      rw [(same row).runId, rowId]
      exact found
    have guarantee := guarantee_commit (t := t) holds.inv
      (Db.movesOn_transition storedSet moves checked
        ((move.event principal run now).numbered eventId))
      (holds.inv.means.transition storedSet moves checked means
        (fun _ => .inr ⟨run.state, move.target, rfl, rfl, taken⟩))
      (holds.inv.audited.moved row (move.set row) _ (by rw [rowId, found]) (same row)
        (by rw [state]; rfl) (by rw [reached]; rfl) (by rw [reached, state]; exact allowed)
        (version row) (by rw [rowId]; exact above) rowId.symm tenant.symm)
    have calmSet : Calm setup t principal (move.set row) (later.commit t
        [.updateRun (move.set row),
          .insertEvent ((move.event principal run now).numbered eventId)]) :=
      ⟨(calm.later relied).unclaimed, known_of_stored guarantee.inv (Function.update_self _ _ _)
        ((same row).tenantId.trans tenant)⟩
    refine ⟨guarantee, fun last reliedLast holdsLast => ⟨?_, fun next ended => ?_⟩⟩
    · exact ⟨movesRow.trans moves, calmSet.later reliedLast⟩
    · exact ⟨row, (Except.ok.inj ended).symm⟩
  · -- The row has moved on, so the run of the call has been overtaken.
    have calmLater := calm.later relied
    obtain ⟨stored, there, movesRow⟩ := calmLater.known.run?
    have fewer := movesRow.overtaken (missed stored there)
    have overtaken : Overtaken run later := ⟨stored, (Db.run?_eq_some.mp there).1, fewer⟩
    refine serves_rejected (fun last reliedLast _ _ => advanced (calmLater.later reliedLast)
      fun lost => absurd lost (not_lostTransition (by simp [Failure.conflict])))
      fun last reliedLast holdsLast row eventId guarantee => ?_
    have calmLast := calmLater.later reliedLast
    refine advanced ⟨calmLast.unclaimed, (steady_known _ _ _).guaranteed guarantee calmLast.known⟩
      fun _ => ?_
    exact (steady_overtaken run).guaranteed guarantee
      ((steady_overtaken run).later reliedLast overtaken)

/-! ## Claims -/

/-- `t` has connected a session for the tool and has not inserted its row. As
long as it holds the lock, what it has read under it stays. -/
structure Locking (setup : ServiceSetup) (t : Tid) (runId : RunId) (tool : ToolName)
    (view : View) : Prop where
  session : view.claimConnection t = .held (setup.service.toolLockKey runId tool) ∨
    view.claimConnection t = .lost

theorem Locking.later (locking : Locking setup t runId tool view)
    (relied : setup.protocol.Later t view last) : Locking setup t runId tool last := by
  refine ⟨?_⟩
  rcases relied.view.claim with same | lost
  · rw [same]
    exact locking.session
  · exact .inr lost

/-- A session that has not been lost holds the lock. -/
theorem Locking.locked (locking : Locking setup t runId tool view)
    (holds : setup.protocol.Holds view) (open_ : view.claimConnection t ≠ .lost) :
    view.advisory (setup.service.toolLockKey runId tool) = some t :=
  (holds.sessions _ _).mpr (locking.session.resolve_right open_)

theorem Locking.unclaimed_of_lost (lost : view.claimConnection t = .lost) :
    View.Unclaimed view t := fun key held => by simp [lost] at held

/-- Once the session has ended, nothing is held. -/
theorem unclaimed_endClaim (view : View) (t : Tid) :
    View.Unclaimed (view.endClaim t .closed) t := fun key held => by
  simp [View.endClaim] at held

/-- `t` has inserted the row of the tool and not settled it, and the tool has been
called so many times. -/
structure Holding (count : Nat) (t : Tid) (runId : RunId) (tool : ToolName) (view : View) :
    Prop where
  claimed : view.claimedBy runId tool = some t
  started : ∃ row, view.db.tools runId tool = some row ∧ row.status = .started
  count : view.invocations.count (runId, tool) = count

theorem Holding.later {count : Nat} (holding : Holding count t runId tool view)
    (relied : setup.protocol.Later t view last) : Holding count t runId tool last := by
  obtain ⟨claimed, same, row⟩ := relied.rely.claims _ _ holding.claimed
  exact ⟨claimed, row ▸ holding.started, same.trans holding.count⟩

/-- The tool has not been called yet. -/
abbrev Claiming : Tid → RunId → ToolName → View → Prop := Holding 0

/-- The tool has been called. -/
abbrev Owning : Tid → RunId → ToolName → View → Prop := Holding 1

/-- A row that a call has seen is there, or what it has become. -/
def Observed (run : RunRow) (tool : ToolName) (existing : ToolRow) (view : View) : Prop :=
  ∃ now, view.db.tool? run.tenantId run.runId tool = some now ∧ existing.MovesTo now

theorem steady_observed (run : RunRow) (tool : ToolName) (existing : ToolRow) :
    Steady (Observed run tool existing) := by
  intro before after moves observed
  obtain ⟨now, found, movesRow⟩ := observed
  obtain ⟨stored, tenant⟩ := Db.tool?_eq_some.mp found
  obtain ⟨next, there, movesNext⟩ := moves.db.tools _ _ _ stored
  exact ⟨next, Db.tool?_eq_some.mpr ⟨there, movesNext.tenantId.trans tenant⟩,
    movesRow.trans movesNext⟩

/-- A completed row that was seen is the row of the tool. -/
theorem Observed.completed {existing : ToolRow} (observed : Observed run tool existing view)
    (completed : existing.status = .completed) :
    view.db.tool? run.tenantId run.runId tool = some existing := by
  obtain ⟨now, found, movesRow⟩ := observed
  rwa [movesRow.settled (by simp [completed])] at found

/-- How `claim_or_observe_tool` ends. -/
def Claimed (setup : ServiceSetup) (t : Tid) (principal : Principal) (run : RunRow)
    (tool : ToolName) : Except Failure (ToolRow × Bool) → View → Prop
  | .ok (_, true), last =>
      Claiming t run.runId tool last ∧ Known setup principal run last
  | .ok (existing, false), last =>
      Calm setup t principal run last ∧ Observed run tool existing last
  | .error exception, last =>
      Calm setup t principal run last ∧ ¬ LostTransition exception

theorem claimed_error {exception : Failure} (calm : Calm setup t principal run view)
    (other : ¬ LostTransition exception) :
    setup.protocol.Stays t (Claimed setup t principal run tool) (.error exception) view :=
  fun _ relied _ => ⟨calm.later relied, other⟩

theorem not_lostTransition_connectionLost : ¬ LostTransition .connectionLost :=
  not_lostTransition (by simp [Failure.conflict])

/-- A row that was found is handed out, and the claim is given up. -/
theorem serves_observeTool {existing : ToolRow} (known : Known setup principal run view)
    (observed : Observed run tool existing view) :
    setup.protocol.Serves t
      (do
        execute Statement.unlockTool
        pure (existing, false))
      (Claimed setup t principal run tool) view := by
  refine serves_unlockTool fun later relied holds => ?_
  have guarantee : setup.protocol.Guarantee t later (later.endClaim t .closed) :=
    guarantee_endClaim holds.inv
  have calm : Calm setup t principal run (later.endClaim t .closed) :=
    ⟨unclaimed_endClaim later t, (steady_known _ _ _).guaranteed guarantee
      ((steady_known _ _ _).later relied known)⟩
  have still : Observed run tool existing (later.endClaim t .closed) :=
    (steady_observed _ _ _).guaranteed guarantee ((steady_observed _ _ _).later relied observed)
  refine ⟨guarantee, fun _ => claimed_error calm not_lostTransition_connectionLost,
    fun _ => serves_pure fun final reliedFinal _ => ?_⟩
  exact ⟨calm.later reliedFinal, (steady_observed _ _ _).later reliedFinal still⟩

/-- A tool row has the tenant of its run, so where the tenant finds none there is none
at all. -/
theorem Known.absent (known : Known setup principal run view)
    (holds : setup.protocol.Holds view)
    (missing : view.db.tool? principal.tenantId run.runId tool = none) :
    view.db.tools run.runId tool = none := by
  by_contra there
  obtain ⟨row, stored⟩ := Option.ne_none_iff_exists'.mp there
  obtain ⟨other, storedRun, means⟩ := holds.inv.means.tools _ _ _ stored
  obtain ⟨now, foundNow, movesRun⟩ := known.stored
  obtain rfl : now = other := Option.some.inj (foundNow.symm.trans storedRun)
  have ofTenant := means.tenant.symm.trans (movesRun.same.tenantId.trans known.tenant)
  simp [Db.tool?_eq_some.mpr ⟨stored, ofTenant⟩] at missing

/-- The row that a claim inserts. -/
def startedRow (principal : Principal) (runId : RunId) (tool : ToolName) (requestHash : String)
    (now : Timestamp) : ToolRow where
  runId := runId
  tenantId := principal.tenantId
  toolName := tool
  requestHash := requestHash
  status := .started
  resultJson := none
  metadataJson := .obj []
  createdAt := now
  completedAt := none

/-- Whoever inserts the row of a tool that has none has claimed the tool. -/
theorem claiming_insertTool {row : ToolRow} (holds : setup.protocol.Holds view)
    (ofRun : row.runId = run.runId) (ofTool : row.toolName = tool)
    (started : row.status = .started) (missing : view.db.tools run.runId tool = none) :
    Claiming t run.runId tool (view.insertTool t row) := by
  subst ofTool
  rw [← ofRun] at missing ⊢
  refine ⟨?_, ⟨row, Db.tools_setTool_self _ _, started⟩, ?_⟩
  · simp [View.insertTool]
  · refine holds.inv.calledOnce.fresh _ _ ?_
    have claimed := holds.inv.calledOnce.claimed row.runId row.toolName
    simpa [missing] using claimed

section Insert

variable {requestHash : String} {now : Timestamp}

/-- Nobody else can have inserted the row under the lock, so only a lost session refuses
the INSERT. -/
theorem stays_refusedTool {failure : Failure} (hex : isHex64 requestHash = true)
    (known : Known setup principal run view) (locking : Locking setup t run.runId tool view)
    (absent : view.db.tools run.runId tool = none) (relied : setup.protocol.Later t view last)
    (holds : setup.protocol.Holds last)
    (raised : failure = .connectionLost ∨ ∃ error, failure = .database error)
    (refused : last.claimConnection t = .lost ∨
      (∃ error, checkAll (startedRow principal run.runId tool requestHash now).checks =
        .error error) ∨
      (last.db.tools run.runId tool).isSome = true ∨ last.db.runs run.runId = none) :
    setup.protocol.Stays t (Claimed setup t principal run tool) (.error failure) last := by
  have knownLast := (steady_known _ _ _).later relied known
  by_cases lost : last.claimConnection t = .lost
  · refine claimed_error ⟨Locking.unclaimed_of_lost lost, knownLast⟩ (not_lostTransition ?_)
    rintro message rfl
    simp [Failure.conflict] at raised
  · exfalso
    have locked := (locking.later relied).locked holds lost
    rcases refused with gone | ⟨error, unchecked⟩ | taken | gone
    · exact lost gone
    · simp [startedRow, ToolRow.checks, checkAll, hex] at unchecked
    · simp [relied.rely.absent _ _ locked absent] at taken
    · obtain ⟨stored, there, -⟩ := knownLast.stored
      simp [there] at gone

/-- Where the tool has no row, its claim gets one. -/
theorem serves_insertClaim (hex : isHex64 requestHash = true)
    (asked : ∀ later, setup.protocol.Later t view later → ∀ row : ToolRow, row.toolName = tool →
      row.requestHash = requestHash → row.Asked setup.service later.db run)
    (known : Known setup principal run view) (locking : Locking setup t run.runId tool view)
    (absent : view.db.tools run.runId tool = none) :
    setup.protocol.Serves t
      (do
        let row ← execute
          (Statement.insertTool (startedRow principal run.runId tool requestHash now))
        pure (row, true))
      (Claimed setup t principal run tool) view := by
  refine serves_insertTool_raising (fun last failure relied holds raised refused =>
      stays_refusedTool hex known locking absent relied holds raised refused)
    fun last relied holds open_ _ missing row stored => ?_
  have knownLast := (steady_known _ _ _).later relied known
  have locked := (locking.later relied).locked holds open_
  obtain ⟨current, there, movesRun⟩ := knownLast.stored
  obtain rfl : row = current := Option.some.inj (stored.symm.trans there)
  let inserted : ToolRow := startedRow principal run.runId tool requestHash now
  have moves : last.db.MovesOn (last.db.setTool inserted) :=
    Db.movesOn_setTool fun old taken => by simp [inserted, missing] at taken
  have means : inserted.Means setup.service (last.db.setTool inserted) row :=
    { tenant := movesRun.same.tenantId.trans knownLast.tenant
      asked := (asked last relied inserted rfl rfl).moves rfl rfl moves movesRun.same
      answer := .started rfl rfl rfl }
  have guarantee : setup.protocol.Guarantee t last (last.insertTool t inserted) :=
    guarantee_insertTool holds.inv locked missing rfl stored means
  have claiming : Claiming t run.runId tool (last.insertTool t inserted) :=
    claiming_insertTool holds rfl rfl rfl missing
  refine ⟨guarantee, serves_pure fun final reliedFinal _ => ⟨claiming.later reliedFinal, ?_⟩⟩
  exact (steady_known _ _ _).later reliedFinal
    ((steady_known _ _ _).guaranteed guarantee knownLast)

theorem serves_claimOrObserveTool (hex : isHex64 requestHash = true)
    (asked : ∀ later, setup.protocol.Later t view later → ∀ row : ToolRow, row.toolName = tool →
      row.requestHash = requestHash → row.Asked setup.service later.db run)
    (calm : Calm setup t principal run view) :
    setup.protocol.Serves t
      (claimOrObserveTool setup.service.toolLockKey principal run.runId tool requestHash now)
      (Claimed setup t principal run tool) view := by
  refine serves_lockTool calm.unclaimed fun first reliedFirst holds free =>
    ⟨guarantee_claim holds.inv, ?_⟩
  have known : Known setup principal run
      (first.claim t (setup.service.toolLockKey run.runId tool)) :=
    (steady_known _ _ _).guaranteed (guarantee_claim (t := t) holds.inv)
      (calm.later reliedFirst).known
  have locking : Locking setup t run.runId tool
      (first.claim t (setup.service.toolLockKey run.runId tool)) :=
    ⟨.inl (Function.update_self _ _ _)⟩
  have askedFirst : ∀ later, setup.protocol.Later t
      (first.claim t (setup.service.toolLockKey run.runId tool)) later → ∀ row : ToolRow,
      row.toolName = tool → row.requestHash = requestHash →
      row.Asked setup.service later.db run := by
    intro later relied row ofTool ofHash
    exact (asked first reliedFirst row ofTool ofHash).moves rfl rfl relied.rely.moves.db
      (.refl run)
  refine serves_selectTool (fun last relied _ lost => ?_) fun second relied holds _ => ?_
  · exact claimed_error ⟨Locking.unclaimed_of_lost lost, (steady_known _ _ _).later relied known⟩
      not_lostTransition_connectionLost
  have known := (steady_known _ _ _).later relied known
  cases found : second.db.tool? principal.tenantId run.runId tool with
  | some existing =>
      exact serves_observeTool known
        ⟨existing, by rw [known.tenant, found], .refl existing⟩
  | none =>
      exact serves_insertClaim hex
        (fun last reliedLast => askedFirst last (relied.trans reliedLast)) known
        (locking.later relied) (known.absent holds found)

end Insert

/-! ## Settling a claimed row -/

/-- The row of the tool has been completed. -/
def Completed (run : RunRow) (tool : ToolName) (view : View) : Prop :=
  ∃ row, view.db.tool? run.tenantId run.runId tool = some row ∧ row.status = .completed

theorem steady_completed (run : RunRow) (tool : ToolName) : Steady (Completed run tool) := by
  intro before after moves completed
  obtain ⟨row, found, status⟩ := completed
  exact ⟨row, moves.db.settled found (by simp [status]), status⟩

/-- How the call of a tool ends: with a completed row, or without an exception
that looks like a lost transition. -/
def Called (setup : ServiceSetup) (run : RunRow) (tool : ToolName) : Except Failure ρ → View → Prop
  | .ok _, last => Completed run tool last
  | .error exception, _ => setup.live → ¬ LostTransition exception

theorem steady_called (setup : ServiceSetup) (run : RunRow) (tool : ToolName)
    (result : Except Failure ρ) : Steady (Called setup run tool result) := by
  intro before after moves called
  cases result with
  | ok value => exact steady_completed run tool before after moves called
  | error exception => exact called

theorem Steady.staysPost {Post : Except Failure ρ → View → Prop}
    (steady : ∀ result, Steady (Post result)) {result : Except Failure ρ}
    (post : Post result view) : setup.protocol.Stays t Post result view :=
  fun _ relied _ => (steady result).later relied post

/-- The claim is released whatever the body does; the session may be gone by then. -/
theorem serves_releasing {body : Routine ρ} {Post : Except Failure ρ → View → Prop}
    (steady : ∀ result, Steady (Post result)) (serves : setup.protocol.Serves t body Post view) :
    setup.protocol.Serves t (withClaim body)
      (fun result last => View.Unclaimed last t ∧
        (Post result last ∨ result = .error .connectionLost)) view := by
  refine serves_attempt (serves_mono (fun result last _ post => ?_) serves)
  refine serves_unlockTool fun later relied holds => ?_
  have guarantee : setup.protocol.Guarantee t later (later.endClaim t .closed) :=
    guarantee_endClaim holds.inv
  have unclaimed := unclaimed_endClaim later t
  have kept : Post result (later.endClaim t .closed) :=
    (steady result).guaranteed guarantee ((steady result).later relied post)
  refine ⟨guarantee, fun _ final reliedFinal _ => ⟨unclaimed.later reliedFinal.view, .inr rfl⟩,
    fun _ => serves_lift fun final reliedFinal _ => ?_⟩
  exact ⟨unclaimed.later reliedFinal.view, .inl ((steady result).later reliedFinal kept)⟩

/-- How the settling of a row ends. -/
def Settled (run : RunRow) (tool : ToolName) (status : ToolStatus) :
    Except Failure Unit → View → Prop
  | .ok _, last => status = .completed → Completed run tool last
  | .error exception, _ => ¬ LostTransition exception

theorem steady_settled (run : RunRow) (tool : ToolName) (status : ToolStatus)
    (result : Except Failure Unit) : Steady (Settled run tool status result) := by
  intro before after moves settled
  cases result with
  | ok done => exact fun completed => steady_completed run tool _ _ moves (settled completed)
  | error exception => exact settled

/-- The owner of a row settles it. -/
theorem serves_settling {status : ToolStatus} {result : Option Json} {metadata : Json}
    {now : Timestamp}
    (answers : ∀ later, setup.protocol.Later t view later → ∀ row : ToolRow,
      row.toolName = tool → row.status = status → row.resultJson = result →
      row.metadataJson = metadata → row.Answer setup.service later.db run)
    (owning : Owning t run.runId tool view) (known : Known setup principal run view) :
    setup.protocol.Serves t (completeTool principal run.runId tool result metadata status now)
      (Settled run tool status) view := by
  have failing : ∀ {last : View} {exception : Failure}, ¬ LostTransition exception →
      setup.protocol.Stays t (Settled run tool status) (.error exception) last :=
    fun other => Steady.staysPost (steady_settled run tool status) other
  refine serves_completeTool
    (fun later error relied _ _ => failing (not_lostTransition (by simp [Failure.conflict])))
    (fun later relied _ _ => serves_raise
      (failing (not_lostTransition (by simp [Failure.conflict]))))
    fun later relied holds row _ stored ofTenant => ?_
  have owning := owning.later relied
  have known := (steady_known _ _ _).later relied known
  obtain ⟨ofRun, ofTool⟩ := holds.keyed.tools _ _ _ stored
  obtain ⟨old, there, started⟩ := owning.started
  obtain rfl : row = old := Option.some.inj (stored.symm.trans there)
  obtain ⟨stored_, foundRun, means⟩ := holds.inv.means.tools _ _ _ stored
  obtain ⟨nowRun, foundNow, movesRun⟩ := known.stored
  obtain rfl : stored_ = nowRun := Option.some.inj (foundRun.symm.trans foundNow)
  let settled : ToolRow :=
    { row with
      status := status
      resultJson := result
      metadataJson := metadata
      completedAt := some now }
  have movesRow : row.MovesTo settled := ⟨rfl, rfl, rfl, rfl, fun other => absurd started other⟩
  have moves : later.db.MovesOn (later.db.setTool settled) := by
    refine Db.movesOn_setTool fun before foundBefore => ?_
    have foundBefore : later.db.tools row.runId row.toolName = some before := foundBefore
    rw [ofRun, ofTool] at foundBefore
    obtain rfl := Option.some.inj (stored.symm.trans foundBefore)
    exact movesRow
  have answer : settled.Answer setup.service (later.db.setTool settled) stored_ :=
    (answers later relied settled ofTool rfl rfl rfl).moves moves movesRun.same
  have guarantee : setup.protocol.Guarantee t later (later.setTool settled) := by
    refine guarantee_settle holds.inv ?_ ?_ ?_ movesRow ?_
      ⟨means.tenant, means.asked.moves rfl rfl moves (.refl _), answer⟩
    · show later.claimedBy row.runId row.toolName = some t
      rw [ofRun, ofTool]
      exact owning.claimed
    · show later.invocations.count (row.runId, row.toolName) = 1
      rw [ofRun, ofTool]
      exact owning.count
    · show later.db.tools row.runId row.toolName = some row
      rw [ofRun, ofTool]
      exact stored
    · show later.db.runs row.runId = some stored_
      rw [ofRun]
      exact foundRun
  refine ⟨guarantee, serves_pure (Steady.staysPost (steady_settled run tool status) ?_)⟩
  intro completed
  refine ⟨settled, Db.tool?_eq_some.mpr ⟨?_, ?_⟩, completed⟩
  · have self := Db.tools_setTool_self later.db settled
    rwa [show settled.runId = run.runId from ofRun, show settled.toolName = tool from ofTool]
      at self
  · exact ofTenant.trans known.tenant.symm

variable (setup) in
/-- A tool or the adapter is called under its claim. -/
theorem serves_calling (statement : Statement α) {answer : Input → Except Failure α}
    (invokes : ∀ input (world : World), statement t input world =
      some (answer input, { world with view := world.view.invoke runId tool }))
    (claiming : Claiming t runId tool view) :
    setup.protocol.Serves t (execute statement)
      (fun result last => Owning t runId tool last ∧
        ∃ input, setup.Allowed t input ∧ result = answer input) view := by
  rw [← Call.bind_pure (execute statement)]
  refine serves_invoke invokes fun later relied holds input allowed => ?_
  have claiming := claiming.later relied
  have guarantee := guarantee_invoke (t := t) holds.inv claiming.claimed claiming.count
  have owning : Owning t runId tool (later.invoke runId tool) :=
    ⟨claiming.claimed, claiming.started, by simp [View.invoke, claiming.count]⟩
  refine ⟨guarantee, ?_⟩
  cases answered : answer input with
  | ok value =>
      refine goes_ok (serves_pure fun last reliedLast _ => ?_)
      exact ⟨owning.later reliedLast, input, allowed, answered.symm⟩
  | error exception =>
      refine goes_error fun last reliedLast _ => ?_
      exact ⟨owning.later reliedLast, input, allowed, answered.symm⟩

end Rules

end ServiceSetup

end StockoutOps.Investigation
