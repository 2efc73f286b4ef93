import StockoutOps.Investigation.AuditChain
import StockoutOps.Investigation.ServiceInvariant

/-!
Contract: what the callers of the investigation service keep, and what each of
them relies on, also when it has lost its session.

Owns: the setup of a service, the committed tables as a replay of the log, the
protocol of the callers, and that every change of the visible state keeps it.

Does not own: the order in which a call makes those changes.
-/

namespace StockoutOps.Investigation

open StockoutOps.Sql StockoutOps.Foundation.Interleaving

/-! ## The log -/

/-- The tables that only transactions write. -/
def Db.withoutTools (db : Db) : Db := { db with tools := fun _ _ => none }

/-- The tables after the transactions of a log. -/
def replay (log : List (Tid × List Write)) : Db := Db.empty.applyAll (log.flatMap Prod.snd)

def View.Logged (view : View) : Prop := view.db.withoutTools = replay view.commitLog

theorem Db.withoutTools_applyAll (db : Db) (writes : List Write) :
    (db.applyAll writes).withoutTools = db.withoutTools.applyAll writes := by
  induction writes generalizing db with
  | nil => rfl
  | cons write rest inductionHypothesis =>
      refine (inductionHypothesis (db.apply write)).trans ?_
      cases write <;> rfl

theorem View.Logged.commit {view : View} (logged : view.Logged) (t : Tid) (writes : List Write) :
    (view.commit t writes).Logged := by
  have moved : (view.commit t writes).db.withoutTools =
      (replay view.commitLog).applyAll writes := by
    rw [← show view.db.withoutTools = replay view.commitLog from logged]
    exact Db.withoutTools_applyAll view.db writes
  refine moved.trans ?_
  cases writes with
  | nil => rfl
  | cons write rest =>
      simp [View.commit, replay, Db.applyAll, List.flatMap_append]

theorem View.Logged.runs {view : View} (logged : view.Logged) :
    (replay view.commitLog).runs = view.db.runs :=
  (congrArg Db.runs logged).symm

theorem View.Logged.decisions {view : View} (logged : view.Logged) :
    (replay view.commitLog).decisions = view.db.decisions :=
  (congrArg Db.decisions logged).symm

/-! ## The protocol -/

/-- An answer that `_resume` would take for a transition that it has lost. -/
def LostTransition (failure : Failure) : Prop :=
  ∃ message, failure = .conflict "STATE_VERSION_CONFLICT" message

/-- No tool and no adapter answers with a lost transition. -/
structure Input.Plain (input : Input) : Prop where
  evidence : ∀ tool failure, input.evidence tool = .error failure → ¬ LostTransition failure
  reason : ∀ evidence failure, input.reason evidence = .error failure → ¬ LostTransition failure

/-- How the service is set up: its parts, the modes that its calls ask for, what
the callers read from outside, and whether they must get on. -/
structure ServiceSetup where
  service : InvestigationService
  Modes : KeyId → String → RunMode → Prop
  Allowed : Tid → Input → Prop
  input : ∀ t, ∃ input, Allowed t input
  live : Prop
  plain : live → ∀ t input, Allowed t input → input.Plain

structure ServiceInv (setup : ServiceSetup) (view : View) : Prop where
  means : view.db.Means setup.service setup.Modes
  audited : AuditInv view.db
  calledOnce : view.CalledOnce
  logged : view.Logged

theorem View.calledOnce_empty : View.empty.CalledOnce :=
  ⟨fun _ _ => rfl, fun _ _ => Nat.zero_le 1, fun _ _ _ => rfl,
    fun _ _ _ found => by simp [View.empty, Db.empty] at found⟩

theorem ServiceInv.empty (setup : ServiceSetup) : ServiceInv setup View.empty :=
  ⟨Db.means_empty, AuditInv.empty, View.calledOnce_empty, rfl⟩

/-- What `t` relies on. A session that ends takes its locks with it, so what `t`
knows under a lock it knows as long as it holds the lock; the row of a tool that
it has claimed is its own to the end. -/
structure ServiceRely (setup : ServiceSetup) (t : Tid) (before after : View) : Prop where
  moves : before.MovesOn after
  gained : ∀ key, after.advisory key = some t → before.advisory key = some t
  absent : ∀ runId tool, after.advisory (setup.service.toolLockKey runId tool) = some t →
    before.db.tools runId tool = none → after.db.tools runId tool = none
  claims : ∀ runId tool, before.claimedBy runId tool = some t →
    after.claimedBy runId tool = some t ∧
      after.invocations.count (runId, tool) = before.invocations.count (runId, tool) ∧
      after.db.tools runId tool = before.db.tools runId tool

def ServiceSetup.protocol (setup : ServiceSetup) : Protocol where
  Inv := ServiceInv setup
  Rely := ServiceRely setup
  Allowed := setup.Allowed
  live := setup.live
  input := setup.input
  refl := fun _ view =>
    ⟨.refl view, fun _ held => held, fun _ _ _ absent => absent,
      fun _ _ claimed => ⟨claimed, rfl, rfl⟩⟩
  trans := by
    intro t first second third left right
    refine ⟨left.moves.trans right.moves, fun key held => left.gained key (right.gained key held),
      fun runId tool held absent => ?_, fun runId tool claimed => ?_⟩
    · exact right.absent runId tool held
        (left.absent runId tool (right.gained _ held) absent)
    · obtain ⟨still, count, row⟩ := left.claims runId tool claimed
      obtain ⟨last, countLast, rowLast⟩ := right.claims runId tool still
      exact ⟨last, countLast.trans count, rowLast.trans row⟩

/-! ## Changes of the visible state -/

namespace ServiceSetup

section Changes

variable {setup : ServiceSetup} {t : Tid} {view after : View}

/-- What a call does, it does with the tables moving on. -/
theorem moves_of_guarantee (guarantee : setup.protocol.Guarantee t view after) :
    view.MovesOn after :=
  (guarantee.rely (t + 1) (Nat.succ_ne_self t)).moves

/-- A commit leaves the tools alone. -/
theorem guarantee_commit (inv : ServiceInv setup view) {writes : List Write}
    (moves : view.db.MovesOn (view.db.applyAll writes))
    (means : (view.db.applyAll writes).Means setup.service setup.Modes)
    (audited : AuditInv (view.db.applyAll writes)) :
    setup.protocol.Guarantee t view (view.commit t writes) := by
  have tools : (view.commit t writes).db.tools = view.db.tools := Db.tools_applyAll _ _
  refine ⟨⟨means, audited, ⟨fun runId tool => ?_, inv.calledOnce.once, inv.calledOnce.fresh,
    fun runId tool row found => inv.calledOnce.settled runId tool row (by rwa [tools] at found)⟩,
    inv.logged.commit t writes⟩, fun u _ => ⟨View.movesOn_commit moves, fun _ held => held,
      fun runId tool _ absent => ?_, fun _ _ claimed => ⟨claimed, rfl, by rw [tools]⟩⟩⟩
  · rw [tools]
    exact inv.calledOnce.claimed runId tool
  · rw [tools]
    exact absent

/-- An event that is no transition may be added by anybody. -/
theorem guarantee_event (inv : ServiceInv setup view) {event : EventRow}
    (still : event.genuine = false) :
    setup.protocol.Guarantee t view (view.commit t [.insertEvent event]) :=
  guarantee_commit inv (Db.movesOn_event _ _) (inv.means.event (EventRow.means_still still))
    (inv.audited.refused rfl rfl still)

theorem guarantee_claim (inv : ServiceInv setup view) {key : Int} :
    setup.protocol.Guarantee t view (view.claim t key) := by
  refine ⟨⟨inv.means, inv.audited,
    ⟨inv.calledOnce.claimed, inv.calledOnce.once, inv.calledOnce.fresh, inv.calledOnce.settled⟩,
    inv.logged⟩, fun u other =>
    ⟨View.movesOn_of_same rfl rfl rfl, fun taken held => ?_, fun _ _ _ absent => absent,
      fun _ _ claimed => ⟨claimed, rfl, rfl⟩⟩⟩
  by_cases same : taken = key
  · subst same
    have holder : some t = some u := by simpa [View.claim] using held
    exact absurd (Option.some.inj holder).symm other
  · simpa [View.claim, Function.update_of_ne same] using held

/-- The end of a session gives nobody a lock. -/
theorem inv_endClaim (inv : ServiceInv setup view) (connection : ClaimConnection) :
    ServiceInv setup (view.endClaim t connection) :=
  ⟨inv.means, inv.audited,
    ⟨inv.calledOnce.claimed, inv.calledOnce.once, inv.calledOnce.fresh, inv.calledOnce.settled⟩,
    inv.logged⟩

theorem rely_endClaim (view : View) (t u : Tid) (connection : ClaimConnection) :
    ServiceRely setup u view (view.endClaim t connection) := by
  refine ⟨View.movesOn_of_same rfl rfl rfl, fun key held => ?_, fun _ _ _ absent => absent,
    fun _ _ claimed => ⟨claimed, rfl, rfl⟩⟩
  cases mine : view.claimConnection t with
  | closed => simpa only [View.endClaim, mine] using held
  | lost => simpa only [View.endClaim, mine] using held
  | held own =>
      simp only [View.endClaim, mine] at held
      by_cases same : key = own
      · subst same
        simp at held
      · rwa [Function.update_of_ne same] at held

theorem guarantee_endClaim (inv : ServiceInv setup view) {connection : ClaimConnection} :
    setup.protocol.Guarantee t view (view.endClaim t connection) :=
  ⟨inv_endClaim inv connection, fun u _ => rely_endClaim view t u connection⟩

/-- The owner of the lock inserts the row of its tool. -/
theorem guarantee_insertTool (inv : ServiceInv setup view) {row : ToolRow} {run : RunRow}
    (locked : view.advisory (setup.service.toolLockKey row.runId row.toolName) = some t)
    (absent : view.db.tools row.runId row.toolName = none) (started : row.status = .started)
    (found : view.db.runs row.runId = some run)
    (means : row.Means setup.service (view.db.setTool row) run) :
    setup.protocol.Guarantee t view (view.insertTool t row) := by
  have unclaimed : view.claimedBy row.runId row.toolName = none := by
    have same := inv.calledOnce.claimed row.runId row.toolName
    rwa [absent, Option.isSome_none, Option.isSome_eq_false_iff, Option.isNone_iff_eq_none] at same
  have self : (view.insertTool t row).claimedBy row.runId row.toolName = some t := by
    simp [View.insertTool]
  have others : ∀ runId tool, (runId, tool) ≠ (row.runId, row.toolName) →
      (view.insertTool t row).claimedBy runId tool = view.claimedBy runId tool := by
    intro runId tool different
    by_cases sameRun : runId = row.runId
    · subst sameRun
      have differentTool : tool ≠ row.toolName := fun same => different (by rw [same])
      simp [View.insertTool, Function.update_of_ne differentTool]
    · simp [View.insertTool, Function.update_of_ne sameRun]
  have movesRow : ∀ old, view.db.tools row.runId row.toolName = some old → old.MovesTo row := by
    simp [absent]
  refine ⟨⟨inv.means.setTool movesRow found means, ⟨inv.audited.chains, inv.audited.unborn⟩,
    ⟨fun runId tool => ?_, inv.calledOnce.once, fun runId tool none_ => ?_,
      fun runId tool other stored settled => ?_⟩, inv.logged⟩, fun u other =>
      ⟨⟨Db.movesOn_setTool movesRow, ⟨[], by simp [View.insertTool]⟩,
        ⟨[], by simp [View.insertTool]⟩⟩, fun _ held => held, fun runId tool held none_ => ?_,
        fun runId tool claimed => ?_⟩⟩
  · by_cases here : (runId, tool) = (row.runId, row.toolName)
    · obtain ⟨rfl, rfl⟩ := Prod.mk.inj here
      rw [self]
      simp [View.insertTool]
    · rw [others runId tool here]
      exact (inv.calledOnce.claimed runId tool).trans
        (congrArg Option.isSome (Db.tools_setTool_of_ne here).symm)
  · by_cases here : (runId, tool) = (row.runId, row.toolName)
    · obtain ⟨rfl, rfl⟩ := Prod.mk.inj here
      simp [self] at none_
    · rw [others runId tool here] at none_
      exact inv.calledOnce.fresh runId tool none_
  · by_cases here : (runId, tool) = (row.runId, row.toolName)
    · obtain ⟨rfl, rfl⟩ := Prod.mk.inj here
      obtain rfl : row = other := by simpa [View.insertTool] using stored
      exact absurd started settled
    · exact inv.calledOnce.settled runId tool other
        ((Db.tools_setTool_of_ne here).symm.trans stored) settled
  · refine (Db.tools_setTool_of_ne fun here => other ?_).trans none_
    obtain ⟨rfl, rfl⟩ := Prod.mk.inj here
    have held : view.advisory (setup.service.toolLockKey row.runId row.toolName) = some u := held
    exact Option.some.inj (held.symm.trans locked)
  · have different : (runId, tool) ≠ (row.runId, row.toolName) := by
      intro here
      obtain ⟨rfl, rfl⟩ := Prod.mk.inj here
      simp [unclaimed] at claimed
    exact ⟨(others runId tool different).trans claimed, rfl, Db.tools_setTool_of_ne different⟩

/-- Whoever inserted the row settles it. -/
theorem guarantee_settle (inv : ServiceInv setup view) {old row : ToolRow} {run : RunRow}
    (claimed : view.claimedBy row.runId row.toolName = some t)
    (called : view.invocations.count (row.runId, row.toolName) = 1)
    (stored : view.db.tools row.runId row.toolName = some old) (movesRow : old.MovesTo row)
    (found : view.db.runs row.runId = some run)
    (means : row.Means setup.service (view.db.setTool row) run) :
    setup.protocol.Guarantee t view (view.setTool row) := by
  have movesRow : ∀ before, view.db.tools row.runId row.toolName = some before →
      before.MovesTo row := by
    intro before there
    obtain rfl := Option.some.inj (stored.symm.trans there)
    exact movesRow
  refine ⟨⟨inv.means.setTool movesRow found means, ⟨inv.audited.chains, inv.audited.unborn⟩,
    ⟨fun runId tool => ?_, inv.calledOnce.once, inv.calledOnce.fresh,
      fun runId tool other found settled => ?_⟩, inv.logged⟩, fun u other =>
      ⟨⟨Db.movesOn_setTool movesRow, ⟨[], by simp [View.setTool]⟩, ⟨[], by simp [View.setTool]⟩⟩,
        fun _ held => held, fun runId tool _ none_ => ?_, fun runId tool theirs => ?_⟩⟩
  · refine (inv.calledOnce.claimed runId tool).trans ?_
    by_cases here : (runId, tool) = (row.runId, row.toolName)
    · obtain ⟨rfl, rfl⟩ := Prod.mk.inj here
      simp [View.setTool, stored]
    · exact congrArg Option.isSome (Db.tools_setTool_of_ne here).symm
  · by_cases here : (runId, tool) = (row.runId, row.toolName)
    · obtain ⟨rfl, rfl⟩ := Prod.mk.inj here
      exact called
    · exact inv.calledOnce.settled runId tool other
        ((Db.tools_setTool_of_ne here).symm.trans found) settled
  · refine (Db.tools_setTool_of_ne fun here => ?_).trans none_
    obtain ⟨rfl, rfl⟩ := Prod.mk.inj here
    simp [stored] at none_
  · refine ⟨theirs, rfl, Db.tools_setTool_of_ne fun here => other ?_⟩
    obtain ⟨rfl, rfl⟩ := Prod.mk.inj here
    exact Option.some.inj (theirs.symm.trans claimed)

/-- Whoever inserted the row of a tool calls it for the first time. -/
theorem guarantee_invoke (inv : ServiceInv setup view) {runId : RunId} {tool : ToolName}
    (claimed : view.claimedBy runId tool = some t)
    (unused : view.invocations.count (runId, tool) = 0) :
    setup.protocol.Guarantee t view (view.invoke runId tool) := by
  have count : ∀ other otherTool, (view.invoke runId tool).invocations.count (other, otherTool) =
      view.invocations.count (other, otherTool) +
        if (other, otherTool) = (runId, tool) then 1 else 0 := by
    intro other otherTool
    simp only [View.invoke, List.count_append, List.count_singleton, beq_iff_eq,
      eq_comm (a := (runId, tool))]
  refine ⟨⟨inv.means, inv.audited, ⟨inv.calledOnce.claimed, fun other otherTool => ?_,
    fun other otherTool none_ => ?_, fun other otherTool row found settled => ?_⟩, inv.logged⟩,
    fun u different =>
      ⟨⟨.refl _, ⟨[(runId, tool)], rfl⟩, ⟨[], by simp [View.invoke]⟩⟩, fun _ held => held,
        fun _ _ _ absent => absent, fun other otherTool claims => ⟨claims, ?_, rfl⟩⟩⟩
  · rw [count]
    split
    case isTrue here =>
      obtain ⟨rfl, rfl⟩ := Prod.mk.inj here
      omega
    case isFalse => exact inv.calledOnce.once other otherTool
  · rw [count, if_neg fun here => ?_]
    · exact inv.calledOnce.fresh other otherTool none_
    · obtain ⟨rfl, rfl⟩ := Prod.mk.inj here
      have claimed : view.claimedBy other otherTool = some t := claimed
      have none_ : view.claimedBy other otherTool = none := none_
      simp [claimed] at none_
  · have once := inv.calledOnce.settled other otherTool row found settled
    rw [count, once, if_neg fun here => ?_]
    obtain ⟨rfl, rfl⟩ := Prod.mk.inj here
    omega
  · rw [count, if_neg fun here => ?_, Nat.add_zero]
    obtain ⟨rfl, rfl⟩ := Prod.mk.inj here
    exact different (Option.some.inj (claims.symm.trans claimed))

end Changes

end ServiceSetup

end StockoutOps.Investigation
