import StockoutOps.Investigation.Transactions

/-!
Contract: reasoning about calls in terms of the visible state only.

Owns: the judgement `Serves` about a call that begins and ends with no open
transaction, its structural rules, and one rule for each statement executed
outside a transaction.

Does not own: the open transactions; a repository transaction enters with a
rule that speaks of the states around it.
-/

namespace StockoutOps.Investigation

open StockoutOps.Sql StockoutOps.Foundation.Interleaving

namespace Protocol

/-- What is known of a visible state. -/
structure Holds (protocol : Protocol) (view : View) : Prop where
  keyed : view.db.Keyed
  sessions : ∀ key t, view.advisory key = some t ↔ view.claimConnection t = .held key
  inv : protocol.Inv view

/-- `after` may be the visible state when `t` looks again. -/
structure Later (protocol : Protocol) (t : Tid) (before after : View) : Prop where
  view : before.Later t after
  rely : protocol.Rely t before after

variable {protocol : Protocol} {t : Tid} {view : View} {world : World} {ρ α : Type}

theorem holds_of_inv (inv : protocol.discipline.Inv world) : protocol.Holds world.view :=
  ⟨inv.1.keyed, inv.1.advisory, inv.2⟩

theorem later_of_rely {before after : World} (relied : protocol.discipline.Rely t before after) :
    protocol.Later t before.view after.view :=
  ⟨relied.1.view, relied.2⟩

theorem Later.refl (protocol : Protocol) (t : Tid) (view : View) : protocol.Later t view view :=
  ⟨.refl t view, protocol.refl t view⟩

theorem Later.trans {first second third : View} (left : protocol.Later t first second)
    (right : protocol.Later t second third) : protocol.Later t first third :=
  ⟨left.view.trans right.view, protocol.trans t left.rely right.rely⟩

/-- The result stays right whatever the others do. -/
def Stays (protocol : Protocol) (t : Tid) (Post : Except Failure ρ → View → Prop)
    (result : Except Failure ρ) (view : View) : Prop :=
  ∀ later, protocol.Later t view later → protocol.Holds later → Post result later

/-- From every state the others can lead to in which it has no open
transaction, the call runs safely, ends without one, and its result satisfies
`Post`. -/
def Serves (protocol : Protocol) (t : Tid) (routine : Routine ρ)
    (Post : Except Failure ρ → View → Prop) (view : View) : Prop :=
  ∀ world : World, world.Idle t → protocol.Later t view world.view →
    protocol.discipline.Inv world →
    protocol.Safe t routine (fun result last => last.Idle t ∧ Post result last.view) world

/-! ## Structure -/

section Structure

variable {Post : Except Failure ρ → View → Prop}

theorem Stays.rely {result : Except Failure ρ} {later : View}
    (stays : protocol.Stays t Post result view) (relied : protocol.Later t view later) :
    protocol.Stays t Post result later :=
  fun last reliedLast => stays last (relied.trans reliedLast)

theorem settled_of_stays {result : Except Failure ρ} (idle : world.Idle t)
    (stays : protocol.Stays t Post result world.view) :
    protocol.discipline.Settled t (fun result last => last.Idle t ∧ Post result last.view)
      result world :=
  fun _ relied inv =>
    ⟨World.InTx.rely idle relied.1, stays _ (later_of_rely relied) (holds_of_inv inv)⟩

theorem Serves.rely {routine : Routine ρ} {later : View}
    (serves : protocol.Serves t routine Post view) (relied : protocol.Later t view later) :
    protocol.Serves t routine Post later :=
  fun world idle reliedWorld => serves world idle (relied.trans reliedWorld)

theorem serves_pure {value : ρ} (stays : protocol.Stays t Post (.ok value) view) :
    protocol.Serves t (pure value) Post view :=
  fun _ idle relied _ => settled_of_stays idle (stays.rely relied)

theorem serves_raise {exception : Failure}
    (stays : protocol.Stays t Post (.error exception) view) :
    protocol.Serves t (raise exception) Post view :=
  fun _ idle relied _ => settled_of_stays idle (stays.rely relied)

theorem serves_lift {result : Except Failure ρ} (stays : protocol.Stays t Post result view) :
    protocol.Serves t (lift result) Post view := by
  cases result with
  | ok value => exact serves_pure stays
  | error exception => exact serves_raise stays

theorem serves_mono {routine : Routine ρ} {Post' : Except Failure ρ → View → Prop}
    (weaker : ∀ result last, protocol.Holds last → Post result last → Post' result last)
    (serves : protocol.Serves t routine Post view) : protocol.Serves t routine Post' view := by
  intro world idle relied inv
  refine Discipline.Safe.mono (fun result last inv post => ?_) (serves world idle relied inv)
  exact ⟨post.1, weaker result last.view (holds_of_inv inv) post.2⟩

/-- What sequencing asks of the first result. -/
def Goes (protocol : Protocol) (t : Tid) (follow : α → Routine ρ)
    (Post : Except Failure ρ → View → Prop) (result : Except Failure α) (view : View) : Prop :=
  match result with
  | .ok value => protocol.Serves t (follow value) Post view
  | .error exception => protocol.Stays t Post (.error exception) view

theorem goes_ok {follow : α → Routine ρ} {value : α}
    (serves : protocol.Serves t (follow value) Post view) :
    protocol.Goes t follow Post (.ok value) view := serves

theorem goes_error {follow : α → Routine ρ} {exception : Failure}
    (stays : protocol.Stays t Post (.error exception) view) :
    protocol.Goes t follow Post (.error exception) view := stays

theorem stays_goes_ok {follow : α → Routine ρ} {value : α}
    (serves : protocol.Serves t (follow value) Post view) :
    protocol.Stays t (protocol.Goes t follow Post) (.ok value) view :=
  fun _ relied _ => serves.rely relied

theorem stays_goes_error {follow : α → Routine ρ} {exception : Failure}
    (stays : protocol.Stays t Post (.error exception) view) :
    protocol.Stays t (protocol.Goes t follow Post) (.error exception) view :=
  fun _ relied _ => stays.rely relied

theorem serves_bind {first : Routine α} {follow : α → Routine ρ}
    (serves : protocol.Serves t first (protocol.Goes t follow Post) view) :
    protocol.Serves t (first >>= follow) Post view := by
  intro world idle relied inv
  refine Discipline.Safe.call_bind (Discipline.Safe.mono (fun result last inv goes => ?_)
    (serves world idle relied inv))
  cases result with
  | ok value => exact goes.2 last goes.1 (.refl protocol t last.view) inv
  | error exception => exact settled_of_stays goes.1 goes.2

theorem serves_attempt {body : Routine α} {follow : Except Failure α → Routine ρ}
    (serves : protocol.Serves t body
      (fun result last => protocol.Serves t (follow result) Post last) view) :
    protocol.Serves t (Call.attempt body >>= follow) Post view := by
  intro world idle relied inv
  refine Discipline.Safe.attempt_bind (Discipline.Safe.mono (fun result last inv rest => ?_)
    (serves world idle relied inv))
  exact rest.2 last rest.1 (.refl protocol t last.view) inv

end Structure

/-! ## Statements outside a transaction -/

section Statements

variable {Post : Except Failure ρ → View → Prop} {follow : α → Routine ρ}

/-- A statement that only reads; `answer` is what it reads. -/
theorem serves_read {statement : Statement α} (answer : Input → View → Except Failure α)
    (reads : ∀ input (world : World), world.Idle t →
      statement t input world = some (answer input world.view, world))
    (goes : ∀ later, protocol.Later t view later → protocol.Holds later →
      ∀ input, protocol.Allowed t input →
        protocol.Goes t follow Post (answer input later) later) :
    protocol.Serves t (execute statement >>= follow) Post view := by
  intro world idle relied inv
  refine safe_own fun later reliedLater invLater => ?_
  have idleLater : later.Idle t := World.InTx.rely idle reliedLater.1
  refine ⟨.inl fun input => ⟨_, reads input later idleLater⟩, ?_⟩
  intro input result after allowed answered
  obtain ⟨rfl, rfl⟩ :=
    Prod.mk.inj (Option.some.inj ((reads input later idleLater).symm.trans answered))
  refine ⟨.refl t later, invLater.1.pending t, invLater.1.saved t, ?_⟩
  have next := goes later.view (relied.trans (later_of_rely reliedLater))
    (holds_of_inv invLater) input allowed
  cases result : answer input later.view with
  | ok value =>
      rw [result] at next
      exact next later idleLater (.refl protocol t later.view) invLater
  | error exception =>
      rw [result] at next
      exact settled_of_stays idleLater next

/-- What a statement outside a transaction may change. -/
structure View.Touches (t : Tid) (before after : View) : Prop where
  runs : after.db.runs = before.db.runs
  events : after.db.events = before.db.events
  keys : after.db.keys = before.db.keys
  decisions : after.db.decisions = before.db.decisions
  tools : ∀ runId tool row, before.db.tools runId tool = some row →
    ∃ row', after.db.tools runId tool = some row' ∧ row'.tenantId = row.tenantId
  keyed : after.db.Keyed
  commitLog : after.commitLog = before.commitLog
  claims : ∀ u, u ≠ t → after.claimConnection u = before.claimConnection u
  sessions : ∀ key u, after.advisory key = some u ↔ after.claimConnection u = .held key

theorem View.Touches.later {before after : View} (touches : View.Touches t before after)
    (u : Tid) (other : u ≠ t) : before.Later u after where
  db :=
    { runs := fun _ row found => ⟨row, by rw [touches.runs, found], .refl row⟩
      keys := fun _ _ found => by rw [touches.keys, found]
      tools := touches.tools
      events := ⟨[], by simp [touches.events]⟩
      decisions := ⟨[], by simp [touches.decisions]⟩ }
  commits := by simp [View.commitsOf, touches.commitLog]
  claim := .inl (touches.claims u other)

/-- A statement that changes the visible state at once. -/
theorem serves_step {statement : Statement α}
    (serves : ∀ later, protocol.Later t view later → protocol.Holds later →
      ∀ world : World, world.Idle t → world.view = later → world.Locked →
      ((∃ input answer, protocol.Allowed t input ∧ statement t input world = some answer) ∨
        (protocol.live → world.Waits t)) ∧
      ∀ input result after, protocol.Allowed t input →
        statement t input world = some (result, after) →
        ∃ next, after = { world with view := next } ∧ View.Touches t later next ∧
          protocol.Guarantee t later next ∧ protocol.Goes t follow Post result next) :
    protocol.Serves t (execute statement >>= follow) Post view := by
  intro world idle relied inv
  refine safe_execute fun later reliedLater invLater => ?_
  have idleLater : later.Idle t := World.InTx.rely idle reliedLater.1
  obtain ⟨ready, answers⟩ := serves later.view (relied.trans (later_of_rely reliedLater))
    (holds_of_inv invLater) later idleLater rfl invLater.1
  refine ⟨ready, fun input result after allowed answered => ?_⟩
  obtain ⟨next, rfl, touches, guarantee, goes⟩ := answers input result after allowed answered
  have locked : World.Locked { later with view := next } :=
    { pending := fun u write member => by
        have covers := invLater.1.pending u write member
        cases write with
        | insertRun row =>
            obtain ⟨held, fresh, checked⟩ := covers
            exact ⟨held, (congrFun touches.runs _).trans fresh, checked⟩
        | updateRun row =>
            obtain ⟨held, ⟨old, found, sameRun⟩, checked⟩ := covers
            exact ⟨held, ⟨old, (congrFun touches.runs _).trans found, sameRun⟩, checked⟩
        | insertKey row => exact ⟨covers.1, (congrFun touches.keys _).trans covers.2⟩
        | insertEvent row => exact covers
        | insertDecision row => exact covers
      saved := invLater.1.saved
      keyed := touches.keyed
      events := by
        rw [touches.events]
        exact invLater.1.events
      advisory := touches.sessions }
  have guaranteed : protocol.discipline.Guarantee t later { later with view := next } := by
    refine guarantee_of locked (fun u other => ?_) guarantee
    exact
      { view := touches.later u other
        tx := rfl
        runLock := fun _ => .rfl
        keyLock := fun _ => .rfl
        run := fun runId _ => ⟨congrFun touches.runs runId,
          by simp [Db.transitionsOf, touches.events], by simp [Db.decisionsOf, touches.decisions]⟩
        key := fun key _ => congrFun touches.keys key
        nextEventId := Nat.le_refl _ }
  refine ⟨guaranteed, ?_⟩
  have idleNext : World.Idle { later with view := next } t :=
    ⟨idleLater.tx, idleLater.runs, idleLater.keys⟩
  cases result with
  | ok value => exact goes _ idleNext (.refl protocol t next) guaranteed.inv
  | error exception => exact settled_of_stays idleNext goes

/-- `self.clock()` -/
theorem serves_clock {follow : Timestamp → Routine ρ}
    (serves : ∀ later, protocol.Later t view later → protocol.Holds later →
      ∀ input, protocol.Allowed t input → protocol.Serves t (follow input.now) Post later) :
    protocol.Serves t (execute Statement.clock >>= follow) Post view :=
  serves_read (fun input _ => .ok input.now) (fun _ _ _ => rfl) serves

/-- A row or list read from the committed tables. -/
theorem serves_select {statement : Statement α} (answer : Db → α)
    (reads : ∀ input (world : World), world.Idle t →
      statement t input world = some (.ok (answer world.view.db), world))
    (serves : ∀ later, protocol.Later t view later → protocol.Holds later →
      protocol.Serves t (follow (answer later.db)) Post later) :
    protocol.Serves t (execute statement >>= follow) Post view :=
  serves_read (fun _ view => .ok (answer view.db)) reads
    fun later relied holds _ _ => serves later relied holds

/-! ### Claims -/

/-- `t` holds no claim; its last session may have been lost. -/
def View.Unclaimed (view : View) (t : Tid) : Prop :=
  ∀ key, view.claimConnection t ≠ .held key

theorem View.Unclaimed.later {before after : View} (unclaimed : View.Unclaimed before t)
    (later : before.Later t after) : View.Unclaimed after t := by
  intro key held
  rcases later.claim with same | lost
  · exact unclaimed key (same ▸ held)
  · simp [lost] at held

theorem View.touches_claim (holds : protocol.Holds view) (unclaimed : View.Unclaimed view t)
    {key : Int} (free : view.advisory key = none) :
    View.Touches t view (view.claim t key) where
  runs := rfl
  events := rfl
  keys := rfl
  decisions := rfl
  tools := fun _ _ row found => ⟨row, found, rfl⟩
  keyed := holds.keyed
  commitLog := rfl
  claims := fun _ other => Function.update_of_ne other _ _
  sessions := by
    intro other u
    have before := holds.sessions other u
    by_cases sameKey : other = key
    · subst sameKey
      by_cases same : u = t
      · subst same
        simp [View.claim]
      · have : view.claimConnection u ≠ .held other := fun held => by simp [before.mpr held] at free
        simp [View.claim, Function.update_of_ne same, this, Ne.symm same]
    · by_cases same : u = t
      · subst same
        have : view.advisory other ≠ some u := fun held => unclaimed other (before.mp held)
        simp [View.claim, Function.update_of_ne sameKey, this, Ne.symm sameKey]
      · simpa [View.claim, Function.update_of_ne sameKey, Function.update_of_ne same] using before

theorem View.touches_endClaim (holds : protocol.Holds view) {connection : ClaimConnection}
    (ends : ∀ key, connection ≠ .held key) : View.Touches t view (view.endClaim t connection) where
  runs := rfl
  events := rfl
  keys := rfl
  decisions := rfl
  tools := fun _ _ row found => ⟨row, found, rfl⟩
  keyed := holds.keyed
  commitLog := rfl
  claims := fun _ other => Function.update_of_ne other _ _
  sessions := by
    intro key u
    have before := holds.sessions key u
    by_cases same : u = t
    · subst same
      simp only [View.endClaim, Function.update_self, ends key, iff_false]
      cases connected : view.claimConnection u with
      | held held =>
          by_cases sameKey : key = held
          · subst sameKey
            simp
          · simp only [Function.update_of_ne sameKey, before, connected]
            exact fun equal => sameKey (by injection equal with equal; exact equal.symm)
      | closed => simp [before, connected]
      | lost => simp [before, connected]
    · simp only [View.endClaim, Function.update_of_ne same]
      rw [← before]
      cases connected : view.claimConnection t with
      | held held =>
          by_cases sameKey : key = held
          · subst sameKey
            have mine := (holds.sessions key t).mpr connected
            simp [mine, Ne.symm same]
          · simp [Function.update_of_ne sameKey]
      | closed => rfl
      | lost => rfl

theorem View.touches_setTool (holds : protocol.Holds view) {row : ToolRow}
    (tenant : ∀ old, view.db.tools row.runId row.toolName = some old →
      row.tenantId = old.tenantId)
    {claimedBy : RunId → ToolName → Option Tid} :
    View.Touches t view { view with db := view.db.setTool row, claimedBy := claimedBy } where
  runs := rfl
  events := rfl
  keys := rfl
  decisions := rfl
  tools := by
    intro runId tool old found
    by_cases same : (runId, tool) = (row.runId, row.toolName)
    · obtain ⟨rfl, rfl⟩ := Prod.mk.inj same
      exact ⟨row, Db.tools_setTool_self _ _, tenant old found⟩
    · exact ⟨old, (Db.tools_setTool_of_ne same).trans found, rfl⟩
  keyed := holds.keyed.setTool row
  commitLog := rfl
  claims := fun _ _ => rfl
  sessions := holds.sessions

theorem View.touches_invoke (holds : protocol.Holds view) {runId : RunId} {tool : ToolName} :
    View.Touches t view (view.invoke runId tool) where
  runs := rfl
  events := rfl
  keys := rfl
  decisions := rfl
  tools := fun _ _ row found => ⟨row, found, rfl⟩
  keyed := holds.keyed
  commitLog := rfl
  claims := fun _ _ => rfl
  sessions := holds.sessions

/-- Waiting for an advisory lock. -/
theorem serves_lockTool {key : Int} {follow : Unit → Routine ρ}
    (unclaimed : View.Unclaimed view t)
    (serves : ∀ later, protocol.Later t view later → protocol.Holds later →
      later.advisory key = none →
      protocol.Guarantee t later (later.claim t key) ∧
      protocol.Serves t (follow ()) Post (later.claim t key)) :
    protocol.Serves t (execute (Statement.lockTool key) >>= follow) Post view := by
  refine serves_step fun later relied holds world idle same locked => ?_
  have unclaimedLater := unclaimed.later relied.view
  simp only [Statement.lockTool, same]
  cases free : later.advisory key with
  | none =>
      obtain ⟨input, allowed⟩ := protocol.input t
      refine ⟨.inl ⟨input, _, allowed, rfl⟩, fun input result after allowed answered => ?_⟩
      obtain ⟨rfl, rfl⟩ := Prod.mk.inj (Option.some.inj answered)
      obtain ⟨guarantee, rest⟩ := serves later relied holds free
      exact ⟨_, rfl, View.touches_claim holds unclaimedLater free, guarantee, rest⟩
  | some u =>
      refine ⟨.inr fun _ => .inl ⟨fun contended => ?_, u, ?_, .inr (.inr ⟨key, same ▸ free⟩)⟩,
        by simp⟩
      · exact idle.not_holdsAny locked (same ▸ unclaimedLater) contended.any
      · rintro rfl
        exact unclaimedLater key ((holds.sessions key u).mp free)

theorem serves_unlockTool {follow : Unit → Routine ρ}
    (serves : ∀ later, protocol.Later t view later → protocol.Holds later →
      protocol.Guarantee t later (later.endClaim t .closed) ∧
      (later.claimConnection t = .lost →
        protocol.Stays t Post (.error .connectionLost) (later.endClaim t .closed)) ∧
      (later.claimConnection t ≠ .lost →
        protocol.Serves t (follow ()) Post (later.endClaim t .closed))) :
    protocol.Serves t (execute Statement.unlockTool >>= follow) Post view := by
  refine serves_step fun later relied holds world idle same locked => ?_
  obtain ⟨input, allowed⟩ := protocol.input t
  refine ⟨.inl ⟨input, _, allowed, rfl⟩, fun input result after allowed answered => ?_⟩
  obtain ⟨rfl, rfl⟩ := Prod.mk.inj (Option.some.inj answered)
  obtain ⟨guarantee, lost, unlocked⟩ := serves later relied holds
  subst same
  refine ⟨_, rfl, View.touches_endClaim holds (fun _ => nofun), guarantee, ?_⟩
  by_cases gone : world.view.claimConnection t = .lost
  · simpa [gone, Goes] using lost gone
  · simpa [gone, Goes] using unlocked gone

/-- The SELECT on the claim's session. -/
theorem serves_selectTool {tenantId : String} {runId : RunId} {tool : ToolName}
    {follow : Option ToolRow → Routine ρ}
    (lost : ∀ later, protocol.Later t view later → protocol.Holds later →
      later.claimConnection t = .lost → protocol.Stays t Post (.error .connectionLost) later)
    (serves : ∀ later, protocol.Later t view later → protocol.Holds later →
      later.claimConnection t ≠ .lost →
      protocol.Serves t (follow (later.db.tool? tenantId runId tool)) Post later) :
    protocol.Serves t (execute (Statement.selectTool tenantId runId tool) >>= follow)
      Post view := by
  let answer : Input → View → Except Failure (Option ToolRow) := fun _ view =>
    if view.claimConnection t = .lost then .error .connectionLost
    else .ok (view.db.tool? tenantId runId tool)
  have reads : ∀ input (world : World), world.Idle t →
      Statement.selectTool tenantId runId tool t input world =
        some (answer input world.view, world) := by
    intro input world idle
    unfold Statement.selectTool
    simp only [answer]
    split <;> rfl
  refine serves_read answer reads fun later relied holds input allowed => ?_
  by_cases gone : later.claimConnection t = .lost
  · simpa [answer, gone, Goes] using lost later relied holds gone
  · simpa [answer, gone, Goes] using serves later relied holds gone

/-- The autocommitted INSERT of a tool row, with what a refusal raises. -/
theorem serves_insertTool_raising {row : ToolRow} {follow : ToolRow → Routine ρ}
    (refused : ∀ later failure, protocol.Later t view later → protocol.Holds later →
      (failure = .connectionLost ∨ ∃ error, failure = .database error) →
      (later.claimConnection t = .lost ∨ (∃ error, checkAll row.checks = .error error) ∨
        (later.db.tools row.runId row.toolName).isSome = true ∨
        later.db.runs row.runId = none) →
      protocol.Stays t Post (.error failure) later)
    (inserted : ∀ later, protocol.Later t view later → protocol.Holds later →
      later.claimConnection t ≠ .lost → checkAll row.checks = .ok () →
      later.db.tools row.runId row.toolName = none → ∀ run,
      later.db.runs row.runId = some run →
      protocol.Guarantee t later (later.insertTool t row) ∧
      protocol.Serves t (follow row) Post (later.insertTool t row)) :
    protocol.Serves t (execute (Statement.insertTool row) >>= follow) Post view := by
  refine serves_step fun later relied holds world idle same locked => ?_
  obtain ⟨input, allowed⟩ := protocol.input t
  have unchanged : World.view { world with view := later } = later := rfl
  have self : { world with view := later } = world := by rw [← same]
  have touches : View.Touches t later later :=
    ⟨rfl, rfl, rfl, rfl, fun _ _ row found => ⟨row, found, rfl⟩, holds.keyed, rfl,
      fun _ _ => rfl, holds.sessions⟩
  simp only [Statement.insertTool, same]
  by_cases gone : later.claimConnection t = .lost
  · simp only [gone, if_true]
    refine ⟨.inl ⟨input, _, allowed, rfl⟩, fun input result after allowed answered => ?_⟩
    obtain ⟨rfl, rfl⟩ := Prod.mk.inj (Option.some.inj answered)
    exact ⟨later, self.symm, touches, .refl holds.inv,
      refused later _ relied holds (.inl rfl) (.inl gone)⟩
  simp only [gone, if_false]
  cases checked : checkAll row.checks with
  | error error =>
      refine ⟨.inl ⟨input, _, allowed, rfl⟩, fun input result after allowed answered => ?_⟩
      obtain ⟨rfl, rfl⟩ := Prod.mk.inj (Option.some.inj answered)
      exact ⟨later, self.symm, touches, .refl holds.inv,
        refused later _ relied holds (.inr ⟨_, rfl⟩) (.inr (.inl ⟨error, checked⟩))⟩
  | ok done =>
      cases taken : later.db.tools row.runId row.toolName with
      | some existing =>
          refine ⟨.inl ⟨input, _, allowed, rfl⟩, fun input result after allowed answered => ?_⟩
          obtain ⟨rfl, rfl⟩ := Prod.mk.inj (Option.some.inj answered)
          exact ⟨later, self.symm, touches, .refl holds.inv,
            refused later _ relied holds (.inr ⟨_, rfl⟩) (.inr (.inr (.inl (by simp [taken]))))⟩
      | none =>
          cases run? : later.db.runs row.runId with
          | none =>
              refine ⟨.inl ⟨input, _, allowed, rfl⟩, fun input result after allowed answered => ?_⟩
              obtain ⟨rfl, rfl⟩ := Prod.mk.inj (Option.some.inj answered)
              exact ⟨later, self.symm, touches, .refl holds.inv,
                refused later _ relied holds (.inr ⟨_, rfl⟩) (.inr (.inr (.inr run?)))⟩
          | some run =>
              refine ⟨.inl ⟨input, _, allowed, rfl⟩, fun input result after allowed answered => ?_⟩
              obtain ⟨rfl, rfl⟩ := Prod.mk.inj (Option.some.inj answered)
              obtain ⟨guarantee, rest⟩ :=
                inserted later relied holds gone checked taken run run?
              exact ⟨_, rfl, View.touches_setTool holds (by simp [taken]), guarantee, rest⟩

theorem serves_insertTool {row : ToolRow} {follow : ToolRow → Routine ρ}
    (refused : ∀ later failure, protocol.Later t view later → protocol.Holds later →
      (later.claimConnection t = .lost ∨ (∃ error, checkAll row.checks = .error error) ∨
        (later.db.tools row.runId row.toolName).isSome = true ∨
        later.db.runs row.runId = none) →
      protocol.Stays t Post (.error failure) later)
    (inserted : ∀ later, protocol.Later t view later → protocol.Holds later →
      later.claimConnection t ≠ .lost → checkAll row.checks = .ok () →
      later.db.tools row.runId row.toolName = none → ∀ run,
      later.db.runs row.runId = some run →
      protocol.Guarantee t later (later.insertTool t row) ∧
      protocol.Serves t (follow row) Post (later.insertTool t row)) :
    protocol.Serves t (execute (Statement.insertTool row) >>= follow) Post view :=
  serves_insertTool_raising (fun later failure relied holds _ => refused later failure relied holds)
    inserted

/-- The UPDATE of `complete_tool`. -/
theorem serves_completeTool {tenantId : String} {runId : RunId} {tool : ToolName}
    {status : ToolStatus} {result : Option Json} {metadata : Json} {now : Timestamp}
    {follow : Bool → Routine ρ}
    (refused : ∀ later error, protocol.Later t view later → protocol.Holds later →
      ¬ (nullOr Json.storable result = true ∧ metadata.storable = true) →
      protocol.Stays t Post (.error (.database error)) later)
    (absent : ∀ later, protocol.Later t view later → protocol.Holds later →
      later.db.tool? tenantId runId tool = none → protocol.Serves t (follow false) Post later)
    (completed : ∀ later, protocol.Later t view later → protocol.Holds later → ∀ row,
      nullOr Json.storable result = true ∧ metadata.storable = true →
      later.db.tools runId tool = some row → row.tenantId = tenantId →
      protocol.Guarantee t later
        (later.setTool
          { row with
            status := status
            resultJson := result
            metadataJson := metadata
            completedAt := some now }) ∧
      protocol.Serves t (follow true) Post
        (later.setTool
          { row with
            status := status
            resultJson := result
            metadataJson := metadata
            completedAt := some now })) :
    protocol.Serves t
      (execute (Statement.completeTool tenantId runId tool status result metadata now) >>= follow)
      Post view := by
  refine serves_step fun later relied holds world idle same locked => ?_
  obtain ⟨input, allowed⟩ := protocol.input t
  have touches : View.Touches t later later :=
    ⟨rfl, rfl, rfl, rfl, fun _ _ row found => ⟨row, found, rfl⟩, holds.keyed, rfl,
      fun _ _ => rfl, holds.sessions⟩
  simp only [Statement.completeTool, same]
  by_cases stored : nullOr Json.storable result = true ∧ metadata.storable = true
  · rw [if_neg (not_not_intro stored)]
    cases found : later.db.tool? tenantId runId tool with
    | none =>
        refine ⟨.inl ⟨input, _, allowed, rfl⟩, fun input result after allowed answered => ?_⟩
        obtain ⟨rfl, rfl⟩ := Prod.mk.inj (Option.some.inj answered)
        exact ⟨later, by rw [← same], touches, .refl holds.inv, absent later relied holds found⟩
    | some row =>
        refine ⟨.inl ⟨input, _, allowed, rfl⟩, fun input result after allowed answered => ?_⟩
        obtain ⟨rfl, rfl⟩ := Prod.mk.inj (Option.some.inj answered)
        obtain ⟨there, tenant⟩ := Db.tool?_eq_some.mp found
        obtain ⟨guarantee, rest⟩ := completed later relied holds row stored there tenant
        refine ⟨_, rfl, View.touches_setTool holds fun old stored' => ?_, guarantee, rest⟩
        obtain ⟨rowRun, rowTool⟩ := holds.keyed.tools _ _ _ there
        simp only [rowRun, rowTool, there, Option.some.injEq] at stored'
        rw [← stored']
  · rw [if_pos stored]
    refine ⟨.inl ⟨input, _, allowed, rfl⟩, fun input result after allowed answered => ?_⟩
    obtain ⟨rfl, rfl⟩ := Prod.mk.inj (Option.some.inj answered)
    exact ⟨later, by rw [← same], touches, .refl holds.inv, refused later _ relied holds stored⟩

theorem serves_invoke {statement : Statement α} {runId : RunId} {tool : ToolName}
    {answer : Input → Except Failure α}
    (invokes : ∀ input (world : World), statement t input world =
      some (answer input, { world with view := world.view.invoke runId tool }))
    (serves : ∀ later, protocol.Later t view later → protocol.Holds later →
      ∀ input, protocol.Allowed t input →
      protocol.Guarantee t later (later.invoke runId tool) ∧
      protocol.Goes t follow Post (answer input) (later.invoke runId tool)) :
    protocol.Serves t (execute statement >>= follow) Post view := by
  refine serves_step fun later relied holds world idle same locked => ?_
  obtain ⟨input, allowed⟩ := protocol.input t
  refine ⟨.inl ⟨input, _, allowed, invokes input world⟩,
    fun input result after allowed answered => ?_⟩
  rw [invokes] at answered
  obtain ⟨rfl, rfl⟩ := Prod.mk.inj (Option.some.inj answered)
  obtain ⟨guarantee, rest⟩ := serves later relied holds input allowed
  exact ⟨_, by rw [same], View.touches_invoke holds, guarantee, rest⟩

end Statements

end Protocol

end StockoutOps.Investigation
