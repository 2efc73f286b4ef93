import StockoutOps.Investigation.Isolation

/-!
Contract: reasoning about the statements of one open transaction.

Owns: transactions and nested transactions as routines, what a call knows
about its open transaction (`World.InTx`), one rule for each statement, and
the rules for the end of a transaction.

Does not own: the repository's transactions.
-/

namespace StockoutOps.Investigation

open StockoutOps.Sql StockoutOps.Foundation.Interleaving

/-- `connection.execute(...)` -/
def execute {ρ : Type} (statement : Statement ρ) : Routine ρ := Call.exec statement

/-- `raise exception` -/
abbrev raise {ρ : Type} (exception : Failure) : Routine ρ := Call.raise exception

/-- A call whose remaining work is a computation that may raise. -/
def lift {ρ : Type} (result : Except Failure ρ) : Routine ρ :=
  match result with
  | .ok value => pure value
  | .error exception => raise exception

/-- `with self.database.connect() as connection, connection.transaction():` -/
def transaction {ρ : Type} (body : Routine ρ) : Routine ρ := do
  match ← Call.attempt body with
  | .ok result => do
      execute Statement.commit
      pure result
  | .error exception => do
      execute Statement.rollback
      raise exception

/-- `with connection.transaction():` inside a transaction. -/
def nestedTransaction {ρ : Type} (body : Routine ρ) : Routine ρ := do
  execute Statement.savepoint
  match ← Call.attempt body with
  | .ok result => do
      execute Statement.releaseSavepoint
      pure result
  | .error exception => do
      execute Statement.rollbackToSavepoint
      raise exception

/-! ## What a call knows about its transaction -/

/-- The open transaction of `t` and the locks it holds. -/
structure World.InTx (world : World) (t : Tid) (tx : Tx) (runs : List RunId)
    (keys : List KeyId) : Prop where
  tx : world.tx t = tx
  runs : ∀ runId, world.runLock runId = some t ↔ runId ∈ runs
  keys : ∀ key, world.keyLock key = some t ↔ key ∈ keys

abbrev World.Idle (world : World) (t : Tid) : Prop := world.InTx t Tx.idle [] []

section InTx

variable {world before after : World} {t : Tid} {tx : Tx} {runs : List RunId}
  {keys : List KeyId}

theorem World.InTx.rely (inTx : before.InTx t tx runs keys) (rely : before.Rely t after) :
    after.InTx t tx runs keys where
  tx := rely.tx.trans inTx.tx
  runs := fun runId => (rely.runLock runId).trans (inTx.runs runId)
  keys := fun key => (rely.keyLock key).trans (inTx.keys key)

theorem World.InTx.ownDb (inTx : world.InTx t tx runs keys) :
    world.ownDb t = world.view.db.applyAll tx.writes := by
  rw [World.ownDb, inTx.tx]

@[simp] theorem World.Idle.ownDb (idle : world.Idle t) : world.ownDb t = world.view.db :=
  InTx.ownDb idle

/-- Who holds neither a claim nor a lock holds nothing. -/
theorem World.Idle.not_holdsAny (idle : world.Idle t) (locked : world.Locked)
    (unclaimed : ∀ key, world.view.claimConnection t ≠ .held key) : ¬ world.HoldsAny t := by
  rintro (⟨runId, held⟩ | ⟨key, held⟩ | ⟨key, held⟩)
  · simpa using (idle.runs runId).mp held
  · simpa using (idle.keys key).mp held
  · exact unclaimed key ((locked.advisory key t).mp held)

theorem World.HoldsContended.any (holds : world.HoldsContended t) : world.HoldsAny t := by
  rcases holds with ⟨runId, held, -⟩ | keys | claims
  · exact .inl ⟨runId, held⟩
  · exact .inr (.inl keys)
  · exact .inr (.inr claims)

/-- A lock that is not available is somebody else's. -/
theorem held_of_not_available {holder : Option Tid} (taken : ¬ available holder t = true) :
    ∃ u, u ≠ t ∧ holder = some u := by
  cases holder with
  | none => simp [available] at taken
  | some u => exact ⟨u, by simpa [available] using taken, rfl⟩

theorem World.InTx.write (inTx : world.InTx t tx runs keys) (write : Write) :
    (world.write t write).InTx t { tx with writes := tx.writes ++ [write] } runs keys where
  tx := by simp [World.write, inTx.tx]
  runs := inTx.runs
  keys := inTx.keys

theorem World.InTx.lockRun (inTx : world.InTx t tx runs keys) (runId : RunId) :
    (world.lockRun t runId).InTx t tx (runId :: runs) keys where
  tx := inTx.tx
  runs := by
    intro other
    by_cases same : other = runId
    · subst same
      simp [World.lockRun]
    · simpa [World.lockRun, Function.update_of_ne same, same] using inTx.runs other
  keys := inTx.keys

theorem World.InTx.lockKey (inTx : world.InTx t tx runs keys) (key : KeyId) :
    (world.lockKey t key).InTx t tx runs (key :: keys) where
  tx := inTx.tx
  runs := inTx.runs
  keys := by
    intro other
    by_cases same : other = key
    · subst same
      simp [World.lockKey]
    · simpa [World.lockKey, Function.update_of_ne same, same] using inTx.keys other

end InTx

section OnlyOwn

variable {world first second third : World} {t : Tid}

theorem World.OnlyOwn.refl (t : Tid) (world : World) : World.OnlyOwn t world world :=
  ⟨rfl, fun _ _ => rfl, fun _ _ _ => .rfl, fun _ _ _ => .rfl, Nat.le_refl _⟩

theorem World.OnlyOwn.trans (left : World.OnlyOwn t first second)
    (right : World.OnlyOwn t second third) : World.OnlyOwn t first third where
  view := right.view.trans left.view
  tx := fun u other => (right.tx u other).trans (left.tx u other)
  runLock := fun u other runId => (right.runLock u other runId).trans (left.runLock u other runId)
  keyLock := fun u other key => (right.keyLock u other key).trans (left.keyLock u other key)
  nextEventId := Nat.le_trans left.nextEventId right.nextEventId

theorem World.OnlyOwn.lockRun {runId : RunId}
    (free : available (world.runLock runId) t = true) :
    World.OnlyOwn t world (world.lockRun t runId) :=
  ⟨rfl, fun _ _ => rfl, fun _ other _ => update_lock_eq_some free other, fun _ _ _ => .rfl,
    Nat.le_refl _⟩

theorem World.OnlyOwn.lockKey {key : KeyId}
    (free : available (world.keyLock key) t = true) :
    World.OnlyOwn t world (world.lockKey t key) :=
  ⟨rfl, fun _ _ => rfl, fun _ _ _ => .rfl, fun _ other _ => update_lock_eq_some free other,
    Nat.le_refl _⟩

theorem World.OnlyOwn.setTx (world : World) (t : Tid) (tx : Tx) (nextEventId : Nat)
    (more : world.nextEventId ≤ nextEventId) :
    World.OnlyOwn t world
      { world with tx := Function.update world.tx t tx, nextEventId := nextEventId } :=
  ⟨rfl, fun _ other => Function.update_of_ne other _ _, fun _ _ _ => .rfl, fun _ _ _ => .rfl,
    more⟩

theorem World.OnlyOwn.write (world : World) (t : Tid) (write : Write) :
    World.OnlyOwn t world (world.write t write) :=
  World.OnlyOwn.setTx world t _ _ (Nat.le_refl _)

theorem World.OnlyOwn.release (world : World) (t : Tid) (tx : Tx) (keptRuns : RunId → Bool)
    (keptKeys : KeyId → Bool) :
    World.OnlyOwn t world
      { world with
        tx := Function.update world.tx t tx
        runLock := release world.runLock t keptRuns
        keyLock := release world.keyLock t keptKeys } :=
  ⟨rfl, fun _ other => Function.update_of_ne other _ _,
    fun _ other _ => release_eq_some other, fun _ other _ => release_eq_some other,
    Nat.le_refl _⟩

/-- Locks that are only added keep covering what they covered. -/
theorem World.Covers.mono {write : Write} (covers : first.Covers t write)
    (view : second.view = first.view)
    (runLock : ∀ runId, first.runLock runId = some t → second.runLock runId = some t)
    (keyLock : ∀ key, first.keyLock key = some t → second.keyLock key = some t)
    (nextEventId : first.nextEventId ≤ second.nextEventId) : second.Covers t write := by
  cases write with
  | insertRun row => exact ⟨runLock _ covers.1, view ▸ covers.2⟩
  | updateRun row => exact ⟨runLock _ covers.1, view ▸ covers.2⟩
  | insertKey row => exact ⟨keyLock _ covers.1, view ▸ covers.2⟩
  | insertEvent row =>
      exact ⟨fun genuine => runLock _ (covers.1 genuine),
        Nat.lt_of_lt_of_le covers.2 nextEventId⟩
  | insertDecision row => exact runLock _ covers

end OnlyOwn

/-! ## Statements inside a transaction -/

namespace Protocol

variable {protocol : Protocol} {t : Tid} {world : World} {ρ α : Type}

/-- `Safe` of a routine. -/
abbrev Safe (protocol : Protocol) (t : Tid) (routine : Routine α)
    (Post : Except Failure α → World → Prop) (world : World) : Prop :=
  protocol.discipline.Safe t routine Post world

/-- The rest of a routine is safe after a value; an exception is the result. -/
def Continues (protocol : Protocol) (t : Tid) (follow : ρ → Routine α)
    (Post : Except Failure α → World → Prop) (result : Except Failure ρ) (after : World) : Prop :=
  match result with
  | .ok value => protocol.Safe t (follow value) Post after
  | .error exception => protocol.discipline.Settled t Post (.error exception) after

section Execute

variable {statement : Statement ρ} {follow : ρ → Routine α}
  {Post : Except Failure α → World → Prop}

theorem safe_execute
    (safe : ∀ later, protocol.discipline.Rely t world later → protocol.discipline.Inv later →
      ((∃ input answer, protocol.Allowed t input ∧ statement t input later = some answer) ∨
        (protocol.live → later.Waits t)) ∧
      ∀ input result after, protocol.Allowed t input →
        statement t input later = some (result, after) →
          protocol.discipline.Guarantee t later after ∧
          protocol.Continues t follow Post result after) :
    protocol.Safe t (execute statement >>= follow) Post world := by
  refine Discipline.Safe.call_bind (Discipline.Safe.exec fun later relied inv => ?_)
  obtain ⟨ready, answers⟩ := safe later relied inv
  refine ⟨ready, fun input result after allowed answered => ?_⟩
  obtain ⟨guarantee, continues⟩ := answers input result after allowed answered
  refine ⟨guarantee, fun last reliedLast invLast => ?_⟩
  cases result with
  | ok value => exact Discipline.Safe.rely continues reliedLast
  | error exception =>
      exact fun final reliedFinal =>
        continues final (protocol.discipline.trans t reliedLast reliedFinal)

/-- The answers of a statement that changes only its own transaction; otherwise it
waits. -/
abbrev OwnAnswers (protocol : Protocol) (t : Tid) (follow : ρ → Routine α)
    (Post : Except Failure α → World → Prop) (later : World)
    (answers : Input → Option (Except Failure ρ × World)) : Prop :=
  ((∀ input, ∃ answer, answers input = some answer) ∨ (protocol.live → later.Waits t)) ∧
    ∀ input result after, protocol.Allowed t input → answers input = some (result, after) →
      World.OnlyOwn t later after ∧
      (∀ write ∈ (after.tx t).writes, after.Covers t write) ∧
      (∀ saved, (after.tx t).savepoint = some saved → saved.writes = []) ∧
      protocol.Continues t follow Post result after

theorem safe_own
    (safe : ∀ later, protocol.discipline.Rely t world later → protocol.discipline.Inv later →
      protocol.OwnAnswers t follow Post later fun input => statement t input later) :
    protocol.Safe t (execute statement >>= follow) Post world := by
  refine safe_execute fun later relied inv => ?_
  obtain ⟨ready, answers⟩ := safe later relied inv
  constructor
  · refine ready.imp_left fun enabled => ?_
    obtain ⟨input, allowed⟩ := protocol.input t
    obtain ⟨answer, answered⟩ := enabled input
    exact ⟨input, answer, allowed, answered⟩
  · intro input result after allowed answered
    obtain ⟨own, covers, saved, continues⟩ := answers input result after allowed answered
    refine ⟨guarantee_of (inv.1.onlyOwn own covers saved) own.rely ?_, continues⟩
    rw [own.view]
    exact .refl inv.2

section Answers

variable {later after : World} {answers : Input → Option (Except Failure ρ × World)}
  {result : Except Failure ρ}

theorem own_answers (answered : ∀ input, answers input = some (result, after))
    (own : World.OnlyOwn t later after)
    (covers : ∀ write ∈ (after.tx t).writes, after.Covers t write)
    (saved : ∀ saved, (after.tx t).savepoint = some saved → saved.writes = [])
    (continues : protocol.Continues t follow Post result after) :
    protocol.OwnAnswers t follow Post later answers := by
  refine ⟨.inl fun input => ⟨_, answered input⟩, fun input other last _ given => ?_⟩
  obtain ⟨rfl, rfl⟩ := Prod.mk.inj (Option.some.inj ((answered input).symm.trans given))
  exact ⟨own, covers, saved, continues⟩

/-- An answer that leaves everything as it was. -/
theorem own_unmoved (inv : protocol.discipline.Inv later)
    (answered : ∀ input, answers input = some (result, later))
    (continues : protocol.Continues t follow Post result later) :
    protocol.OwnAnswers t follow Post later answers :=
  own_answers answered (.refl t later) (inv.1.pending t) (inv.1.saved t) continues

end Answers

/-- A statement that only reads. -/
theorem safe_read {answer : Input → World → Except Failure ρ}
    (reads : ∀ input later, statement t input later = some (answer input later, later))
    (safe : ∀ later, protocol.discipline.Rely t world later → protocol.discipline.Inv later →
      ∀ input, protocol.Allowed t input →
        protocol.Continues t follow Post (answer input later) later) :
    protocol.Safe t (execute statement >>= follow) Post world := by
  refine safe_own fun later relied inv => ⟨.inl fun input => ⟨_, reads input later⟩, ?_⟩
  intro input result after allowed answered
  obtain ⟨rfl, rfl⟩ := Prod.mk.inj (Option.some.inj ((reads input later).symm.trans answered))
  exact ⟨.refl t later, inv.1.pending t, inv.1.saved t, safe later relied inv input allowed⟩

end Execute

section Transactions

variable {tx : Tx} {runs : List RunId} {keys : List KeyId}

/-- The locks and writes of `t` after one more covered write. -/
theorem covers_write {later : World} (inv : later.Locked) (inTx : later.InTx t tx runs keys)
    {next : World} {write : Write} (writes : (next.tx t).writes = tx.writes ++ [write])
    (view : next.view = later.view)
    (runLock : ∀ runId, later.runLock runId = some t → next.runLock runId = some t)
    (keyLock : ∀ key, later.keyLock key = some t → next.keyLock key = some t)
    (nextEventId : later.nextEventId ≤ next.nextEventId) (covers : next.Covers t write) :
    ∀ other ∈ (next.tx t).writes, next.Covers t other := by
  intro other member
  rw [writes, List.mem_append, List.mem_singleton] at member
  rcases member with old | rfl
  · exact (inv.pending t other (inTx.tx ▸ old)).mono view runLock keyLock nextEventId
  · exact covers

theorem lockRun_mono {later : World} {runId other : RunId}
    (held : later.runLock other = some t) : (later.lockRun t runId).runLock other = some t := by
  by_cases same : other = runId
  · subst same
    simp [World.lockRun]
  · simpa [World.lockRun, Function.update_of_ne same] using held

theorem lockKey_mono {later : World} {key other : KeyId}
    (held : later.keyLock other = some t) : (later.lockKey t key).keyLock other = some t := by
  by_cases same : other = key
  · subst same
    simp [World.lockKey]
  · simpa [World.lockKey, Function.update_of_ne same] using held

variable {Post : Except Failure α → World → Prop}

/-- `_insert_event`, for a run this transaction can see. -/
theorem safe_insertEvent {event : EventRow} {follow : Unit → Routine α}
    (inTx : world.InTx t tx runs keys) (held : event.genuine = true → event.runId ∈ runs)
    (present : ∀ later, protocol.discipline.Rely t world later →
      ((later.view.db.applyAll tx.writes).runs event.runId).isSome = true)
    (safe : ∀ later after, protocol.discipline.Rely t world later →
      protocol.discipline.Inv later →
      after.InTx t
        { tx with
          writes := tx.writes ++
            [.insertEvent (event.numbered later.nextEventId)] } runs keys →
      after.view = later.view → protocol.Safe t (follow ()) Post after) :
    protocol.Safe t (execute (Statement.insertEvent event) >>= follow) Post world := by
  refine safe_own fun later relied inv => ?_
  have inTxLater := inTx.rely relied.1
  have answer : ∀ input, Statement.insertEvent event t input later =
      some (.ok (),
        { later.write t (.insertEvent (event.numbered later.nextEventId)) with
          nextEventId := later.nextEventId + 1 }) := by
    intro input
    rw [Statement.insertEvent, inTxLater.ownDb, if_pos (present later relied)]
  have inTxAfter := inTxLater.write
    (.insertEvent (event.numbered later.nextEventId))
  refine own_answers answer (.setTx later t _ _ (Nat.le_succ _)) ?_ ?_ ?_
  · refine covers_write inv.1 inTxLater (congrArg Tx.writes inTxAfter.tx) rfl
      (fun _ held => held) (fun _ held => held) (Nat.le_succ _) ⟨fun genuine => ?_, ?_⟩
    · exact (inTxLater.runs _).mpr (held genuine)
    · exact Nat.lt_succ_self _
  · intro saved savepoint
    refine inv.1.saved t saved ?_
    simpa [World.write] using savepoint
  · exact safe later _ relied inv ⟨inTxAfter.tx, inTxAfter.runs, inTxAfter.keys⟩ rfl

/-- The compare-and-swap UPDATE. -/
theorem safe_updateRun {tenantId : String} {runId : RunId} {state : RunState} {version : Nat}
    {set : RunRow → RunRow} {follow : Option RunRow → Routine α}
    (inTx : world.InTx t tx runs keys) (same : ∀ row : RunRow, row.SameRun (set row))
    (committed : ∀ later, protocol.discipline.Rely t world later →
      protocol.discipline.Inv later → ∀ row,
      (later.view.db.applyAll tx.writes).run? tenantId runId = some row →
        row.runId = runId ∧ ∃ old, later.view.db.runs runId = some old ∧ old.SameRun row)
    (quiet : ∀ later, protocol.discipline.Rely t world later →
      protocol.discipline.Inv later → runId ∈ runs ∨ (protocol.live → ¬ later.HoldsContended t))
    (missed : ∀ later, protocol.discipline.Rely t world later →
      protocol.discipline.Inv later → later.InTx t tx runs keys →
      (∀ row, (later.view.db.applyAll tx.writes).run? tenantId runId = some row →
        ¬ (row.state = state ∧ row.stateVersion = version)) →
      protocol.Safe t (follow none) Post later)
    (refused : ∀ later, protocol.discipline.Rely t world later →
      protocol.discipline.Inv later → later.InTx t tx runs keys → ∀ row error,
      (later.view.db.applyAll tx.writes).run? tenantId runId = some row →
      checkAll (set row).checks = .error error →
      protocol.discipline.Settled t Post (.error (.database error)) later)
    (updated : ∀ later after, protocol.discipline.Rely t world later →
      protocol.discipline.Inv later → ∀ row,
      (later.view.db.applyAll tx.writes).run? tenantId runId = some row →
      row.state = state → row.stateVersion = version →
      checkAll (set row).checks = .ok () →
      after.InTx t { tx with writes := tx.writes ++ [.updateRun (set row)] }
        (runId :: runs) keys →
      after.view = later.view →
      protocol.Safe t (follow (some (set row))) Post after) :
    protocol.Safe t
      (execute (Statement.updateRun tenantId runId state version set) >>= follow) Post world := by
  refine safe_own fun later relied inv => ?_
  have inTxLater := inTx.rely relied.1
  simp only [Statement.updateRun, inTxLater.ownDb]
  cases found : (later.view.db.applyAll tx.writes).run? tenantId runId with
  | none =>
      exact own_unmoved inv (fun _ => rfl) (missed later relied inv inTxLater (by simp [found]))
  | some row =>
      by_cases matched : row.state = state ∧ row.stateVersion = version
      · simp only [matched, and_self, if_true]
        obtain ⟨rowId, old, oldFound, sameOld⟩ := committed later relied inv row found
        by_cases free : available (later.runLock runId) t = true
        · simp only [free, if_true]
          cases checked : checkAll (set row).checks with
          | error error =>
              exact own_unmoved inv (fun _ => rfl)
                (refused later relied inv inTxLater row error found checked)
          | ok done =>
              have inTxAfter := (inTxLater.lockRun runId).write (.updateRun (set row))
              refine own_answers (fun _ => rfl)
                ((World.OnlyOwn.lockRun free).trans (.write _ t _)) ?_ ?_ ?_
              · refine covers_write inv.1 inTxLater (congrArg Tx.writes inTxAfter.tx)
                  rfl (fun _ held => lockRun_mono held) (fun _ held => held) (Nat.le_refl _) ?_
                have id : (set row).runId = runId := (same row).runId.trans rowId
                refine ⟨?_, ⟨old, ?_, sameOld.trans (same row)⟩, checked⟩
                · simp [World.write, World.lockRun, id]
                · simpa [World.write, World.lockRun, id] using oldFound
              · intro saved savepoint
                refine inv.1.saved t saved ?_
                simpa [World.write, World.lockRun] using savepoint
              · exact updated later _ relied inv row found matched.1 matched.2 checked inTxAfter rfl
        · simp only [free]
          obtain ⟨u, other, held⟩ := held_of_not_available free
          refine ⟨.inr fun live => .inl ⟨?_, u, other, .inl ⟨runId, held, by simp [oldFound]⟩⟩,
            by simp⟩
          rcases quiet later relied inv with mine | quiet
          · have := (inTxLater.runs runId).mpr mine
            simp [this] at free
          · exact quiet live
      · simp only [matched, if_false]
        refine own_unmoved inv (fun _ => rfl)
          (missed later relied inv inTxLater fun other found' => ?_)
        obtain rfl : row = other := Option.some.inj (found.symm.trans found')
        exact matched

/-- A run read by this transaction. -/
theorem safe_selectRun {tenantId : String} {runId : RunId} {follow : Option RunRow → Routine α}
    (inTx : world.InTx t tx runs keys)
    (safe : ∀ later, protocol.discipline.Rely t world later →
      protocol.discipline.Inv later → later.InTx t tx runs keys →
      protocol.Safe t (follow ((later.view.db.applyAll tx.writes).run? tenantId runId))
        Post later) :
    protocol.Safe t (execute (Statement.selectRun tenantId runId) >>= follow) Post world := by
  refine safe_read (fun _ _ => rfl) fun later relied inv input _ => ?_
  have inTxLater := inTx.rely relied.1
  simpa only [Continues, inTxLater.ownDb] using safe later relied inv inTxLater

theorem safe_selectKey {key : KeyId} {follow : Option KeyRow → Routine α}
    (inTx : world.InTx t tx runs keys)
    (safe : ∀ later, protocol.discipline.Rely t world later →
      protocol.discipline.Inv later → later.InTx t tx runs keys →
      protocol.Safe t (follow ((later.view.db.applyAll tx.writes).keys key)) Post later) :
    protocol.Safe t (execute (Statement.selectKey key) >>= follow) Post world := by
  refine safe_read (fun _ _ => rfl) fun later relied inv input _ => ?_
  have inTxLater := inTx.rely relied.1
  simpa only [Continues, inTxLater.ownDb] using safe later relied inv inTxLater

theorem safe_selectDecision {tenantId : String} {runId : RunId}
    {follow : Option DecisionRow → Routine α} (inTx : world.InTx t tx runs keys)
    (safe : ∀ later, protocol.discipline.Rely t world later →
      protocol.discipline.Inv later → later.InTx t tx runs keys →
      protocol.Safe t (follow ((later.view.db.applyAll tx.writes).decisions.find?
        (fun decision => decision.runId == runId && decision.tenantId == tenantId))) Post later) :
    protocol.Safe t (execute (Statement.selectDecision tenantId runId) >>= follow) Post world := by
  refine safe_read (fun _ _ => rfl) fun later relied inv input _ => ?_
  have inTxLater := inTx.rely relied.1
  simpa only [Continues, inTxLater.ownDb] using safe later relied inv inTxLater

theorem safe_uuid4 {follow : RunId → Routine α}
    (safe : ∀ later, protocol.discipline.Rely t world later →
      protocol.discipline.Inv later → ∀ input, protocol.Allowed t input →
      protocol.Safe t (follow input.uuid) Post later) :
    protocol.Safe t (execute Statement.uuid4 >>= follow) Post world :=
  safe_read (fun _ _ => rfl) fun later relied inv input allowed =>
    safe later relied inv input allowed

/-- `SELECT ... FOR UPDATE` of a run. -/
theorem safe_selectRunForUpdate {tenantId : String} {runId : RunId}
    {follow : Option RunRow → Routine α} (idle : world.Idle t)
    (quiet : protocol.live → ∀ later, protocol.discipline.Rely t world later →
      protocol.discipline.Inv later → ¬ later.HoldsContended t)
    (absent : ∀ later, protocol.discipline.Rely t world later →
      protocol.discipline.Inv later → later.Idle t →
      later.view.db.run? tenantId runId = none → protocol.Safe t (follow none) Post later)
    (found : ∀ later after, protocol.discipline.Rely t world later →
      protocol.discipline.Inv later → ∀ row, later.view.db.run? tenantId runId = some row →
      after.InTx t Tx.idle [runId] [] → after.view = later.view →
      protocol.Safe t (follow (some row)) Post after) :
    protocol.Safe t (execute (Statement.selectRunForUpdate tenantId runId) >>= follow)
      Post world := by
  refine safe_own fun later relied inv => ?_
  have idleLater : later.Idle t := idle.rely relied.1
  simp only [Statement.selectRunForUpdate, idleLater.ownDb]
  cases row? : later.view.db.run? tenantId runId with
  | none =>
      exact own_unmoved inv (fun _ => rfl) (absent later relied inv idleLater row?)
  | some row =>
      by_cases free : available (later.runLock runId) t = true
      · simp only [free, if_true]
        have inTxAfter := idleLater.lockRun runId
        refine own_answers (fun _ => rfl) (.lockRun free) ?_ ?_
          (found later _ relied inv row row? inTxAfter rfl)
        · simp [inTxAfter.tx, Tx.idle]
        · simp [inTxAfter.tx, Tx.idle]
      · simp only [free]
        obtain ⟨u, other, held⟩ := held_of_not_available free
        have committed := (Db.run?_eq_some.mp row?).1
        exact ⟨.inr fun live => .inl ⟨quiet live later relied inv, u, other,
          .inl ⟨runId, held, by simp [committed]⟩⟩, by simp⟩

/-- `SELECT ... FOR UPDATE` of a key. -/
theorem safe_selectKeyForUpdate {key : KeyId} {follow : Option KeyRow → Routine α}
    (idle : world.Idle t)
    (quiet : protocol.live → ∀ later, protocol.discipline.Rely t world later →
      protocol.discipline.Inv later → ¬ later.HoldsContended t)
    (absent : ∀ later, protocol.discipline.Rely t world later →
      protocol.discipline.Inv later → later.Idle t → later.view.db.keys key = none →
      protocol.Safe t (follow none) Post later)
    (found : ∀ later after, protocol.discipline.Rely t world later →
      protocol.discipline.Inv later → ∀ row, later.view.db.keys key = some row →
      after.InTx t Tx.idle [] [key] → after.view = later.view →
      protocol.Safe t (follow (some row)) Post after) :
    protocol.Safe t (execute (Statement.selectKeyForUpdate key) >>= follow) Post world := by
  refine safe_own fun later relied inv => ?_
  have idleLater : later.Idle t := idle.rely relied.1
  simp only [Statement.selectKeyForUpdate, idleLater.ownDb]
  cases row? : later.view.db.keys key with
  | none =>
      exact own_unmoved inv (fun _ => rfl) (absent later relied inv idleLater row?)
  | some row =>
      by_cases free : available (later.keyLock key) t = true
      · simp only [free, if_true]
        have inTxAfter := idleLater.lockKey key
        refine own_answers (fun _ => rfl) (.lockKey free) ?_ ?_
          (found later _ relied inv row row? inTxAfter rfl)
        · simp [inTxAfter.tx, Tx.idle]
        · simp [inTxAfter.tx, Tx.idle]
      · simp only [free]
        obtain ⟨u, other, held⟩ := held_of_not_available free
        exact ⟨.inr fun live => .inl ⟨quiet live later relied inv, u, other,
          .inr (.inl ⟨key, held⟩)⟩, by simp⟩

/-- The INSERT of a run: the identifier may be taken, or about to be taken. -/
theorem safe_insertRun {row : RunRow} {follow : RunRow → Routine α}
    (inTx : world.InTx t tx [] []) (writes : tx.writes = [])
    (quiet : protocol.live → ∀ later, protocol.discipline.Rely t world later →
      protocol.discipline.Inv later → ¬ later.HoldsAny t)
    (refused : ∀ later error, protocol.discipline.Rely t world later →
      protocol.discipline.Inv later → later.InTx t tx [] [] →
      (checkAll row.checks = .error error ∨ (later.view.db.runs row.runId).isSome = true) →
      protocol.discipline.Settled t Post (.error (.database error)) later)
    (inserted : ∀ later after, protocol.discipline.Rely t world later →
      protocol.discipline.Inv later → checkAll row.checks = .ok () →
      later.view.db.runs row.runId = none →
      after.InTx t { tx with writes := [.insertRun row] } [row.runId] [] →
      after.view = later.view → protocol.Safe t (follow row) Post after) :
    protocol.Safe t (execute (Statement.insertRun row) >>= follow) Post world := by
  refine safe_own fun later relied inv => ?_
  have inTxLater := inTx.rely relied.1
  have own : later.ownDb t = later.view.db := by rw [inTxLater.ownDb, writes]; rfl
  simp only [Statement.insertRun, own]
  cases checked : checkAll row.checks with
  | error error =>
      exact own_unmoved inv (fun _ => rfl)
        (refused later error relied inv inTxLater (.inl checked))
  | ok done =>
      cases taken : later.view.db.runs row.runId with
      | some existing =>
          simp only [Option.isSome_some, if_true]
          exact own_unmoved inv (fun _ => rfl)
            (refused later _ relied inv inTxLater (.inr (by simp [taken])))
      | none =>
          simp only [Option.isSome_none, Bool.false_eq_true, if_false]
          by_cases free : available (later.runLock row.runId) t = true
          · simp only [free, if_true]
            have inTxAfter := (inTxLater.lockRun row.runId).write (.insertRun row)
            refine own_answers (fun _ => rfl)
              ((World.OnlyOwn.lockRun free).trans (.write _ t _)) ?_ ?_ ?_
            · refine covers_write inv.1 inTxLater (congrArg Tx.writes inTxAfter.tx) rfl
                (fun _ held => lockRun_mono held) (fun _ held => held) (Nat.le_refl _) ?_
              exact ⟨by simp [World.write, World.lockRun], taken, checked⟩
            · intro saved savepoint
              refine inv.1.saved t saved ?_
              simpa [World.write, World.lockRun] using savepoint
            · refine inserted later _ relied inv checked taken ?_ rfl
              simpa [writes] using inTxAfter
          · simp only [free]
            obtain ⟨u, other, held⟩ := held_of_not_available free
            exact ⟨.inr fun live => .inr ⟨quiet live later relied inv, u, other,
              .inl ⟨row.runId, held⟩⟩, by simp⟩

/-- `ON CONFLICT DO NOTHING`, after the INSERT of the key's run. -/
theorem safe_insertKey {row : KeyRow} {run : RunRow} {follow : Option RunId → Routine α}
    (inTx : world.InTx t tx [run.runId] []) (writes : tx.writes = [.insertRun run])
    (runId : row.runId = run.runId)
    (unclaimed : protocol.live → ∀ later, protocol.discipline.Rely t world later →
      ∀ key, later.view.claimConnection t ≠ .held key)
    (refused : ∀ later error, protocol.discipline.Rely t world later →
      protocol.discipline.Inv later → later.InTx t tx [run.runId] [] →
      checkAll row.checks = .error error →
      protocol.discipline.Settled t Post (.error (.database error)) later)
    (lost : ∀ later, protocol.discipline.Rely t world later →
      protocol.discipline.Inv later → later.InTx t tx [run.runId] [] → ∀ existing,
      later.view.db.keys row.id = some existing → protocol.Safe t (follow none) Post later)
    (inserted : ∀ later after, protocol.discipline.Rely t world later →
      protocol.discipline.Inv later → checkAll row.checks = .ok () →
      later.view.db.keys row.id = none →
      after.InTx t { tx with writes := [.insertRun run, .insertKey row] } [run.runId] [row.id] →
      after.view = later.view → protocol.Safe t (follow (some row.runId)) Post after) :
    protocol.Safe t (execute (Statement.insertKey row) >>= follow) Post world := by
  refine safe_own fun later relied inv => ?_
  have inTxLater := inTx.rely relied.1
  have keysOwn : (later.ownDb t).keys row.id = later.view.db.keys row.id := by
    rw [inTxLater.ownDb, writes]; rfl
  have present : ((later.ownDb t).runs row.runId).isSome = true := by
    rw [inTxLater.ownDb, writes, runId]
    simp [Db.applyAll, Db.apply]
  simp only [Statement.insertKey, keysOwn, present, if_true]
  cases checked : checkAll row.checks with
  | error error =>
      exact own_unmoved inv (fun _ => rfl) (refused later error relied inv inTxLater checked)
  | ok done =>
      cases taken : later.view.db.keys row.id with
      | some existing =>
          simp only [Option.isSome_some, if_true]
          exact own_unmoved inv (fun _ => rfl) (lost later relied inv inTxLater existing taken)
      | none =>
          simp only [Option.isSome_none, Bool.false_eq_true, if_false]
          by_cases free : available (later.keyLock row.id) t = true
          · simp only [free, if_true]
            have inTxAfter := (inTxLater.lockKey row.id).write (.insertKey row)
            refine own_answers (fun _ => rfl)
              ((World.OnlyOwn.lockKey free).trans (.write _ t _)) ?_ ?_ ?_
            · refine covers_write inv.1 inTxLater (congrArg Tx.writes inTxAfter.tx) rfl
                (fun _ held => held) (fun _ held => lockKey_mono held) (Nat.le_refl _) ?_
              exact ⟨by simp [World.write, World.lockKey], taken⟩
            · intro saved savepoint
              refine inv.1.saved t saved ?_
              simpa [World.write, World.lockKey] using savepoint
            · refine inserted later _ relied inv checked taken ?_ rfl
              simpa [writes] using inTxAfter
          · simp only [free]
            obtain ⟨u, other, held⟩ := held_of_not_available free
            refine ⟨.inr fun live => .inl ⟨?_, u, other, .inr (.inl ⟨row.id, held⟩)⟩, by simp⟩
            have fresh : later.view.db.runs run.runId = none := by
              have covers := inv.1.pending t (.insertRun run) (by simp [inTxLater.tx, writes])
              exact covers.2.1
            rintro (⟨other, held, committed⟩ | ⟨key, held⟩ | ⟨key, held⟩)
            · have same := (inTxLater.runs other).mp held
              rw [List.mem_singleton] at same
              subst same
              simp [fresh] at committed
            · simpa using (inTxLater.keys key).mp held
            · exact unclaimed live later relied key ((inv.1.advisory key t).mp held)

/-- The INSERT of a decision under the row lock of its run. -/
theorem safe_insertDecision {row : DecisionRow} {follow : Unit → Routine α}
    (inTx : world.InTx t Tx.idle [row.runId] [])
    (present : ∀ later, protocol.discipline.Rely t world later →
      (later.view.db.runs row.runId).isSome = true)
    (refused : ∀ later error, protocol.discipline.Rely t world later →
      protocol.discipline.Inv later → later.InTx t Tx.idle [row.runId] [] →
      (checkAll row.checks = .error error ∨ later.view.db.decisionsOf row.runId ≠ []) →
      protocol.discipline.Settled t Post (.error (.database error)) later)
    (inserted : ∀ later after, protocol.discipline.Rely t world later →
      protocol.discipline.Inv later → checkAll row.checks = .ok () →
      later.view.db.decisionsOf row.runId = [] →
      after.InTx t ⟨[.insertDecision row], none⟩ [row.runId, row.runId] [] →
      after.view = later.view → protocol.Safe t (follow ()) Post after) :
    protocol.Safe t (execute (Statement.insertDecision row) >>= follow) Post world := by
  refine safe_own fun later relied inv => ?_
  have inTxLater := inTx.rely relied.1
  have own : later.ownDb t = later.view.db := inTxLater.ownDb
  have mine : later.runLock row.runId = some t := (inTxLater.runs _).mpr (by simp)
  have free : available (later.runLock row.runId) t = true := by simp [mine]
  simp only [Statement.insertDecision, own, free, present later relied, if_true]
  cases checked : checkAll row.checks with
  | error error =>
      exact own_unmoved inv (fun _ => rfl)
        (refused later error relied inv inTxLater (.inl checked))
  | ok done =>
      by_cases none_yet : later.view.db.decisionsOf row.runId = []
      · simp only [none_yet, List.isEmpty_nil, if_true]
        have inTxAfter := (inTxLater.lockRun row.runId).write (.insertDecision row)
        refine own_answers (fun _ => rfl)
          ((World.OnlyOwn.lockRun free).trans (.write _ t _)) ?_ ?_ ?_
        · refine covers_write inv.1 inTxLater (congrArg Tx.writes inTxAfter.tx) rfl
            (fun _ held => lockRun_mono held) (fun _ held => held) (Nat.le_refl _) ?_
          simp [World.Covers, World.write, World.lockRun]
        · simp [inTxAfter.tx, Tx.idle]
        · exact inserted later _ relied inv checked none_yet inTxAfter rfl
      · have nonempty : (later.view.db.decisionsOf row.runId).isEmpty = false := by
          simpa using none_yet
        simp only [nonempty, Bool.false_eq_true, if_false]
        exact own_unmoved inv (fun _ => rfl) (refused later _ relied inv inTxLater (.inr none_yet))

/-! ## The end of a transaction -/

theorem safe_commit {follow : Unit → Routine α} (inTx : world.InTx t tx runs keys)
    (safe : ∀ later after, protocol.discipline.Rely t world later →
      protocol.discipline.Inv later →
      protocol.Guarantee t later.view (later.view.commit t tx.writes) ∧
      (after.Idle t → after.view = later.view.commit t tx.writes →
        protocol.Safe t (follow ()) Post after)) :
    protocol.Safe t (execute Statement.commit >>= follow) Post world := by
  refine safe_execute fun later relied inv => ?_
  have inTxLater := inTx.rely relied.1
  obtain ⟨input, allowed⟩ := protocol.input t
  refine ⟨.inl ⟨input, _, allowed, rfl⟩, fun input result after _ answered => ?_⟩
  obtain ⟨rfl, rfl⟩ := Prod.mk.inj (Option.some.inj answered)
  simp only [inTxLater.tx]
  obtain ⟨guarantee, rest⟩ := safe later
    { view := later.view.commit t tx.writes
      tx := Function.update later.tx t Tx.idle
      runLock := release later.runLock t (fun _ => false)
      keyLock := release later.keyLock t (fun _ => false)
      nextEventId := later.nextEventId } relied inv
  have view : later.view.commit t tx.writes = later.view.commit t (later.tx t).writes := by
    rw [inTxLater.tx]
  have released :=
    World.OnlyOwn.release later t Tx.idle (fun _ => false) (fun _ => false)
  refine ⟨guarantee_of ?_ ?_ guarantee, rest ?_ rfl⟩
  · exact inv.1.commit view (by simp) released.tx released.runLock released.keyLock rfl
  · exact inv.1.commit_rely view released.tx released.runLock released.keyLock rfl
  · exact ⟨by simp, by simp [release_all_ne], by simp [release_all_ne]⟩

theorem safe_rollback {follow : Unit → Routine α}
    (safe : ∀ later after, protocol.discipline.Rely t world later →
      protocol.discipline.Inv later → after.Idle t → after.view = later.view →
        protocol.Safe t (follow ()) Post after) :
    protocol.Safe t (execute Statement.rollback >>= follow) Post world := by
  refine safe_own fun later relied inv => own_answers (fun _ => rfl)
    (.release later t Tx.idle _ _) (by simp [Statement.rolledBack, Tx.idle])
    (by simp [Statement.rolledBack, Tx.idle]) (safe later _ relied inv ?_ rfl)
  exact ⟨by simp [Statement.rolledBack], by simp [Statement.rolledBack, release_all_ne],
    by simp [Statement.rolledBack, release_all_ne]⟩

/-- What the body of a transaction owes: its end is safe. -/
def Ends (protocol : Protocol) (t : Tid) (Post : Except Failure ρ → World → Prop)
    (result : Except Failure ρ) (last : World) : Prop :=
  match result with
  | .ok value =>
      protocol.Safe t (execute Statement.commit >>= fun _ => pure value) Post last
  | .error exception =>
      protocol.Safe t (execute Statement.rollback >>= fun _ => raise exception) Post last

theorem Ends.rely {Post : Except Failure ρ → World → Prop} {result : Except Failure ρ}
    {later : World} (ends : protocol.Ends t Post result world)
    (relied : protocol.discipline.Rely t world later) : protocol.Ends t Post result later := by
  cases result with
  | ok value => exact Discipline.Safe.rely ends relied
  | error exception => exact Discipline.Safe.rely ends relied

theorem safe_transaction {body : Routine α}
    (safe : protocol.Safe t body (protocol.Ends t Post) world) :
    protocol.Safe t (transaction body) Post world := by
  refine Discipline.Safe.attempt_bind (Discipline.Safe.mono (fun result last _ ends => ?_) safe)
  cases result with
  | ok value => exact ends
  | error exception => exact ends

section Ends

variable {Post : Except Failure ρ → World → Prop}

theorem safe_pure_ends {value : ρ} (ends : protocol.Ends t Post (.ok value) world) :
    protocol.Safe t (pure value) (protocol.Ends t Post) world :=
  fun _ relied _ => ends.rely relied

theorem safe_raise_ends {exception : Failure}
    (ends : protocol.Ends t Post (.error exception) world) :
    protocol.Safe t (raise exception) (protocol.Ends t Post) world :=
  fun _ relied _ => ends.rely relied

theorem settled_ends {result : Except Failure ρ} (ends : protocol.Ends t Post result world) :
    protocol.discipline.Settled t (protocol.Ends t Post) result world :=
  fun _ relied _ => ends.rely relied

theorem ends_ok {value : ρ} (inTx : world.InTx t tx runs keys)
    (settled : ∀ later after, protocol.discipline.Rely t world later →
      protocol.discipline.Inv later →
      protocol.Guarantee t later.view (later.view.commit t tx.writes) ∧
      (after.Idle t → after.view = later.view.commit t tx.writes →
        protocol.discipline.Settled t Post (.ok value) after)) :
    protocol.Ends t Post (.ok value) world :=
  safe_commit inTx settled

theorem ends_error {exception : Failure}
    (settled : ∀ later after, protocol.discipline.Rely t world later →
      protocol.discipline.Inv later → after.Idle t → after.view = later.view →
      protocol.discipline.Settled t Post (.error exception) after) :
    protocol.Ends t Post (.error exception) world :=
  safe_rollback settled

/-- What the body of a nested transaction owes. -/
def NestedEnds (protocol : Protocol) (t : Tid) (Post : Except Failure ρ → World → Prop)
    (result : Except Failure ρ) (last : World) : Prop :=
  match result with
  | .ok value =>
      protocol.Safe t (execute Statement.releaseSavepoint >>= fun _ => pure value) Post last
  | .error exception =>
      protocol.Safe t (execute Statement.rollbackToSavepoint >>= fun _ => raise exception)
        Post last

/-- A savepoint taken before the first write and lock. -/
structure Savepoint.Empty (saved : Savepoint) : Prop where
  writes : saved.writes = []
  runLocks : ∀ runId, saved.runLocks runId = false
  keyLocks : ∀ key, saved.keyLocks key = false

theorem safe_nestedTransaction {body : Routine ρ} (idle : world.Idle t)
    (safe : ∀ later after saved, protocol.discipline.Rely t world later →
      protocol.discipline.Inv later → Savepoint.Empty saved →
      after.InTx t ⟨[], some saved⟩ [] [] → after.view = later.view →
      protocol.Safe t body (protocol.NestedEnds t Post) after) :
    protocol.Safe t (nestedTransaction body) Post world := by
  refine safe_own fun later relied inv => ?_
  have idleLater : later.Idle t := idle.rely relied.1
  refine own_answers (fun _ => rfl) (.setTx later t _ _ (Nat.le_refl _))
    (by simp [idleLater.tx, Tx.idle]) (by simp [idleLater.tx, Tx.idle]) ?_
  let saved : Savepoint := ⟨[], fun runId => later.runLock runId == some t,
    fun key => later.keyLock key == some t⟩
  have empty : Savepoint.Empty saved :=
    ⟨rfl, fun runId => by simpa [saved] using (idleLater.runs runId).not.mpr (by simp),
      fun key => by simpa [saved] using (idleLater.keys key).not.mpr (by simp)⟩
  have begun := safe later
    { later with tx := Function.update later.tx t ⟨[], some saved⟩ } saved relied inv empty
    ⟨by simp, idleLater.runs, idleLater.keys⟩ rfl
  simp only [idleLater.tx, Tx.idle]
  refine Discipline.Safe.attempt_bind (Discipline.Safe.mono (fun result last _ ends => ?_) begun)
  cases result with
  | ok value => exact ends
  | error exception => exact ends

theorem safe_nested_pure {value : ρ} {writes : List Write} {saved : Savepoint}
    (inTx : world.InTx t ⟨writes, some saved⟩ runs keys)
    (safe : ∀ later after, protocol.discipline.Rely t world later →
      protocol.discipline.Inv later → after.InTx t ⟨writes, none⟩ runs keys →
      after.view = later.view → protocol.Safe t (pure value) Post after) :
    protocol.Safe t (pure value) (protocol.NestedEnds t Post) world := by
  intro last relied inv
  refine safe_own fun later reliedLater invLater => ?_
  have relied := protocol.discipline.trans t relied reliedLater
  have inTxLater := inTx.rely relied.1
  refine own_answers (fun _ => rfl) (.setTx later t _ _ (Nat.le_refl _)) ?_ (by simp) ?_
  · intro write member
    refine (invLater.1.pending t write ?_).mono rfl (fun _ held => held) (fun _ held => held)
      (Nat.le_refl _)
    simpa using member
  · exact safe later _ relied invLater
      ⟨by simp [inTxLater.tx], inTxLater.runs, inTxLater.keys⟩ rfl

theorem nestedEnds_error {exception : Failure} {writes : List Write} {saved : Savepoint}
    (inTx : world.InTx t ⟨writes, some saved⟩ runs keys) (empty : Savepoint.Empty saved)
    (settled : ∀ later after, protocol.discipline.Rely t world later →
      protocol.discipline.Inv later → after.Idle t → after.view = later.view →
      protocol.discipline.Settled t Post (.error exception) after) :
    protocol.NestedEnds t Post (.error exception) world := by
  refine safe_own fun later relied inv => ?_
  have inTxLater := inTx.rely relied.1
  simp only [Statement.rollbackToSavepoint, inTxLater.tx]
  have noRuns : saved.runLocks = fun _ => false := funext empty.runLocks
  have noKeys : saved.keyLocks = fun _ => false := funext empty.keyLocks
  refine own_answers (fun _ => rfl) (.release later t _ _ _) (by simp [empty.writes]) (by simp)
    (settled later _ relied inv ?_ rfl)
  exact ⟨by simp [empty.writes, Tx.idle], by simp [noRuns, release_all_ne],
    by simp [noKeys, release_all_ne]⟩

theorem NestedEnds.rely {result : Except Failure ρ} {later : World}
    (ends : protocol.NestedEnds t Post result world)
    (relied : protocol.discipline.Rely t world later) :
    protocol.NestedEnds t Post result later := by
  cases result with
  | ok value => exact Discipline.Safe.rely ends relied
  | error exception => exact Discipline.Safe.rely ends relied

theorem settled_nestedEnds {result : Except Failure ρ}
    (ends : protocol.NestedEnds t Post result world) :
    protocol.discipline.Settled t (protocol.NestedEnds t Post) result world :=
  fun _ relied _ => ends.rely relied

end Ends

end Transactions

end Protocol

end StockoutOps.Investigation
