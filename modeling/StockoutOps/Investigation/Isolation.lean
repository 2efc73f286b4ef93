import StockoutOps.Investigation.Server

/-!
Contract: what a call can rely on between two of its statements.

Owns: the lock discipline of the open transactions (`World.Locked`), what the
other calls leave untouched (`World.Rely`), when a call may wait
(`World.Waits`), and for every statement that it keeps all of this.

Does not own: what a particular group of calls keeps true of the visible
state; that is a `Protocol`, a parameter here.
-/

namespace StockoutOps.Investigation

open StockoutOps.Sql StockoutOps.Foundation.Interleaving

/-! ## The lock discipline -/

/-- A pending write is covered by a lock of its transaction and fits the
committed rows. -/
def World.Covers (world : World) (t : Tid) : Write → Prop
  | .insertRun row => world.runLock row.runId = some t ∧
      world.view.db.runs row.runId = none ∧ checkAll row.checks = .ok ()
  | .updateRun row => world.runLock row.runId = some t ∧
      (∃ old, world.view.db.runs row.runId = some old ∧ old.SameRun row) ∧
      checkAll row.checks = .ok ()
  | .insertKey row => world.keyLock row.id = some t ∧ world.view.db.keys row.id = none
  | .insertEvent row => (row.genuine = true → world.runLock row.runId = some t) ∧
      row.eventId < world.nextEventId
  | .insertDecision row => world.runLock row.runId = some t

structure World.Locked (world : World) : Prop where
  pending : ∀ t, ∀ write ∈ (world.tx t).writes, world.Covers t write
  saved : ∀ t saved, (world.tx t).savepoint = some saved → saved.writes = []
  keyed : world.view.db.Keyed
  events : ∀ event ∈ world.view.db.events, event.eventId < world.nextEventId
  advisory : ∀ key t, world.view.advisory key = some t ↔
    world.view.claimConnection t = .held key

/-! ## What the others leave untouched -/

/-- The transactions `t` has committed. -/
def View.commitsOf (view : View) (t : Tid) : List (List Write) :=
  (view.commitLog.filter (fun entry => entry.1 == t)).map Prod.snd

structure View.Later (t : Tid) (before after : View) : Prop where
  db : before.db.Evolves after.db
  commits : after.commitsOf t = before.commitsOf t
  claim : after.claimConnection t = before.claimConnection t ∨ after.claimConnection t = .lost

theorem View.Later.refl (t : Tid) (view : View) : view.Later t view :=
  ⟨.refl view.db, rfl, .inl rfl⟩

theorem View.Later.trans {t : Tid} {first second third : View} (left : first.Later t second)
    (right : second.Later t third) : first.Later t third where
  db := left.db.trans right.db
  commits := right.commits.trans left.commits
  claim := by
    rcases right.claim with same | lost
    · rw [same]
      exact left.claim
    · exact .inr lost

structure World.Rely (t : Tid) (before after : World) : Prop where
  view : before.view.Later t after.view
  tx : after.tx t = before.tx t
  runLock : ∀ runId, after.runLock runId = some t ↔ before.runLock runId = some t
  keyLock : ∀ key, after.keyLock key = some t ↔ before.keyLock key = some t
  run : ∀ runId, before.runLock runId = some t →
    after.view.db.runs runId = before.view.db.runs runId ∧
    after.view.db.transitionsOf runId = before.view.db.transitionsOf runId ∧
    after.view.db.decisionsOf runId = before.view.db.decisionsOf runId
  key : ∀ key, before.keyLock key = some t →
    after.view.db.keys key = before.view.db.keys key
  nextEventId : before.nextEventId ≤ after.nextEventId

theorem World.Rely.refl (t : Tid) (world : World) : world.Rely t world where
  view := .refl t world.view
  tx := rfl
  runLock := fun _ => .rfl
  keyLock := fun _ => .rfl
  run := fun _ _ => ⟨rfl, rfl, rfl⟩
  key := fun _ _ => rfl
  nextEventId := Nat.le_refl _

theorem World.Rely.trans {t : Tid} {first second third : World} (left : first.Rely t second)
    (right : second.Rely t third) : first.Rely t third where
  view := left.view.trans right.view
  tx := right.tx.trans left.tx
  runLock := fun runId => (right.runLock runId).trans (left.runLock runId)
  keyLock := fun key => (right.keyLock key).trans (left.keyLock key)
  run := by
    intro runId locked
    obtain ⟨run, transitions, decisions⟩ := left.run runId locked
    obtain ⟨run', transitions', decisions'⟩ := right.run runId ((left.runLock runId).mpr locked)
    exact ⟨run'.trans run, transitions'.trans transitions, decisions'.trans decisions⟩
  key := fun key locked =>
    (right.key key ((left.keyLock key).mpr locked)).trans (left.key key locked)
  nextEventId := Nat.le_trans left.nextEventId right.nextEventId

/-! ## Waiting -/

/-- `t` holds a lock that somebody else can wait for while it goes on: on a
committed run, on a key, or an advisory lock. -/
def World.HoldsContended (world : World) (t : Tid) : Prop :=
  (∃ runId, world.runLock runId = some t ∧ (world.view.db.runs runId).isSome = true) ∨
    (∃ key, world.keyLock key = some t) ∨ ∃ key, world.view.advisory key = some t

def World.HoldsAny (world : World) (t : Tid) : Prop :=
  (∃ runId, world.runLock runId = some t) ∨ (∃ key, world.keyLock key = some t) ∨
    ∃ key, world.view.advisory key = some t

/-- Who may wait, and for whom: nobody waits with a contended lock in hand, and
only who holds nothing waits for a run that is not committed. -/
def World.Waits (world : World) (t : Tid) : Prop :=
  (¬ world.HoldsContended t ∧ ∃ u, u ≠ t ∧ world.HoldsContended u) ∨
    (¬ world.HoldsAny t ∧ ∃ u, u ≠ t ∧ world.HoldsAny u)

/-! ## Protocols -/

/-- What a group of calls keeps true of the visible state, what each of them
relies on, which inputs it may read, and whether waiting is accounted for. -/
structure Protocol where
  Inv : View → Prop
  Rely : Tid → View → View → Prop
  Allowed : Tid → Input → Prop
  live : Prop
  input : ∀ t, ∃ input, Allowed t input
  refl : ∀ t view, Rely t view view
  trans : ∀ t {first second third}, Rely t first second → Rely t second third →
    Rely t first third

/-- Callers that may read anything can read something. -/
theorem exists_input (_ : Tid) : ∃ _ : Input, True :=
  ⟨⟨0, 0, fun _ => .error .assertionError, fun _ => .error .assertionError⟩, trivial⟩

namespace Protocol

def discipline (protocol : Protocol) : Discipline Tid Input World where
  Inv := fun world => world.Locked ∧ protocol.Inv world.view
  Rely := fun t before after => before.Rely t after ∧ protocol.Rely t before.view after.view
  Allowed := protocol.Allowed
  Waits := fun t world => protocol.live → world.Waits t
  refl := fun t world => ⟨.refl t world, protocol.refl t world.view⟩
  trans := fun t _ _ _ left right =>
    ⟨left.1.trans right.1, protocol.trans t left.2 right.2⟩

/-- What a call owes the others when it changes the visible state. -/
structure Guarantee (protocol : Protocol) (t : Tid) (before after : View) : Prop where
  inv : protocol.Inv after
  rely : ∀ u, u ≠ t → protocol.Rely u before after

theorem Guarantee.refl {protocol : Protocol} {t : Tid} {view : View}
    (inv : protocol.Inv view) : protocol.Guarantee t view view :=
  ⟨inv, fun u _ => protocol.refl u view⟩

variable {protocol : Protocol} {t : Tid} {before after : World}

/-- The obligations of a statement, split into the locks and the protocol. -/
theorem guarantee_of (locked : after.Locked)
    (rely : ∀ u, u ≠ t → before.Rely u after)
    (guarantee : protocol.Guarantee t before.view after.view) :
    protocol.discipline.Guarantee t before after :=
  ⟨⟨locked, guarantee.inv⟩, fun u other => ⟨rely u other, guarantee.rely u other⟩⟩

end Protocol

/-! ## Locks and pending writes -/

@[simp] theorem available_eq_true {holder : Option Tid} {t : Tid} :
    available holder t = true ↔ holder = none ∨ holder = some t := by
  simp [available]

theorem release_eq_some {κ : Type} {locks : κ → Option Tid} {t u : Tid} {kept : κ → Bool}
    {key : κ} (other : u ≠ t) : release locks t kept key = some u ↔ locks key = some u := by
  unfold release
  split
  · rename_i freed
    simp [freed.1, Ne.symm other]
  · rfl

theorem release_all_ne {κ : Type} {locks : κ → Option Tid} {t : Tid} {key : κ} :
    release locks t (fun _ => false) key ≠ some t := by
  unfold release
  split <;> simp_all

/-- Taking a lock that nobody else holds takes it from nobody. -/
theorem update_lock_eq_some {κ : Type} [DecidableEq κ] {locks : κ → Option Tid} {t u : Tid}
    {taken key : κ} (free : available (locks taken) t = true) (other : u ≠ t) :
    Function.update locks taken (some t) key = some u ↔ locks key = some u := by
  by_cases same : key = taken
  · subst same
    rw [available_eq_true] at free
    rcases free with free | free <;> simp [free, Ne.symm other]
  · rw [Function.update_of_ne same]

section Quiet

variable {before after : World} {t : Tid}

/-- Statements that change only the open transaction of their call. -/
structure World.OnlyOwn (t : Tid) (before after : World) : Prop where
  view : after.view = before.view
  tx : ∀ u, u ≠ t → after.tx u = before.tx u
  runLock : ∀ u, u ≠ t → ∀ runId, after.runLock runId = some u ↔ before.runLock runId = some u
  keyLock : ∀ u, u ≠ t → ∀ key, after.keyLock key = some u ↔ before.keyLock key = some u
  nextEventId : before.nextEventId ≤ after.nextEventId

theorem World.OnlyOwn.rely (own : World.OnlyOwn t before after) (u : Tid) (other : u ≠ t) :
    before.Rely u after where
  view := by
    rw [own.view]
    exact .refl u before.view
  tx := own.tx u other
  runLock := own.runLock u other
  keyLock := own.keyLock u other
  run := by simp [own.view]
  key := by simp [own.view]
  nextEventId := own.nextEventId

theorem World.Covers.onlyOwn (own : World.OnlyOwn t before after) {u : Tid} (other : u ≠ t)
    {write : Write} (covers : before.Covers u write) : after.Covers u write := by
  have lower := own.nextEventId
  cases write with
  | insertRun row => exact ⟨(own.runLock u other _).mpr covers.1, own.view ▸ covers.2⟩
  | updateRun row => exact ⟨(own.runLock u other _).mpr covers.1, own.view ▸ covers.2⟩
  | insertKey row => exact ⟨(own.keyLock u other _).mpr covers.1, own.view ▸ covers.2⟩
  | insertEvent row =>
      exact ⟨fun genuine => (own.runLock u other _).mpr (covers.1 genuine),
        Nat.lt_of_lt_of_le covers.2 lower⟩
  | insertDecision row => exact (own.runLock u other _).mpr covers

/-- The discipline is kept when the call's own transaction keeps it. -/
theorem World.Locked.onlyOwn (locked : before.Locked) (own : World.OnlyOwn t before after)
    (pending : ∀ write ∈ (after.tx t).writes, after.Covers t write)
    (saved : ∀ saved, (after.tx t).savepoint = some saved → saved.writes = []) :
    after.Locked where
  pending := by
    intro u write member
    by_cases same : u = t
    · subst same
      exact pending write member
    · rw [own.tx u same] at member
      exact World.Covers.onlyOwn own same (locked.pending u write member)
  saved := by
    intro u
    by_cases same : u = t
    · subst same
      exact saved
    · rw [own.tx u same]
      exact locked.saved u
  keyed := by
    rw [own.view]
    exact locked.keyed
  events := by
    intro event member
    rw [own.view] at member
    exact Nat.lt_of_lt_of_le (locked.events event member) own.nextEventId
  advisory := by
    rw [own.view]
    exact locked.advisory

end Quiet

/-! ## Commit -/

section Commit

variable {db : Db} {writes : List Write}

/-- What a covered write looks like from the rows committed before it. -/
def Write.Fits (db : Db) : Write → Prop
  | .insertRun row => db.runs row.runId = none ∧ checkAll row.checks = .ok ()
  | .updateRun row => (∃ old, db.runs row.runId = some old ∧ old.SameRun row) ∧
      checkAll row.checks = .ok ()
  | .insertKey row => db.keys row.id = none
  | .insertEvent _ => True
  | .insertDecision _ => True

theorem Db.Evolves.apply {base : Db} (evolves : base.Evolves db) {write : Write}
    (fits : write.Fits base) : base.Evolves (db.apply write) := by
  cases write with
  | insertRun row =>
      refine { evolves with runs := fun runId old found => ?_ }
      have different : runId ≠ row.runId := by
        rintro rfl
        simp [Write.Fits, found] at fits
      obtain ⟨new, found', same⟩ := evolves.runs runId old found
      exact ⟨new, by simpa [Db.apply, Function.update_of_ne different] using found', same⟩
  | updateRun row =>
      refine { evolves with runs := fun runId old found => ?_ }
      by_cases same : runId = row.runId
      · subst same
        obtain ⟨⟨old', found', sameRun⟩, -⟩ := fits
        obtain rfl : old = old' := Option.some.inj (found.symm.trans found')
        exact ⟨row, by simp [Db.apply], sameRun⟩
      · obtain ⟨new, found', sameRun⟩ := evolves.runs runId old found
        exact ⟨new, by simpa [Db.apply, Function.update_of_ne same] using found', sameRun⟩
  | insertKey row =>
      refine { evolves with keys := fun key old found => ?_ }
      have different : key ≠ row.id := by
        rintro rfl
        simp [Write.Fits, found] at fits
      simpa [Db.apply, Function.update_of_ne different] using evolves.keys key old found
  | insertEvent row =>
      obtain ⟨added, events⟩ := evolves.events
      exact { evolves with events := ⟨added ++ [row], by simp [Db.apply, events]⟩ }
  | insertDecision row =>
      obtain ⟨added, decisions⟩ := evolves.decisions
      exact { evolves with decisions := ⟨added ++ [row], by simp [Db.apply, decisions]⟩ }

/-- Committing writes that fit the committed rows is an evolution. -/
theorem Db.evolves_applyAll (fits : ∀ write ∈ writes, write.Fits db) :
    db.Evolves (db.applyAll writes) := by
  suffices general : ∀ current, db.Evolves current →
      db.Evolves (writes.foldl Db.apply current) from general db (.refl db)
  induction writes with
  | nil => exact fun current evolves => evolves
  | cons write rest inductionHypothesis =>
      intro current evolves
      exact inductionHypothesis (fun other member => fits other (List.mem_cons_of_mem _ member))
        _ (evolves.apply (fits write List.mem_cons_self))

/-- The write touches neither the row, nor the transitions, nor the decisions of the run. -/
def Write.SparesRun (runId : RunId) : Write → Prop
  | .insertRun row => row.runId ≠ runId
  | .updateRun row => row.runId ≠ runId
  | .insertKey _ => True
  | .insertEvent row => row.genuine = true → row.runId ≠ runId
  | .insertDecision row => row.runId ≠ runId

theorem Db.applyAll_sparesRun {runId : RunId}
    (spares : ∀ write ∈ writes, write.SparesRun runId) :
    (db.applyAll writes).runs runId = db.runs runId ∧
    (db.applyAll writes).transitionsOf runId = db.transitionsOf runId ∧
    (db.applyAll writes).decisionsOf runId = db.decisionsOf runId := by
  induction writes generalizing db with
  | nil => exact ⟨rfl, rfl, rfl⟩
  | cons write rest inductionHypothesis =>
      obtain ⟨run, transitions, decisions⟩ := @inductionHypothesis (db.apply write)
        (fun other member => spares other (List.mem_cons_of_mem _ member))
      have spared := spares write List.mem_cons_self
      simp only [Db.applyAll, List.foldl_cons] at run transitions decisions ⊢
      rw [run, transitions, decisions]
      cases write with
      | insertRun row =>
          exact ⟨Function.update_of_ne (Ne.symm spared) _ _, rfl, rfl⟩
      | updateRun row =>
          exact ⟨Function.update_of_ne (Ne.symm spared) _ _, rfl, rfl⟩
      | insertKey row => exact ⟨rfl, rfl, rfl⟩
      | insertEvent row =>
          refine ⟨rfl, ?_, rfl⟩
          simp only [Db.transitionsOf, Db.apply, List.filter_append, List.append_right_eq_self]
          simp only [Write.SparesRun] at spared
          cases genuine : row.genuine <;> simp_all
      | insertDecision row =>
          refine ⟨rfl, rfl, ?_⟩
          simp only [Db.decisionsOf, Db.apply, List.filter_append, List.append_right_eq_self]
          simp only [Write.SparesRun] at spared
          simp [spared]

theorem Db.applyAll_sparesKey {key : KeyId}
    (spares : ∀ row, Write.insertKey row ∈ writes → row.id ≠ key) :
    (db.applyAll writes).keys key = db.keys key := by
  induction writes generalizing db with
  | nil => rfl
  | cons write rest inductionHypothesis =>
      have tail := @inductionHypothesis (db.apply write)
        (fun row member => spares row (List.mem_cons_of_mem _ member))
      simp only [Db.applyAll, List.foldl_cons] at tail ⊢
      rw [tail]
      cases write with
      | insertKey row =>
          exact Function.update_of_ne (Ne.symm (spares row List.mem_cons_self)) _ _
      | insertRun row => rfl
      | updateRun row => rfl
      | insertEvent row => rfl
      | insertDecision row => rfl

/-- The rows a write brings pass their CHECKs. -/
def Write.Checked : Write → Prop
  | .insertRun row => checkAll row.checks = .ok ()
  | .updateRun row => checkAll row.checks = .ok ()
  | .insertKey _ => True
  | .insertEvent _ => True
  | .insertDecision _ => True

theorem Write.Fits.checked {write : Write} (fits : write.Fits db) : write.Checked := by
  cases write with
  | insertRun row => exact fits.2
  | updateRun row => exact fits.2
  | insertKey row => trivial
  | insertEvent row => trivial
  | insertDecision row => trivial

/-- A run stored under its own identifier. -/
theorem Db.Keyed.setRun (keyed : db.Keyed) {row : RunRow} (checked : checkAll row.checks = .ok ()) :
    Db.Keyed { db with runs := Function.update db.runs row.runId (some row) } := by
  refine { keyed with runs := fun runId other found => ?_, checked := fun runId other found => ?_ }
  · by_cases same : runId = row.runId
    · subst same
      obtain rfl : row = other := by simpa using found
      rfl
    · exact keyed.runs _ _ (by simpa [Function.update_of_ne same] using found)
  · by_cases same : runId = row.runId
    · subst same
      obtain rfl : row = other := by simpa using found
      exact checked
    · exact keyed.checked _ _ (by simpa [Function.update_of_ne same] using found)

theorem Db.keyed_applyAll (keyed : db.Keyed) (checked : ∀ write ∈ writes, write.Checked) :
    (db.applyAll writes).Keyed := by
  induction writes generalizing db with
  | nil => exact keyed
  | cons write rest inductionHypothesis =>
      refine @inductionHypothesis (db.apply write) ?_
        (fun other member => checked other (List.mem_cons_of_mem _ member))
      have first := checked write List.mem_cons_self
      cases write with
      | insertRun row => exact keyed.setRun first
      | updateRun row => exact keyed.setRun first
      | insertKey row =>
          refine { keyed with keys := fun key other found => ?_ }
          by_cases same : key = row.id
          · subst same
            obtain rfl : row = other := by simpa [Db.apply] using found
            rfl
          · exact keyed.keys _ _ (by simpa [Db.apply, Function.update_of_ne same] using found)
      | insertEvent row => exact ⟨keyed.runs, keyed.checked, keyed.keys, keyed.tools⟩
      | insertDecision row => exact ⟨keyed.runs, keyed.checked, keyed.keys, keyed.tools⟩

theorem Db.mem_events_applyAll {event : EventRow}
    (member : event ∈ (db.applyAll writes).events) :
    event ∈ db.events ∨ Write.insertEvent event ∈ writes := by
  induction writes generalizing db with
  | nil => exact .inl member
  | cons write rest inductionHypothesis =>
      simp only [Db.applyAll, List.foldl_cons] at member inductionHypothesis
      rcases inductionHypothesis member with found | found
      · cases write with
        | insertEvent row =>
            simp only [Db.apply, List.mem_append, List.mem_singleton] at found
            rcases found with found | rfl
            · exact .inl found
            · exact .inr List.mem_cons_self
        | insertRun row => exact .inl found
        | updateRun row => exact .inl found
        | insertKey row => exact .inl found
        | insertDecision row => exact .inl found
      · exact .inr (List.mem_cons_of_mem _ found)

/-- Nobody's locked run is touched by writes covered by somebody else's locks. -/
theorem World.Covers.sparesRun {world : World} {t u : Tid} {write : Write} {runId : RunId}
    (covers : world.Covers t write) (held : world.runLock runId = some u) (other : u ≠ t) :
    write.SparesRun runId := by
  have apart : ∀ id, world.runLock id = some t → id ≠ runId := by
    rintro id mine rfl
    exact other (Option.some.inj (held.symm.trans mine))
  cases write with
  | insertRun row => exact apart _ covers.1
  | updateRun row => exact apart _ covers.1
  | insertKey row => trivial
  | insertEvent row => exact fun genuine => apart _ (covers.1 genuine)
  | insertDecision row => exact apart _ covers

theorem World.Covers.fits {world : World} {t : Tid} {write : Write}
    (covers : world.Covers t write) : write.Fits world.view.db := by
  cases write with
  | insertRun row => exact covers.2
  | updateRun row => exact covers.2
  | insertKey row => exact covers.2
  | insertEvent row => trivial
  | insertDecision row => trivial

@[simp] theorem View.commitsOf_commit_of_ne {view : View} {t u : Tid} {writes : List Write}
    (other : u ≠ t) : (view.commit t writes).commitsOf u = view.commitsOf u := by
  unfold View.commitsOf View.commit
  split
  · rfl
  · simp [Ne.symm other]

/-- The entries of a call itself. -/
theorem View.commitsOf_commit {view : View} {t : Tid} {writes : List Write} :
    (view.commit t writes).commitsOf t =
      if writes.isEmpty then view.commitsOf t else view.commitsOf t ++ [writes] := by
  unfold View.commitsOf View.commit
  split <;> simp

section

variable {before after : World} {t : Tid}

/-- A commit leaves the others what they rely on. -/
theorem World.Locked.commit_rely (locked : before.Locked)
    (view : after.view = before.view.commit t (before.tx t).writes)
    (tx : ∀ u, u ≠ t → after.tx u = before.tx u)
    (runLock : ∀ u, u ≠ t → ∀ runId, after.runLock runId = some u ↔ before.runLock runId = some u)
    (keyLock : ∀ u, u ≠ t → ∀ key, after.keyLock key = some u ↔ before.keyLock key = some u)
    (nextEventId : after.nextEventId = before.nextEventId) (u : Tid) (other : u ≠ t) :
    before.Rely u after where
  view := by
    rw [view]
    refine ⟨Db.evolves_applyAll fun write member => (locked.pending t write member).fits, ?_,
      .inl rfl⟩
    exact View.commitsOf_commit_of_ne other
  tx := tx u other
  runLock := runLock u other
  keyLock := keyLock u other
  run := by
    intro runId held
    rw [view]
    exact Db.applyAll_sparesRun fun write member =>
      (locked.pending t write member).sparesRun held other
  key := by
    intro key held
    rw [view]
    refine Db.applyAll_sparesKey fun row member => ?_
    rintro rfl
    exact other (Option.some.inj (held.symm.trans (locked.pending t _ member).1))
  nextEventId := Nat.le_of_eq nextEventId.symm

/-- A commit keeps the lock discipline. -/
theorem World.Locked.commit (locked : before.Locked)
    (view : after.view = before.view.commit t (before.tx t).writes)
    (idle : after.tx t = Tx.idle)
    (tx : ∀ u, u ≠ t → after.tx u = before.tx u)
    (runLock : ∀ u, u ≠ t → ∀ runId, after.runLock runId = some u ↔ before.runLock runId = some u)
    (keyLock : ∀ u, u ≠ t → ∀ key, after.keyLock key = some u ↔ before.keyLock key = some u)
    (nextEventId : after.nextEventId = before.nextEventId) : after.Locked where
  pending := by
    intro u write member
    by_cases same : u = t
    · subst same
      simp [idle, Tx.idle] at member
    · rw [tx u same] at member
      have rely := locked.commit_rely view tx runLock keyLock nextEventId u same
      have covers := locked.pending u write member
      cases write with
      | insertRun row =>
          obtain ⟨held, fresh, checked⟩ := covers
          exact ⟨(runLock u same _).mpr held, (rely.run _ held).1.trans fresh, checked⟩
      | updateRun row =>
          obtain ⟨held, ⟨old, found, sameRun⟩, checked⟩ := covers
          exact ⟨(runLock u same _).mpr held, ⟨old, (rely.run _ held).1.trans found, sameRun⟩,
            checked⟩
      | insertKey row =>
          exact ⟨(keyLock u same _).mpr covers.1, (rely.key _ covers.1).trans covers.2⟩
      | insertEvent row =>
          exact ⟨fun genuine => (runLock u same _).mpr (covers.1 genuine),
            nextEventId ▸ covers.2⟩
      | insertDecision row => exact (runLock u same _).mpr covers
  saved := by
    intro u
    by_cases same : u = t
    · subst same
      simp [idle, Tx.idle]
    · rw [tx u same]
      exact locked.saved u
  keyed := by
    rw [view]
    exact Db.keyed_applyAll locked.keyed
      fun write member => (locked.pending t write member).fits.checked
  events := by
    intro event member
    rw [view] at member
    rw [nextEventId]
    rcases Db.mem_events_applyAll member with old | new
    · exact locked.events event old
    · exact (locked.pending t _ new).2
  advisory := by
    rw [view]
    exact locked.advisory

end

end Commit

end StockoutOps.Investigation
