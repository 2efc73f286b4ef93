import StockoutOps.Investigation.Clients

/-!
Contract: an idempotency key creates one run, whatever the callers do.

Owns: how keys, runs, creation events and the commit log belong together, how
every call of `begin_intake` ends, and which call is told that it created the
run.

Does not own: the other methods; they may run beside the intakes, as long as
they do not write the event type of a creation.
-/

namespace StockoutOps.Investigation

open StockoutOps.Sql StockoutOps.Foundation.Interleaving

/-! ## Keys, runs and creations -/

def EventRow.creation (event : EventRow) : Bool := event.eventType == "run_created"

def Db.creationsOf (db : Db) (runId : RunId) : List EventRow :=
  db.events.filter (fun event => event.runId == runId && event.creation)

/-- Runs and keys are in bijection, and a run has one creation event. -/
structure Db.OneRunPerKey (db : Db) : Prop where
  keyed : ∀ runId run, db.runs runId = some run →
    ∃ key row, db.keys key = some row ∧ row.runId = runId
  present : ∀ key row, db.keys key = some row →
    ∃ run, db.runs row.runId = some run ∧ run.tenantId = row.tenantId ∧
      run.requestHash = row.payloadHash
  injective : ∀ key key' row row', db.keys key = some row → db.keys key' = some row' →
    row.runId = row'.runId → key = key'
  creations : ∀ runId run, db.runs runId = some run → (db.creationsOf runId).length = 1
  unborn : ∀ runId, db.runs runId = none → db.creationsOf runId = []

theorem Db.oneRunPerKey_empty : Db.empty.OneRunPerKey :=
  ⟨fun _ _ => nofun, fun _ _ => nofun, fun _ _ _ _ => nofun, fun _ _ => nofun, fun _ _ => rfl⟩

/-- A write that creates neither a run nor a key nor a creation event. -/
def Write.Quiet (db : Db) : Write → Prop
  | .updateRun row => ∃ old, db.runs row.runId = some old ∧ old.SameRun row
  | .insertEvent row => row.creation = false
  | .insertDecision _ => True
  | .insertRun _ => False
  | .insertKey _ => False

theorem creationsOf_append {db after : Db} {event : EventRow}
    (events : after.events = db.events ++ [event]) (runId : RunId) :
    after.creationsOf runId =
      if event.runId = runId ∧ event.creation = true then db.creationsOf runId ++ [event]
      else db.creationsOf runId := by
  unfold Db.creationsOf
  rw [events, List.filter_append]
  split
  · rename_i counts
    simp [counts]
  · rename_i skipped
    have : (event.runId == runId && event.creation) = false := by
      simpa using fun same => by simpa [same] using skipped
    simp [this]

namespace Db.OneRunPerKey

variable {db : Db}

theorem quiet (inv : db.OneRunPerKey) (write : Write) (quiet : write.Quiet db) :
    (db.apply write).OneRunPerKey := by
  cases write with
  | insertRun row => exact quiet.elim
  | insertKey row => exact quiet.elim
  | insertDecision row =>
      exact ⟨inv.keyed, inv.present, inv.injective, inv.creations, inv.unborn⟩
  | insertEvent row =>
      have same : ∀ runId, (db.apply (.insertEvent row)).creationsOf runId =
          db.creationsOf runId := by
        intro runId
        have still : row.creation = false := quiet
        have events : (db.apply (.insertEvent row)).events = db.events ++ [row] := rfl
        simp [creationsOf_append events, still]
      refine ⟨inv.keyed, inv.present, inv.injective, fun runId run found => ?_,
        fun runId absent => ?_⟩
      · rw [same]
        exact inv.creations runId run found
      · rw [same]
        exact inv.unborn runId absent
  | updateRun row =>
      obtain ⟨old, found, sameRun⟩ := quiet
      have others : ∀ runId, runId ≠ row.runId →
          (db.apply (.updateRun row)).runs runId = db.runs runId :=
        fun runId other => Function.update_of_ne other _ _
      have self : (db.apply (.updateRun row)).runs row.runId = some row :=
        Function.update_self _ _ _
      -- The new row is there exactly where the old one was.
      have before : ∀ runId run, (db.apply (.updateRun row)).runs runId = some run →
          ∃ earlier, db.runs runId = some earlier := by
        intro runId run there
        by_cases same : runId = row.runId
        · exact ⟨old, by rw [same, found]⟩
        · exact ⟨run, by rw [← others runId same, there]⟩
      refine ⟨fun runId run there => ?_, fun key keyRow stored => ?_, inv.injective,
        fun runId run there => ?_, fun runId absent => ?_⟩
      · obtain ⟨earlier, was⟩ := before runId run there
        exact inv.keyed runId earlier was
      · obtain ⟨run, was, tenant, hash⟩ := inv.present key keyRow stored
        by_cases same : keyRow.runId = row.runId
        · rw [same] at was ⊢
          obtain rfl : old = run := Option.some.inj (found.symm.trans was)
          exact ⟨row, self, sameRun.tenantId.trans tenant, sameRun.requestHash.trans hash⟩
        · exact ⟨run, by rw [others _ same, was], tenant, hash⟩
      · obtain ⟨earlier, was⟩ := before runId run there
        exact inv.creations runId earlier was
      · refine inv.unborn runId ?_
        by_cases same : runId = row.runId
        · subst same
          simp [self] at absent
        · rw [← others runId same, absent]

/-- The commit of an intake that won its key. -/
theorem created (inv : db.OneRunPerKey) {call : IntakeCall} {runId : RunId} {eventId : Nat}
    (fresh : db.runs runId = none) (unused : db.keys call.key = none) :
    (db.applyAll (call.created runId eventId)).OneRunPerKey := by
  let after := db.applyAll (call.created runId eventId)
  have runs : after.runs = Function.update db.runs runId (some (call.runRow runId)) := rfl
  have keys : after.keys = Function.update db.keys call.key (some (call.keyRow runId)) := rfl
  have events : after.events = db.events ++ [(call.createdEvent runId).numbered eventId] := rfl
  have creations := creationsOf_append events
  -- No key refers to the new run yet.
  have unreferenced : ∀ key row, db.keys key = some row → row.runId ≠ runId := by
    rintro key row stored rfl
    obtain ⟨run, found, -⟩ := inv.present key row stored
    simp [fresh] at found
  refine ⟨fun other run found => ?_, fun key row stored => ?_,
    fun key key' row row' stored stored' same => ?_, fun other run found => ?_,
    fun other absent => ?_⟩
  · by_cases same : other = runId
    · exact ⟨call.key, call.keyRow runId, Function.update_self _ _ _, same.symm⟩
    · have found : after.runs other = some run := found
      rw [runs, Function.update_of_ne same] at found
      obtain ⟨key, row, stored, refers⟩ := inv.keyed other run found
      have different : key ≠ call.key := by
        rintro rfl
        simp [unused] at stored
      exact ⟨key, row, (Function.update_of_ne different _ _).trans stored, refers⟩
  · have stored : after.keys key = some row := stored
    by_cases same : key = call.key
    · rw [keys, same, Function.update_self] at stored
      obtain rfl := Option.some.inj stored
      exact ⟨call.runRow runId, Function.update_self _ _ _, rfl, rfl⟩
    · rw [keys, Function.update_of_ne same] at stored
      obtain ⟨run, found, tenant, hash⟩ := inv.present key row stored
      exact ⟨run, (Function.update_of_ne (unreferenced key row stored) _ _).trans found,
        tenant, hash⟩
  · have stored : after.keys key = some row := stored
    have stored' : after.keys key' = some row' := stored'
    rw [keys] at stored stored'
    by_cases first : key = call.key <;> by_cases second : key' = call.key
    · rw [first, second]
    · rw [first, Function.update_self] at stored
      rw [Function.update_of_ne second] at stored'
      obtain rfl := Option.some.inj stored
      exact absurd same.symm (unreferenced key' row' stored')
    · rw [second, Function.update_self] at stored'
      rw [Function.update_of_ne first] at stored
      obtain rfl := Option.some.inj stored'
      exact absurd same (unreferenced key row stored)
    · rw [Function.update_of_ne first] at stored
      rw [Function.update_of_ne second] at stored'
      exact inv.injective key key' row row' stored stored' same
  · by_cases same : other = runId
    · subst same
      rw [creations, if_pos ⟨rfl, rfl⟩, inv.unborn other fresh]
      rfl
    · have found : after.runs other = some run := found
      rw [runs, Function.update_of_ne same] at found
      rw [creations, if_neg (fun both => same both.1.symm)]
      exact inv.creations other run found
  · have absent : after.runs other = none := absent
    by_cases same : other = runId
    · simp [runs, same] at absent
    · rw [runs, Function.update_of_ne same] at absent
      rw [creations, if_neg (fun both => same both.1.symm)]
      exact inv.unborn other absent

end Db.OneRunPerKey

/-! ## Who created the run of a key -/

/-- The write that puts a key into the table. -/
def Write.claims (key : KeyId) : Write → Bool
  | .insertKey row => row.id == key
  | _ => false

/-- The calls whose committed transactions inserted the key. -/
def View.creatorsOf (view : View) (key : KeyId) : List Tid :=
  (view.commitLog.filter (fun entry => entry.2.any (Write.claims key))).map Prod.fst

theorem View.mem_creatorsOf {view : View} {key : KeyId} {t : Tid} :
    t ∈ view.creatorsOf key ↔
      ∃ writes ∈ view.commitsOf t, writes.any (Write.claims key) = true := by
  simp only [View.creatorsOf, View.commitsOf, List.mem_map, List.mem_filter, beq_iff_eq]
  constructor
  · rintro ⟨entry, ⟨member, claims⟩, rfl⟩
    exact ⟨entry.2, ⟨entry, ⟨member, rfl⟩, rfl⟩, claims⟩
  · rintro ⟨writes, ⟨entry, ⟨member, rfl⟩, rfl⟩, claims⟩
    exact ⟨entry, ⟨member, claims⟩, rfl⟩

theorem View.creatorsOf_commit (view : View) (t : Tid) (writes : List Write) (key : KeyId) :
    (view.commit t writes).creatorsOf key =
      view.creatorsOf key ++ if writes.any (Write.claims key) then [t] else [] := by
  unfold View.creatorsOf View.commit
  by_cases empty : writes.isEmpty
  · have : writes = [] := by simpa using empty
    simp [this]
  · by_cases claims : writes.any (Write.claims key) <;> simp [empty, claims]

structure IntakeInv (view : View) : Prop where
  db : view.db.OneRunPerKey
  creators : ∀ key row, view.db.keys key = some row → ∃ t, view.creatorsOf key = [t]
  unclaimed : ∀ key, view.db.keys key = none → view.creatorsOf key = []

def intakeProtocol : Protocol where
  Inv := IntakeInv
  Rely := fun _ _ _ => True
  Allowed := fun _ _ => True
  live := False
  input := exists_input
  refl := fun _ _ => trivial
  trans := fun _ _ _ _ _ _ => trivial

namespace IntakeInv

variable {view : View} {t : Tid}

theorem empty : IntakeInv View.empty :=
  ⟨Db.oneRunPerKey_empty, fun _ _ => nofun, fun _ _ => rfl⟩

/-- A commit that claims no key, and keeps the tables in order. -/
theorem commit (inv : IntakeInv view) {writes : List Write}
    (db : (view.db.applyAll writes).OneRunPerKey)
    (keys : (view.db.applyAll writes).keys = view.db.keys)
    (claims : ∀ key, writes.any (Write.claims key) = false) :
    IntakeInv (view.commit t writes) := by
  have creators : ∀ key, (view.commit t writes).creatorsOf key = view.creatorsOf key := by
    intro key
    simp [View.creatorsOf_commit, claims]
  refine ⟨db, fun key row stored => ?_, fun key absent => ?_⟩
  · rw [creators]
    exact inv.creators key row (by rw [← keys]; exact stored)
  · rw [creators]
    exact inv.unclaimed key (by rw [← keys]; exact absent)

theorem created (inv : IntakeInv view) {call : IntakeCall} {runId : RunId} {eventId : Nat}
    (fresh : view.db.runs runId = none) (unused : view.db.keys call.key = none) :
    IntakeInv (view.commit t (call.created runId eventId)) := by
  have keys : (view.commit t (call.created runId eventId)).db.keys =
      Function.update view.db.keys call.key (some (call.keyRow runId)) := rfl
  have claims : ∀ key, (call.created runId eventId).any (Write.claims key) = (call.key == key) := by
    intro key
    simp [IntakeCall.created, Write.claims, KeyRow.id, IntakeCall.keyRow, IntakeCall.key]
  refine ⟨inv.db.created fresh unused, fun key row stored => ?_, fun key absent => ?_⟩
  · rw [View.creatorsOf_commit, claims]
    by_cases same : key = call.key
    · subst same
      exact ⟨t, by simp [inv.unclaimed _ unused]⟩
    · rw [keys, Function.update_of_ne same] at stored
      obtain ⟨u, creators⟩ := inv.creators key row stored
      exact ⟨u, by simp [creators, Ne.symm same]⟩
  · rw [View.creatorsOf_commit, claims]
    by_cases same : key = call.key
    · simp [keys, same] at absent
    · rw [keys, Function.update_of_ne same] at absent
      simp [inv.unclaimed key absent, Ne.symm same]

end IntakeInv

/-! ## How a call ends -/

/-- The ways a call of `begin_intake` can end, with what it committed. The row
it returns is the one it read; the run may have moved on since. -/
inductive IntakeCall.Returns (call : IntakeCall) (t : Tid) (view : View) :
    Except Failure (RunRow × Bool) → Prop where
  | created (runId : RunId) (eventId : Nat)
      (stored : view.db.keys call.key = some (call.keyRow runId))
      (commits : view.commitsOf t = [call.created runId eventId]) :
      Returns call t view (.ok (call.runRow runId, true))
  | replayed (existing : KeyRow) (run now : RunRow)
      (stored : view.db.keys call.key = some existing)
      (samePayload : existing.payloadHash = call.payloadHash)
      (present : view.db.runs existing.runId = some now) (sameRun : run.SameRun now)
      (commits : view.commitsOf t = []) : Returns call t view (.ok (run, false))
  | conflicted (existing : KeyRow) (run now : RunRow) (eventId : Nat)
      (stored : view.db.keys call.key = some existing)
      (otherPayload : existing.payloadHash ≠ call.payloadHash)
      (present : view.db.runs existing.runId = some now) (sameRun : run.SameRun now)
      (commits : view.commitsOf t = [call.rejected run eventId]) :
      Returns call t view (.error IntakeCall.conflict)
  | aborted (error : SqlError) (uuid : RunId)
      (refused : (∃ error, checkAll (call.runRow uuid).checks = .error error) ∨
        (∃ error, checkAll (call.keyRow uuid).checks = .error error) ∨
        (view.db.runs uuid).isSome = true)
      (commits : view.commitsOf t = []) : Returns call t view (.error (.database error))

/-- The call committed no key. -/
def View.NoClaim (t : Tid) (view : View) : Prop := ∀ key, t ∉ view.creatorsOf key

section Calls

variable {t : Tid} {view : View} {ρ : Type}

theorem View.creatorsOf_later {before after : View} (later : before.Later t after) (key : KeyId) :
    t ∈ after.creatorsOf key ↔ t ∈ before.creatorsOf key := by
  rw [View.mem_creatorsOf, View.mem_creatorsOf, later.commits]

theorem View.NoClaim.later {before after : View} (free : before.NoClaim t)
    (later : before.Later t after) : after.NoClaim t :=
  fun key claims => free key ((View.creatorsOf_later later key).mp claims)

theorem View.NoClaim.commit (free : view.NoClaim t) {writes : List Write}
    (claims : ∀ key, writes.any (Write.claims key) = false) : (view.commit t writes).NoClaim t := by
  intro key
  simpa [View.creatorsOf_commit, claims] using free key

theorem View.noClaim_of_commits (commits : view.commitsOf t = []) : view.NoClaim t := by
  intro key
  simp [View.mem_creatorsOf, commits]

/-- The Post of the calls that create nothing. -/
abbrev ClaimsNothing (t : Tid) (_ : Except Failure ρ) (view : View) : Prop := view.NoClaim t

theorem stays_noClaim {result : Except Failure ρ} (free : view.NoClaim t) :
    intakeProtocol.Stays t (ClaimsNothing t) result view :=
  fun _ later _ => free.later later.view

/-- A quiet commit keeps the protocol and creates nothing. -/
theorem quiet_commit {writes : List Write} {result : Except Failure ρ} (inv : IntakeInv view)
    (free : view.NoClaim t) (db : (view.db.applyAll writes).OneRunPerKey)
    (keys : (view.db.applyAll writes).keys = view.db.keys)
    (claims : ∀ key, writes.any (Write.claims key) = false) :
    intakeProtocol.Guarantee t view (view.commit t writes) ∧
      intakeProtocol.Stays t (ClaimsNothing t) result (view.commit t writes) :=
  ⟨⟨inv.commit db keys claims, fun _ _ => trivial⟩, stays_noClaim (free.commit claims)⟩

/-- The commit of one rejection event. -/
theorem quiet_event {event : EventRow} {result : Except Failure ρ} (inv : IntakeInv view)
    (free : view.NoClaim t) (other : event.creation = false) :
    intakeProtocol.Guarantee t view (view.commit t [.insertEvent event]) ∧
      intakeProtocol.Stays t (ClaimsNothing t) result (view.commit t [.insertEvent event]) :=
  quiet_commit inv free (inv.db.quiet (.insertEvent event) other) rfl fun _ => rfl

theorem intake_rejectControl (principal : Principal) (runId : RunId) (code : String)
    (now : Timestamp) (exception : Failure) (free : view.NoClaim t) :
    intakeProtocol.Serves t
      (do
        appendRejectedControl principal runId code now
        raise exception) (ClaimsNothing (ρ := ρ) t) view := by
  refine Protocol.serves_rejectControl
    (fun later relied _ _ => stays_noClaim (free.later relied.view)) ?_
  intro later relied _ run _ last reliedLast holds eventId
  exact quiet_event holds.inv ((free.later relied.view).later reliedLast.view) rfl

theorem intake_appendRejectedControl (principal : Principal) (runId : RunId) (code : String)
    (now : Timestamp) (free : view.NoClaim t) :
    intakeProtocol.Serves t (appendRejectedControl principal runId code now) (ClaimsNothing t)
      view := by
  refine Protocol.serves_appendRejectedControl
    (fun later relied _ _ => stays_noClaim (free.later relied.view)) ?_
  intro later relied _ run _ last reliedLast holds eventId
  exact quiet_event holds.inv ((free.later relied.view).later reliedLast.view) rfl

theorem intake_compareAndSwap {principal : Principal} {run : RunRow} {move : Move}
    {now : Timestamp} (same : ∀ row : RunRow, row.SameRun (move.set row))
    (eventType : move.eventType ≠ "run_created") (free : view.NoClaim t) :
    intakeProtocol.Serves t (compareAndSwap principal run move now) (ClaimsNothing t) view := by
  refine Protocol.serves_compareAndSwap same False.elim ?_
    (fun later relied _ _ _ _ _ => stays_noClaim (free.later relied.view))
    (fun later relied _ _ =>
      intake_rejectControl principal run.runId _ now _ (free.later relied.view))
    (fun _ => intake_rejectControl principal run.runId _ now _ free)
  intro later relied holds row eventId _ found _ _ _ _ _
  have other : ((move.event principal run now).numbered eventId).creation = false := by
    simpa [EventRow.creation, EventRow.numbered, Move.event, eventRow] using eventType
  have rowId := holds.keyed.runs _ _ found
  refine quiet_commit holds.inv (free.later relied.view) ?_ rfl fun _ => rfl
  refine Db.OneRunPerKey.quiet (holds.inv.db.quiet (.updateRun (move.set row)) ?_)
    (.insertEvent _) other
  exact ⟨row, by rw [(same row).runId, rowId, found], same row⟩

theorem intake_recordReview (call : ReviewCall) (free : view.NoClaim t) :
    intakeProtocol.Serves t (recordReview call) (ClaimsNothing t) view := by
  refine Protocol.serves_recordReview ⟨?_, ?_, ?_, ?_⟩ False.elim
  · exact fun later relied _ _ => stays_noClaim (free.later relied.view)
  · intro later relied holds run code error _ _ eventId
    exact quiet_event holds.inv (free.later relied.view) rfl
  · intro later relied holds run found _ _ _ decidedId closedId _ _
    obtain ⟨stored, -⟩ := Db.run?_eq_some.mp found
    have rowId := holds.keyed.runs _ _ stored
    refine quiet_commit holds.inv (free.later relied.view) ?_ rfl fun _ => rfl
    have inserted := holds.inv.db.quiet (.insertDecision (call.decisionRow run)) trivial
    have decided := inserted.quiet (.updateRun (call.decidedRun run))
      ⟨run, by rw [← stored]; exact congrArg _ rowId, setState_sameRun _ _ _⟩
    have noted := decided.quiet
      (.insertEvent ((call.decidedEvent run).numbered decidedId)) rfl
    have closed := noted.quiet (.updateRun (call.closedRun run))
      ⟨call.decidedRun run, Function.update_self _ _ _, setState_sameRun _ _ _⟩
    exact closed.quiet (.insertEvent ((call.closedEvent run).numbered closedId)) rfl
  · exact fun later relied _ _ _ _ _ _ => stays_noClaim (free.later relied.view)

theorem IntakeCall.Returns.later {call : IntakeCall} {before after : View}
    {result : Except Failure (RunRow × Bool)} (returns : call.Returns t before result)
    (later : before.Later t after) : call.Returns t after result := by
  have keys := later.db.keys
  cases returns with
  | created runId eventId stored commits =>
      exact .created runId eventId (keys _ _ stored) (later.commits.trans commits)
  | replayed existing run now stored samePayload present sameRun commits =>
      obtain ⟨next, presentNext, sameNext⟩ := later.db.runs _ _ present
      exact .replayed existing run next (keys _ _ stored) samePayload presentNext
        (sameRun.trans sameNext) (later.commits.trans commits)
  | conflicted existing run now eventId stored otherPayload present sameRun commits =>
      obtain ⟨next, presentNext, sameNext⟩ := later.db.runs _ _ present
      exact .conflicted existing run next eventId (keys _ _ stored) otherPayload presentNext
        (sameRun.trans sameNext) (later.commits.trans commits)
  | aborted error uuid refused commits =>
      refine .aborted error uuid (refused.imp_right (Or.imp_right fun taken => ?_))
        (later.commits.trans commits)
      obtain ⟨row, found⟩ := Option.isSome_iff_exists.mp taken
      exact Protocol.isSome_of_evolves later.db found

/-- What a call returned stays true. -/
theorem stays_returns {call : IntakeCall} {result : Except Failure (RunRow × Bool)}
    (returns : call.Returns t view result) :
    intakeProtocol.Stays t (fun result last => call.Returns t last result) result view :=
  fun _ later _ => returns.later later.view

theorem intake_beginIntake (call : IntakeCall) (fresh : view.commitsOf t = []) :
    intakeProtocol.Serves t (beginIntake call) (fun result last => call.Returns t last result)
      view := by
  have still : ∀ later, intakeProtocol.Later t view later → later.commitsOf t = [] :=
    fun later relied => relied.view.commits.trans fresh
  refine Protocol.serves_beginIntake ⟨?_, ?_, ?_, ?_, ?_⟩ False.elim
  · intro later relied holds input eventId _ absent unused _ _
    refine ⟨⟨holds.inv.created absent unused, fun _ _ => trivial⟩, stays_returns ?_⟩
    refine .created input.uuid eventId (Function.update_self _ _ _) ?_
    simp [View.commitsOf_commit, still later relied, IntakeCall.created]
  · intro later relied _ existing run stored found same
    obtain ⟨present, -⟩ := Db.run?_eq_some.mp found
    exact stays_returns (.replayed existing run run stored same present (.refl run)
      (still later relied))
  · intro later relied _ existing run stored found other last reliedLast holds eventId
    obtain ⟨present, -⟩ := Db.run?_eq_some.mp found
    obtain ⟨now, presentNow, sameRun⟩ := reliedLast.view.db.runs _ _ present
    have event : ((call.rejectedEvent run).numbered eventId).creation = false := rfl
    refine ⟨⟨holds.inv.commit (holds.inv.db.quiet (.insertEvent _) event) rfl fun _ => rfl,
        fun _ _ => trivial⟩,
      stays_returns ?_⟩
    refine .conflicted existing run now eventId (reliedLast.view.db.keys _ _ stored) other
      presentNow sameRun ?_
    simp [View.commitsOf_commit, still last (relied.trans reliedLast), IntakeCall.rejected]
  · intro later _ holds existing stored absent message
    -- A key always refers to a run of its tenant.
    obtain ⟨run, found, tenant, -⟩ := holds.inv.db.present _ _ stored
    have key := holds.keyed.keys _ _ stored
    have sameTenant : existing.tenantId = call.principal.tenantId := congrArg Prod.fst key
    have present := Db.run?_eq_some.mpr ⟨found, tenant.trans sameTenant⟩
    simp [present] at absent
  · intro later relied _ input _ refused error
    exact stays_returns (.aborted error input.uuid refused (still later relied))

end Calls

/-! ## Every interleaving -/

/-- Only `begin_intake` writes the event of a creation. -/
def RepositoryCall.SparesCreations : RepositoryCall → Prop
  | .transition _ _ _ eventType _ _ => eventType ≠ "run_created"
  | _ => True

/-- Any number of intakes beside any other calls, with any clock and any
identifiers; callers may crash anywhere. -/
abbrev intakeClients : System RepositoryCall Tid Input World (Except Failure RepositoryReply) :=
  clients runRepository (fun _ call => call.SparesCreations) (fun _ _ => True) True

/-- What is known of an ended call. -/
def IntakePost (t : Tid) (call : RepositoryCall) (result : Except Failure RepositoryReply)
    (view : View) : Prop :=
  match call with
  | .beginIntake intake =>
      ∃ answer, result = answer.map .intake ∧ intake.Returns t view answer
  | _ => view.NoClaim t

theorem intake_accepts :
    intakeProtocol.Accepts runRepository (fun _ call => call.SparesCreations) (fun _ _ => True)
      True (fun t view => view.commitsOf t = []) IntakePost where
  allowed := fun _ _ _ => trivial
  fresh := fun _ _ _ relied _ fresh => relied.view.commits.trans fresh
  calls := by
    intro t call view starts _ fresh
    have free := View.noClaim_of_commits fresh
    cases call with
    | beginIntake call =>
        refine Protocol.serves_map (Protocol.serves_mono (fun result last _ returns => ?_)
          (intake_beginIntake call fresh))
        exact ⟨result, rfl, returns⟩
    | transition principal run target eventType now payload =>
        exact Protocol.serves_map (intake_compareAndSwap (setState_sameRun target now) starts free)
    | setDraftAndTransition provenance principal run draft draftHash now expiresAt =>
        refine Protocol.serves_map (intake_compareAndSwap
          (setDraft_sameRun draft draftHash now expiresAt) ?_ free)
        simp [draftMove]
    | recordReview call => exact Protocol.serves_map (intake_recordReview call free)
    | appendRejectedControl principal runId code now =>
        exact Protocol.serves_map (intake_appendRejectedControl principal runId code now free)
  endClaim := fun _ _ _ _ holds =>
    ⟨⟨holds.inv.db, holds.inv.creators, holds.inv.unclaimed⟩, fun _ => trivial⟩

/-- What any number of intakes leave behind. -/
structure IntakeIdempotent (pool : Clients RepositoryCall RepositoryReply) : Prop where
  oneRunPerKey : pool.state.view.db.OneRunPerKey
  returns : ∀ t (intake : IntakeCall) result,
    pool.threads t = .running (.beginIntake intake) (.ret result) →
    ∃ answer, result = answer.map .intake ∧ intake.Returns t pool.state.view answer
  /-- One call committed the key; it is told so, and nobody else is. -/
  creator : ∀ key row, pool.state.view.db.keys key = some row →
    ∃ t, pool.state.view.creatorsOf key = [t] ∧
      (∀ u (intake : IntakeCall) run, intake.key = key →
        pool.threads u = .running (.beginIntake intake) (.ret (.ok (.intake (run, true)))) →
        u = t) ∧
      (∀ call result, pool.threads t = .running call (.ret result) →
        ∃ intake : IntakeCall, call = .beginIntake intake ∧ intake.key = key ∧
          result = .ok (.intake (intake.runRow row.runId, true))) ∧
      pool.threads t ≠ .idle

/-- Who is told that it created the run has committed its key. -/
theorem IntakeCall.Returns.claims {call : IntakeCall} {t : Tid} {view : View} {run : RunRow}
    (returns : call.Returns t view (.ok (run, true))) : t ∈ view.creatorsOf call.key := by
  cases returns with
  | created runId eventId stored commits =>
      refine View.mem_creatorsOf.mpr ⟨call.created runId eventId, by simp [commits], ?_⟩
      simp [IntakeCall.created, Write.claims, KeyRow.id, IntakeCall.keyRow, IntakeCall.key]

/-- Who has committed a key created its run and is told so. -/
theorem IntakeCall.Returns.created_of_claims {call : IntakeCall} {t : Tid} {view : View}
    {result : Except Failure (RunRow × Bool)} (returns : call.Returns t view result) {key : KeyId}
    (claims : t ∈ view.creatorsOf key) :
    call.key = key ∧ ∃ runId, view.db.keys key = some (call.keyRow runId) ∧
      result = .ok (call.runRow runId, true) := by
  obtain ⟨writes, member, claimed⟩ := View.mem_creatorsOf.mp claims
  cases returns with
  | created runId eventId stored commits =>
      obtain rfl : writes = call.created runId eventId := by simpa [commits] using member
      have same : call.key = key := by
        simpa [IntakeCall.created, Write.claims, KeyRow.id, IntakeCall.keyRow, IntakeCall.key]
          using claimed
      exact ⟨same, runId, same ▸ stored, rfl⟩
  | replayed existing run now stored samePayload present sameRun commits =>
      simp [commits] at member
  | conflicted existing run now eventId stored otherPayload present sameRun commits =>
      obtain rfl : writes = call.rejected run eventId := by simpa [commits] using member
      simp [IntakeCall.rejected, Write.claims] at claimed
  | aborted error uuid refused commits => simp [commits] at member

/-- Whatever the callers do, a key has one run with one creation event, one call
is told that it created it, and every other call that ends replays that run,
is refused with one rejection event, or has left no trace. -/
theorem intake_idempotent {pool : Clients RepositoryCall RepositoryReply}
    (reaches : Reaches intakeClients (Pool.start World.initial) pool) : IntakeIdempotent pool := by
  have safe := intake_accepts.reaches IntakeInv.empty (fun _ => rfl) reaches
  have inv : IntakeInv pool.state.view := safe.inv.2
  have ended : ∀ t call result, pool.threads t = .running call (.ret result) →
      IntakePost t call result pool.state.view :=
    fun t call result live => (safe.ended live).2
  refine ⟨inv.db, fun t intake result live => ended t _ result live, fun key row stored => ?_⟩
  obtain ⟨t, creators⟩ := inv.creators key row stored
  have creates : t ∈ pool.state.view.creatorsOf key := by simp [creators]
  refine ⟨t, creators, fun u intake run same live => ?_, fun call result live => ?_, fun idle => ?_⟩
  · obtain ⟨answer, result, returns⟩ := ended u _ _ live
    obtain rfl : answer = .ok (run, true) := by
      cases answer with
      | ok value => simpa [Except.map] using result.symm
      | error exception => simp [Except.map] at result
    have claims := returns.claims
    rw [same, creators, List.mem_singleton] at claims
    exact claims
  · have post := ended t call result live
    cases call with
    | beginIntake intake =>
        obtain ⟨answer, rfl, returns⟩ := post
        obtain ⟨same, runId, storedNow, rfl⟩ := returns.created_of_claims creates
        obtain rfl : row = intake.keyRow runId := Option.some.inj (stored.symm.trans storedNow)
        exact ⟨intake, rfl, same, rfl⟩
    | transition principal run target eventType now payload => exact absurd creates (post key)
    | setDraftAndTransition provenance principal run draft draftHash now expiresAt =>
        exact absurd creates (post key)
    | recordReview call => exact absurd creates (post key)
    | appendRejectedControl principal runId code now => exact absurd creates (post key)
  · have fresh := safe.threads t
    rw [idle] at fresh
    exact View.noClaim_of_commits fresh.2 key creates

/-- Another payload under the same key. -/
def otherIntake : IntakeCall :=
  { restockIntake with
    payloadHash := "1111111111111111111111111111111111111111111111111111111111111111" }

/-- After two intakes with different payloads the first has created the run. -/
theorem intake_idempotent_two_payloads :
    ∃ pool : Clients RepositoryCall RepositoryReply, IntakeIdempotent pool ∧
      pool.threads 0 = .running (.beginIntake restockIntake)
        (.ret (.ok (.intake (restockIntake.runRow 7, true)))) ∧
      pool.threads 1 = .running (.beginIntake otherIntake) (.ret (.error IntakeCall.conflict)) := by
  have start : Reaches intakeClients (Pool.start World.initial) _ := .refl
  have first := start.solo 0
    ⟨3, 7, fun _ => .error .assertionError, fun _ => .error .assertionError⟩
    (.beginIntake restockIntake) rfl trivial trivial rfl
  have second := first.solo 1
    ⟨4, 8, fun _ => .error .assertionError, fun _ => .error .assertionError⟩
    (.beginIntake otherIntake) rfl trivial trivial rfl
  exact ⟨_, intake_idempotent second, rfl, rfl⟩

end StockoutOps.Investigation
