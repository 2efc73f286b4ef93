import StockoutOps.Investigation.Repository
import StockoutOps.Investigation.Serving

/-!
Contract: what each repository method does to the visible state.

Owns: one rule for each method. A transaction that commits does so in one
step: the rule gives the state it commits in, what its locks have kept since
it read, and the writes it commits.

Does not own: why the writes are welcome; that is asked of the protocol.
-/

namespace StockoutOps.Investigation

open StockoutOps.Sql StockoutOps.Foundation.Interleaving

namespace Protocol

variable {protocol : Protocol} {t : Tid} {view : View} {ρ : Type}

theorem serves_transaction {body : Routine ρ} {Post : Except Failure ρ → View → Prop}
    (safe : ∀ world : World, world.Idle t → protocol.Later t view world.view →
      protocol.discipline.Inv world →
      protocol.Safe t body
        (protocol.Ends t (fun result last => last.Idle t ∧ Post result last.view)) world) :
    protocol.Serves t (transaction body) Post view :=
  fun world idle relied inv => safe_transaction (safe world idle relied inv)

theorem serves_getRun {principal : Principal} {runId : RunId}
    {Post : Except Failure RunRow → View → Prop}
    (absent : ∀ later, protocol.Later t view later → protocol.Holds later →
      later.db.run? principal.tenantId runId = none →
      protocol.Stays t Post (.error (.stockoutOps .notFoundError)) later)
    (found : ∀ later, protocol.Later t view later → protocol.Holds later → ∀ run,
      later.db.run? principal.tenantId runId = some run →
      protocol.Stays t Post (.ok run) later) :
    protocol.Serves t (getRun principal runId) Post view := by
  refine serves_select (fun db => db.run? principal.tenantId runId)
    (fun input world idle => ?_) fun later relied holds => ?_
  · simp [Statement.selectRun, World.Idle.ownDb idle]
  · cases run? : later.db.run? principal.tenantId runId with
    | none => exact serves_raise (absent later relied holds run?)
    | some run => exact serves_pure (found later relied holds run run?)

theorem isSome_of_evolves {before after : Db} (evolves : before.Evolves after) {runId : RunId}
    {row : RunRow} (found : before.runs runId = some row) :
    (after.runs runId).isSome = true := by
  obtain ⟨row', found', -⟩ := evolves.runs runId row found
  simp [found']

theorem serves_appendRejectedControl {principal : Principal} {runId : RunId} {code : String}
    {now : Timestamp} {Post : Except Failure Unit → View → Prop}
    (absent : ∀ later, protocol.Later t view later → protocol.Holds later →
      later.db.run? principal.tenantId runId = none →
      protocol.Stays t Post (.error (.stockoutOps .notFoundError)) later)
    (appended : ∀ later, protocol.Later t view later → protocol.Holds later → ∀ run,
      later.db.run? principal.tenantId runId = some run →
      ∀ last, protocol.Later t later last → protocol.Holds last → ∀ eventId,
      protocol.Guarantee t last (last.commit t
        [.insertEvent ((controlRejected principal run code now).numbered eventId)]) ∧
      protocol.Stays t Post (.ok ()) (last.commit t
        [.insertEvent ((controlRejected principal run code now).numbered eventId)])) :
    protocol.Serves t (appendRejectedControl principal runId code now) Post view := by
  refine serves_bind (serves_getRun
    (fun later relied holds missing => stays_goes_error (absent later relied holds missing))
    fun later relied holds run found => stays_goes_ok ?_)
  refine serves_transaction fun world idle reliedAll inv => ?_
  obtain ⟨stored, -⟩ := Db.run?_eq_some.mp found
  obtain rfl := holds.keyed.runs _ _ stored
  refine safe_insertEvent idle (by simp)
    (fun last reliedLast => ?_) fun before after reliedBefore invBefore inTx same => ?_
  · exact isSome_of_evolves (reliedAll.view.db.trans reliedLast.1.view.db) stored
  · refine safe_pure_ends (ends_ok inTx fun last final reliedLast invLast => ?_)
    have reliedLast : protocol.Later t later last.view := by
      have step := later_of_rely reliedLast
      rw [same] at step
      exact (reliedAll.trans (later_of_rely reliedBefore)).trans step
    obtain ⟨guarantee, stays⟩ := appended later relied holds run found last.view reliedLast
      (holds_of_inv invLast) before.nextEventId
    exact ⟨guarantee, fun idleFinal view => settled_of_stays idleFinal (view ▸ stays)⟩

/-- The rejection of a transition: its event, and then the exception. -/
theorem serves_rejectControl {principal : Principal} {runId : RunId} {code : String}
    {now : Timestamp} {exception : Failure} {Post : Except Failure ρ → View → Prop}
    (absent : ∀ later, protocol.Later t view later → protocol.Holds later →
      later.db.run? principal.tenantId runId = none →
      protocol.Stays t Post (.error (.stockoutOps .notFoundError)) later)
    (appended : ∀ later, protocol.Later t view later → protocol.Holds later → ∀ run,
      later.db.run? principal.tenantId runId = some run →
      ∀ last, protocol.Later t later last → protocol.Holds last → ∀ eventId,
      protocol.Guarantee t last (last.commit t
        [.insertEvent ((controlRejected principal run code now).numbered eventId)]) ∧
      protocol.Stays t Post (.error exception) (last.commit t
        [.insertEvent ((controlRejected principal run code now).numbered eventId)])) :
    protocol.Serves t
      (do
        appendRejectedControl principal runId code now
        raise exception) Post view := by
  refine serves_bind (serves_appendRejectedControl
    (fun later relied holds missing => stays_goes_error (absent later relied holds missing)) ?_)
  intro later relied holds run found last reliedLast holdsLast eventId
  obtain ⟨guarantee, stays⟩ :=
    appended later relied holds run found last reliedLast holdsLast eventId
  exact ⟨guarantee, stays_goes_ok (serves_raise stays)⟩

/-- The compare-and-swap: at the commit the row is still the one that was
matched, and the event is numbered above every transition of the run. -/
theorem serves_compareAndSwap {principal : Principal} {run : RunRow} {move : Move}
    {now : Timestamp} {Post : Except Failure RunRow → View → Prop}
    (same : ∀ row : RunRow, row.SameRun (move.set row))
    (unclaimed : protocol.live → View.Unclaimed view t)
    (moved : ∀ later, protocol.Later t view later → protocol.Holds later → ∀ row eventId,
      canTransition run.state move.target = true →
      later.db.runs run.runId = some row → row.tenantId = principal.tenantId →
      row.state = run.state → row.stateVersion = run.stateVersion →
      checkAll (move.set row).checks = .ok () →
      (∀ event ∈ later.db.transitionsOf run.runId, event.eventId < eventId) →
      protocol.Guarantee t later (later.commit t
        [.updateRun (move.set row),
          .insertEvent ((move.event principal run now).numbered eventId)]) ∧
      protocol.Stays t Post (.ok (move.set row)) (later.commit t
        [.updateRun (move.set row),
          .insertEvent ((move.event principal run now).numbered eventId)]))
    (refused : ∀ later, protocol.Later t view later → protocol.Holds later → ∀ row error,
      later.db.run? principal.tenantId run.runId = some row →
      checkAll (move.set row).checks = .error error →
      protocol.Stays t Post (.error (.database error)) later)
    (missed : ∀ later, protocol.Later t view later → protocol.Holds later →
      (∀ row, later.db.run? principal.tenantId run.runId = some row →
        ¬ (row.state = run.state ∧ row.stateVersion = run.stateVersion)) →
      protocol.Serves t
        (do
          appendRejectedControl principal run.runId "STATE_VERSION_CONFLICT" now
          raise (.conflict "STATE_VERSION_CONFLICT" "Run state changed concurrently"))
        Post later)
    (invalid : canTransition run.state move.target = false →
      protocol.Serves t
        (do
          appendRejectedControl principal run.runId "INVALID_TRANSITION" now
          raise (.conflict "INVALID_TRANSITION" move.invalidMessage))
        Post view) :
    protocol.Serves t (compareAndSwap principal run move now) Post view := by
  unfold compareAndSwap
  split
  · rename_i allowed
    refine serves_bind (serves_transaction fun world idle relied inv => ?_)
    refine safe_updateRun idle same (fun later reliedLater invLater row found => ?_)
      (fun later reliedLater invLater => .inr fun live => ?_)
      (fun later reliedLater invLater inTx absent => ?_)
      (fun later reliedLater invLater inTx row error found refuses => ?_)
      (fun later after reliedLater invLater row found state version checked inTx sameView => ?_)
    · obtain ⟨stored, -⟩ := Db.run?_eq_some.mp found
      exact ⟨invLater.1.keyed.runs _ _ stored, row, stored, .refl row⟩
    · have unclaimedLater := (unclaimed live).later (relied.trans (later_of_rely reliedLater)).view
      exact fun contended => World.Idle.not_holdsAny (World.InTx.rely idle reliedLater.1)
        invLater.1 unclaimedLater contended.any
    · refine safe_pure_ends (ends_ok inTx fun last final reliedLast invLast => ?_)
      have reliedMiss := relied.trans (later_of_rely reliedLater)
      have unchanged : last.view.commit t Tx.idle.writes = last.view := rfl
      refine ⟨.refl invLast.2, fun idleFinal view => settled_of_stays idleFinal ?_⟩
      rw [view, unchanged]
      exact stays_goes_ok ((missed later.view reliedMiss (holds_of_inv invLater) absent).rely
        (later_of_rely reliedLast))
    · refine settled_ends (ends_error fun last final reliedLast invLast idleFinal sameView => ?_)
      refine settled_of_stays idleFinal (sameView ▸ stays_goes_error ?_)
      have reliedRefused := relied.trans (later_of_rely reliedLater)
      exact (refused later.view reliedRefused (holds_of_inv invLater) row error found refuses).rely
        (later_of_rely reliedLast)
    · obtain ⟨stored, tenant⟩ := Db.run?_eq_some.mp found
      have rowId := invLater.1.keyed.runs _ _ stored
      have setId : (move.set row).runId = run.runId := (same row).runId.trans rowId
      have locked : after.runLock run.runId = some t := (inTx.runs _).mpr List.mem_cons_self
      refine safe_insertEvent inTx (fun _ => List.mem_cons_self) (fun last reliedLast => ?_)
        fun before final reliedBefore invBefore inTxFinal sameFinal => ?_
      · simp [Db.applyAll, Db.apply, Tx.idle, Move.event, eventRow, setId]
      refine safe_pure_ends (ends_ok inTxFinal fun last ended reliedLast invLast => ?_)
      have lockedFinal : final.runLock run.runId = some t :=
        (inTxFinal.runs _).mpr List.mem_cons_self
      obtain ⟨runBefore, transitionsBefore, -⟩ := reliedBefore.1.run _ locked
      obtain ⟨runLast, transitionsLast, -⟩ := reliedLast.1.run _ lockedFinal
      rw [sameFinal] at runLast transitionsLast
      rw [sameView] at runBefore transitionsBefore
      have reliedCommit : protocol.Later t view last.view := by
        have first := later_of_rely reliedBefore
        have second := later_of_rely reliedLast
        rw [sameView] at first
        rw [sameFinal] at second
        exact ((relied.trans (later_of_rely reliedLater)).trans first).trans second
      obtain ⟨guarantee, stays⟩ := moved last.view reliedCommit (holds_of_inv invLast) row
        before.nextEventId allowed (runLast.trans (runBefore.trans stored)) tenant state version
        checked (fun event member => by
          rw [transitionsLast] at member
          exact invBefore.1.events event (List.mem_of_mem_filter member))
      refine ⟨guarantee, fun idleEnded endedView => settled_of_stays idleEnded ?_⟩
      rw [endedView]
      exact stays_goes_ok (serves_pure stays)
  · rename_i allowed
    exact invalid (by simpa using allowed)

end Protocol

/-! ## Intake -/

namespace IntakeCall

/-- The writes of an intake that wins its key. -/
def created (call : IntakeCall) (runId : RunId) (eventId : Nat) : List Write :=
  [.insertRun (call.runRow runId), .insertKey (call.keyRow runId),
    .insertEvent ((call.createdEvent runId).numbered eventId)]

/-- The write of an intake whose key belongs to another payload. -/
def rejected (call : IntakeCall) (run : RunRow) (eventId : Nat) : List Write :=
  [.insertEvent ((call.rejectedEvent run).numbered eventId)]

end IntakeCall

namespace Protocol

variable {protocol : Protocol} {t : Tid} {view : View}

/-- The ways `begin_intake` can end, and what each of them owes. -/
structure BeginsIntake (protocol : Protocol) (t : Tid) (call : IntakeCall)
    (Post : Except Failure (RunRow × Bool) → View → Prop) (view : View) : Prop where
  created : ∀ later, protocol.Later t view later → protocol.Holds later → ∀ input eventId,
    protocol.Allowed t input → later.db.runs input.uuid = none → later.db.keys call.key = none →
    checkAll (call.runRow input.uuid).checks = .ok () →
    checkAll (call.keyRow input.uuid).checks = .ok () →
    protocol.Guarantee t later (later.commit t (call.created input.uuid eventId)) ∧
    protocol.Stays t Post (.ok (call.runRow input.uuid, true))
      (later.commit t (call.created input.uuid eventId))
  replayed : ∀ later, protocol.Later t view later → protocol.Holds later → ∀ existing run,
    later.db.keys call.key = some existing →
    later.db.run? call.principal.tenantId existing.runId = some run →
    existing.payloadHash = call.payloadHash → protocol.Stays t Post (.ok (run, false)) later
  conflicted : ∀ later, protocol.Later t view later → protocol.Holds later → ∀ existing run,
    later.db.keys call.key = some existing →
    later.db.run? call.principal.tenantId existing.runId = some run →
    existing.payloadHash ≠ call.payloadHash →
    ∀ last, protocol.Later t later last → protocol.Holds last → ∀ eventId,
    protocol.Guarantee t last (last.commit t (call.rejected run eventId)) ∧
    protocol.Stays t Post (.error IntakeCall.conflict) (last.commit t (call.rejected run eventId))
  dangling : ∀ later, protocol.Later t view later → protocol.Holds later → ∀ existing,
    later.db.keys call.key = some existing →
    later.db.run? call.principal.tenantId existing.runId = none → ∀ message,
    protocol.Stays t Post (.error (.runtimeError message)) later
  refused : ∀ later, protocol.Later t view later → protocol.Holds later → ∀ input,
    protocol.Allowed t input →
    ((∃ error, checkAll (call.runRow input.uuid).checks = .error error) ∨
      (∃ error, checkAll (call.keyRow input.uuid).checks = .error error) ∨
      (later.db.runs input.uuid).isSome = true) → ∀ error,
    protocol.Stays t Post (.error (.database error)) later

section Intake

variable {call : IntakeCall} {Post : Except Failure (RunRow × Bool) → View → Prop}

theorem BeginsIntake.rely {later : View} (begins : protocol.BeginsIntake t call Post view)
    (relied : protocol.Later t view later) : protocol.BeginsIntake t call Post later where
  created := fun last reliedLast => begins.created last (relied.trans reliedLast)
  replayed := fun last reliedLast => begins.replayed last (relied.trans reliedLast)
  conflicted := fun last reliedLast => begins.conflicted last (relied.trans reliedLast)
  dangling := fun last reliedLast => begins.dangling last (relied.trans reliedLast)
  refused := fun last reliedLast => begins.refused last (relied.trans reliedLast)

/-- What the transaction's outcome is followed by. -/
def finishIntake (outcome : IntakeOutcome) : Routine (RunRow × Bool) :=
  match outcome.conflict with
  | some conflict => raise conflict
  | none => pure (outcome.result, outcome.created)

/-- What the transaction of `begin_intake` owes at its end. -/
def IntakeEnds (protocol : Protocol) (t : Tid)
    (Post : Except Failure (RunRow × Bool) → View → Prop) :
    Except Failure IntakeOutcome → World → Prop :=
  protocol.Ends t fun result last =>
    last.Idle t ∧ protocol.Goes t finishIntake Post result last.view

theorem intakeEnds_error {world : World} {exception : Failure}
    (stays : protocol.Stays t Post (.error exception) world.view) :
    protocol.IntakeEnds t Post (.error exception) world := by
  refine ends_error fun last final relied inv idleFinal same => ?_
  refine settled_of_stays idleFinal (stays_goes_error ?_)
  rw [same]
  exact stays.rely (later_of_rely relied)

theorem safe_replayIntake {world : World} {keys : List KeyId} {existing : KeyRow}
    (begins : protocol.BeginsIntake t call Post world.view)
    (inTx : world.InTx t Tx.idle [] keys)
    (found : world.view.db.keys call.key = some existing) :
    protocol.Safe t (replayIntake call existing) (protocol.IntakeEnds t Post) world := by
  refine safe_selectRun inTx fun later relied inv inTxLater => ?_
  have begins := begins.rely (later_of_rely relied)
  have found := relied.1.view.db.keys _ _ found
  have holds := holds_of_inv inv
  rw [show later.view.db.applyAll Tx.idle.writes = later.view.db from rfl]
  cases run? : later.view.db.run? call.principal.tenantId existing.runId with
  | none =>
      exact safe_raise_ends (intakeEnds_error
        (begins.dangling _ (.refl protocol t _) holds existing found run? _))
  | some run =>
      obtain ⟨stored, tenant⟩ := Db.run?_eq_some.mp run?
      have runId := holds.keyed.runs _ _ stored
      by_cases same : existing.payloadHash = call.payloadHash
      · simp only [ne_eq, same, not_true_eq_false, if_false]
        refine safe_pure_ends (ends_ok inTxLater fun last final reliedLast invLast => ?_)
        refine ⟨.refl invLast.2, fun idleFinal view => settled_of_stays idleFinal ?_⟩
        have unchanged : last.view.commit t Tx.idle.writes = last.view := rfl
        rw [view, unchanged]
        refine stays_goes_ok (serves_pure ?_)
        exact (begins.replayed _ (.refl protocol t _) holds existing run found run? same).rely
          (later_of_rely reliedLast)
      · simp only [ne_eq, same, not_false_eq_true, if_true]
        refine safe_insertEvent inTxLater
          (by simp)
          (fun last reliedLast => ?_)
          fun before after reliedBefore invBefore inTxAfter sameView => ?_
        · have stored : later.view.db.runs run.runId = some run := by rw [runId, stored]
          exact isSome_of_evolves reliedLast.1.view.db stored
        refine safe_pure_ends (ends_ok inTxAfter fun last final reliedLast invLast => ?_)
        have reliedCommit : protocol.Later t later.view last.view := by
          have second := later_of_rely reliedLast
          rw [sameView] at second
          exact (later_of_rely reliedBefore).trans second
        obtain ⟨guarantee, stays⟩ := begins.conflicted _ (.refl protocol t _) holds existing run
          found run? same last.view reliedCommit (holds_of_inv invLast) before.nextEventId
        refine ⟨guarantee, fun idleFinal view => settled_of_stays idleFinal ?_⟩
        rw [view]
        exact stays_goes_ok (serves_raise stays)

/-- What the attempted nested transaction is followed by. -/
def resolveClaim (call : IntakeCall) (result : Except Failure RunRow) : Routine IntakeOutcome :=
  match result with
  | .ok row => pure ⟨row, true, none⟩
  | .error .idempotencyRaceLost => do
      match ← execute (Statement.selectKey call.key) with
      | none => raise (.runtimeError "Idempotency key conflict resolution failed")
      | some existing => replayIntake call existing
  | .error exception => raise exception

/-- After the lost race the winner's key is visible. -/
theorem safe_resolve_lost {world : World} {existing : KeyRow}
    (begins : protocol.BeginsIntake t call Post world.view) (idle : world.Idle t)
    (found : world.view.db.keys call.key = some existing) :
    protocol.Safe t (resolveClaim call (.error .idempotencyRaceLost))
      (protocol.IntakeEnds t Post) world := by
  refine safe_selectKey idle fun later relied inv idleLater => ?_
  have foundLater := relied.1.view.db.keys _ _ found
  change protocol.Safe t (match later.view.db.keys call.key with
    | none => _
    | some existing => replayIntake call existing) _ _
  rw [foundLater]
  exact safe_replayIntake (begins.rely (later_of_rely relied)) idleLater foundLater

theorem safe_resolve_refused {world : World} {error : SqlError}
    (stays : protocol.Stays t Post (.error (.database error)) world.view) :
    protocol.Safe t (resolveClaim call (.error (.database error)))
      (protocol.IntakeEnds t Post) world :=
  safe_raise_ends (intakeEnds_error stays)

/-- What the INSERTs under the savepoint owe at their end. -/
def ClaimEnds (protocol : Protocol) (t : Tid) (call : IntakeCall)
    (Post : Except Failure (RunRow × Bool) → View → Prop) :
    Except Failure RunRow → World → Prop :=
  protocol.NestedEnds t fun result last =>
    protocol.Safe t (resolveClaim call result) (protocol.IntakeEnds t Post) last

section Claim

variable {before after world : World} {input : Input} {tx other : Tx} {writes : List Write}
  {saved : Savepoint} {runs : List RunId} {keys : List KeyId}

/-- A refused INSERT undoes the savepoint and then the transaction. -/
theorem settled_refuseClaim {error : SqlError}
    (inTx : world.InTx t ⟨writes, some saved⟩ runs keys) (empty : Savepoint.Empty saved)
    (stays : protocol.Stays t Post (.error (.database error)) world.view) :
    protocol.discipline.Settled t (protocol.ClaimEnds t call Post) (.error (.database error))
      world := by
  refine settled_nestedEnds (nestedEnds_error inTx empty
    fun last final relied _ _ same later reliedLater _ => ?_)
  refine Discipline.Safe.rely (safe_resolve_refused ?_) reliedLater
  rw [same]
  exact stays.rely (later_of_rely relied)

/-- A lost race undoes the savepoint, and the key is read again. -/
theorem settled_loseClaim {existing : KeyRow}
    (begins : protocol.BeginsIntake t call Post world.view)
    (inTx : world.InTx t ⟨writes, some saved⟩ runs keys) (empty : Savepoint.Empty saved)
    (found : world.view.db.keys call.key = some existing) :
    protocol.discipline.Settled t (protocol.ClaimEnds t call Post) (.error .idempotencyRaceLost)
      world := by
  refine settled_nestedEnds (nestedEnds_error inTx empty
    fun last final relied _ idleFinal same next reliedNext _ => ?_)
  have reliedFinal := later_of_rely relied
  rw [← same] at reliedFinal
  have foundFinal : final.view.db.keys call.key = some existing := by
    rw [same]
    exact relied.1.view.db.keys _ _ found
  exact Discipline.Safe.rely
    (safe_resolve_lost (begins.rely reliedFinal) idleFinal foundFinal) reliedNext

/-- The run and the key of an intake are inserted, and until they are committed the row
locks keep both free for it. -/
structure ClaimedKey (protocol : Protocol) (t : Tid) (call : IntakeCall)
    (Post : Except Failure (RunRow × Bool) → View → Prop) (input : Input) (tx : Tx)
    (world : World) : Prop where
  begins : protocol.BeginsIntake t call Post world.view
  inTx : world.InTx t tx [input.uuid] [call.key]
  fresh : world.view.db.runs input.uuid = none
  unused : world.view.db.keys call.key = none

theorem ClaimedKey.rely (claimed : ClaimedKey protocol t call Post input tx before)
    (relied : protocol.discipline.Rely t before after) :
    ClaimedKey protocol t call Post input tx after where
  begins := claimed.begins.rely (later_of_rely relied)
  inTx := claimed.inTx.rely relied.1
  fresh := (relied.1.run _ ((claimed.inTx.runs _).mpr List.mem_cons_self)).1.trans claimed.fresh
  unused := (relied.1.key _ ((claimed.inTx.keys _).mpr List.mem_cons_self)).trans claimed.unused

theorem ClaimedKey.next (claimed : ClaimedKey protocol t call Post input tx before)
    (view : after.view = before.view) (inTx : after.InTx t other [input.uuid] [call.key]) :
    ClaimedKey protocol t call Post input other after where
  begins := view ▸ claimed.begins
  inTx := inTx
  fresh := view ▸ claimed.fresh
  unused := view ▸ claimed.unused

/-- From the INSERT of the event to the commit. -/
theorem safe_recordClaim
    (claimed : ClaimedKey protocol t call Post input
      ⟨[.insertRun (call.runRow input.uuid), .insertKey (call.keyRow input.uuid)], some saved⟩
      world)
    (allowed : protocol.Allowed t input)
    (checkedRun : checkAll (call.runRow input.uuid).checks = .ok ())
    (checkedKey : checkAll (call.keyRow input.uuid).checks = .ok ()) :
    protocol.Safe t
      (do
        insertEvent (call.createdEvent input.uuid)
        pure (call.runRow input.uuid))
      (protocol.ClaimEnds t call Post) world := by
  refine safe_insertEvent claimed.inTx
    (fun _ => by simp [IntakeCall.createdEvent, eventRow])
    (fun last relied => by
      simp [Db.applyAll, Db.apply, IntakeCall.createdEvent, eventRow, IntakeCall.runRow])
    fun fourth recorded reliedFourth _ inTxRecorded sameRecorded => ?_
  have recordedClaim := (claimed.rely reliedFourth).next sameRecorded inTxRecorded
  refine safe_nested_pure recordedClaim.inTx
    fun fifth released reliedFifth _ inTxReleased sameReleased next reliedNext _ => ?_
  have releasedClaim := (recordedClaim.rely reliedFifth).next sameReleased inTxReleased
  refine Discipline.Safe.rely (safe_pure_ends
    (ends_ok inTxReleased fun last final relied inv => ?_)) reliedNext
  have lastClaim := releasedClaim.rely relied
  obtain ⟨guarantee, stays⟩ := lastClaim.begins.created last.view (.refl protocol t _)
    (holds_of_inv inv) input fourth.nextEventId allowed lastClaim.fresh lastClaim.unused
    checkedRun checkedKey
  refine ⟨guarantee, fun idleFinal view => settled_of_stays idleFinal ?_⟩
  rw [view]
  exact stays_goes_ok (serves_pure stays)

theorem safe_createIntake (begins : protocol.BeginsIntake t call Post world.view)
    (unclaimed : protocol.live → View.Unclaimed world.view t) (idle : world.Idle t) :
    protocol.Safe t (createIntake call) (protocol.IntakeEnds t Post) world := by
  refine safe_uuid4 fun start reliedStart _ input allowed => ?_
  have begins := begins.rely (later_of_rely reliedStart)
  have unclaimed : protocol.live → View.Unclaimed start.view t :=
    fun live => (unclaimed live).later reliedStart.1.view
  have idle : start.Idle t := World.InTx.rely idle reliedStart.1
  change protocol.Safe t (Call.attempt (claimKey call input.uuid) >>= resolveClaim call) _ _
  refine Discipline.Safe.attempt_bind ?_
  refine safe_nestedTransaction idle
    fun first opened saved reliedFirst _ empty inTxOpened sameOpened => ?_
  have begins := begins.rely (later_of_rely reliedFirst)
  have unclaimed : protocol.live → View.Unclaimed first.view t :=
    fun live => (unclaimed live).later reliedFirst.1.view
  rw [← sameOpened] at begins unclaimed
  refine safe_insertRun inTxOpened rfl
    (fun live later relied inv => ?_)
    (fun later error relied inv inTx refused => settled_refuseClaim inTx empty ?_)
    (fun second inserted reliedSecond invSecond checkedRun fresh inTxInserted sameInserted => ?_)
  · rintro (⟨runId, held⟩ | ⟨key, held⟩ | ⟨key, held⟩)
    · simpa using ((inTxOpened.rely relied.1).runs runId).mp held
    · simpa using ((inTxOpened.rely relied.1).keys key).mp held
    · exact (unclaimed live).later relied.1.view key ((inv.1.advisory key t).mp held)
  · refine begins.refused _ (later_of_rely relied) (holds_of_inv inv) input allowed ?_ error
    rcases refused with checked | taken
    · exact .inl ⟨error, checked⟩
    · exact .inr (.inr taken)
  have begins := begins.rely (later_of_rely reliedSecond)
  have unclaimed : protocol.live → View.Unclaimed second.view t :=
    fun live => (unclaimed live).later reliedSecond.1.view
  rw [← sameInserted] at begins unclaimed fresh
  refine safe_insertKey inTxInserted rfl rfl
    (fun live later relied => (unclaimed live).later relied.1.view)
    (fun later error relied inv inTx checked => settled_refuseClaim inTx empty
      (begins.refused _ (later_of_rely relied) (holds_of_inv inv) input allowed
        (.inr (.inl ⟨error, checked⟩)) error))
    (fun later relied inv inTx existing found =>
      settled_loseClaim (begins.rely (later_of_rely relied)) inTx empty found)
    (fun third claimed relied inv checkedKey unused inTx same => ?_)
  have heldRun : inserted.runLock (call.runRow input.uuid).runId = some t :=
    (inTxInserted.runs _).mpr (by simp)
  have free : ClaimedKey protocol t call Post input _ claimed :=
    { begins := same ▸ begins.rely (later_of_rely relied)
      inTx := inTx
      fresh := same ▸ (relied.1.run _ heldRun).1.trans fresh
      unused := same ▸ unused }
  exact safe_recordClaim free allowed checkedRun checkedKey

end Claim

/-- `begin_intake`, whatever the others do. -/
theorem serves_beginIntake (begins : protocol.BeginsIntake t call Post view)
    (unclaimed : protocol.live → View.Unclaimed view t) :
    protocol.Serves t (beginIntake call) Post view := by
  refine serves_bind (serves_transaction fun world idle relied inv => ?_)
  have begins := begins.rely relied
  have unclaimed : protocol.live → View.Unclaimed world.view t :=
    fun live => (unclaimed live).later relied.view
  refine safe_selectKeyForUpdate idle (fun live later reliedLater invLater contended => ?_)
    (fun later reliedLater invLater idleLater absent => ?_)
    (fun later after reliedLater invLater existing found inTx same => ?_)
  · exact World.Idle.not_holdsAny (World.InTx.rely idle reliedLater.1) invLater.1
      ((unclaimed live).later reliedLater.1.view) contended.any
  · exact safe_createIntake (begins.rely (later_of_rely reliedLater))
      (fun live => (unclaimed live).later reliedLater.1.view) idleLater
  · have begins := begins.rely (later_of_rely reliedLater)
    rw [← same] at begins found
    exact safe_replayIntake begins inTx found

end Intake

end Protocol

/-! ## Review -/

namespace ReviewCall

/-- The run after the decision, and the closed run. -/
def decidedRun (call : ReviewCall) (run : RunRow) : RunRow :=
  setState call.action.target call.now run

def closedRun (call : ReviewCall) (run : RunRow) : RunRow :=
  setState .closed call.now (call.decidedRun run)

/-- The writes of a decision. -/
def decided (call : ReviewCall) (run : RunRow) (decidedId closedId : Nat) : List Write :=
  [.insertDecision (call.decisionRow run), .updateRun (call.decidedRun run),
    .insertEvent ((call.decidedEvent run).numbered decidedId),
    .updateRun (call.closedRun run), .insertEvent ((call.closedEvent run).numbered closedId)]

/-- The second half of a decision, from the compare-and-swap that closes the run. -/
def closeReview (call : ReviewCall) (run decided : RunRow) : Routine (Except Failure RunRow) := do
  match ← execute (Statement.updateRun call.principal.tenantId run.runId call.action.target
    decided.stateVersion (setState .closed call.now)) with
  | none => raise (.runtimeError "Locked close transition unexpectedly conflicted")
  | some closed => do
      insertEvent (call.closedEvent run)
      pure (.ok closed)

/-- A decision after its row is inserted. -/
def moveReview (call : ReviewCall) (run : RunRow) : Routine (Except Failure RunRow) := do
  match ← execute (Statement.updateRun call.principal.tenantId run.runId .awaitingHuman
    run.stateVersion (setState call.action.target call.now)) with
  | none => raise (.runtimeError "Locked review transition unexpectedly conflicted")
  | some decided => do
      insertEvent (call.decidedEvent run)
      call.closeReview run decided

/-- The write of a refusal. -/
def rejected (call : ReviewCall) (run : RunRow) (code : String) (eventId : Nat) : List Write :=
  [.insertEvent ((call.rejectedEvent run code).numbered eventId)]

/-- `existing` of `record_review`, as a truth value. -/
def alreadyDecided (call : ReviewCall) (db : Db) : Bool :=
  ((db.decisionsOf call.runId).find?
    (fun decision => decision.tenantId == call.principal.tenantId)).isSome

/-- A run that is not refused awaits its review. -/
theorem awaiting_of_refusal {call : ReviewCall} {run : RunRow} {decided : Bool}
    (accepted : call.refusal run decided = none) : run.state = .awaitingHuman := by
  by_contra other
  unfold ReviewCall.refusal at accepted
  split at accepted
  · simp at accepted
  · simp [other] at accepted

end ReviewCall

theorem setState_sameRun (target : RunState) (now : Timestamp) (row : RunRow) :
    row.SameRun (setState target now row) :=
  ⟨rfl, rfl, rfl, rfl, rfl, rfl, rfl, rfl, rfl, rfl, rfl, rfl, rfl⟩

theorem setDraft_sameRun (draft : Json) (draftHash : String) (now expiresAt : Timestamp)
    (row : RunRow) : row.SameRun (setDraft draft draftHash now expiresAt row) :=
  ⟨rfl, rfl, rfl, rfl, rfl, rfl, rfl, rfl, rfl, rfl, rfl, rfl, rfl⟩

/-- The columns with CHECKs are not touched by a change of state. -/
@[simp] theorem setState_checks (target : RunState) (now : Timestamp) (row : RunRow) :
    (setState target now row).checks = row.checks := rfl

/-- A draft adds one column to check. -/
theorem checked_setDraft {draft : Json} {draftHash : String} {now expiresAt : Timestamp}
    {row : RunRow} (checked : checkAll row.checks = .ok ()) (hex : isHex64 draftHash = true) :
    checkAll (setDraft draft draftHash now expiresAt row).checks = .ok () := by
  have split : (setDraft draft draftHash now expiresAt row).checks =
      row.checks.dropLast ++ [("draft_hash", isHex64 draftHash)] := rfl
  rw [checkAll_eq_ok] at checked ⊢
  rw [split]
  intro check member
  rcases List.mem_append.mp member with old | new
  · exact checked check (List.mem_of_mem_dropLast old)
  · rw [List.mem_singleton] at new
    exact new ▸ hex

theorem find?_decisionsOf (db : Db) (tenantId : String) (runId : RunId) :
    db.decisions.find? (fun decision => decision.runId == runId && decision.tenantId == tenantId) =
      (db.decisionsOf runId).find? (fun decision => decision.tenantId == tenantId) := by
  rw [Db.decisionsOf, List.find?_filter]
  congr 1
  funext decision
  rw [Bool.eq_iff_iff]
  simp

namespace Protocol

variable {protocol : Protocol} {t : Tid} {view : View}

/-- The ways `record_review` can end, and what each of them owes. The run row
and its decisions are the ones of the state it commits in. -/
structure RecordsReview (protocol : Protocol) (t : Tid) (call : ReviewCall)
    (Post : Except Failure RunRow → View → Prop) (view : View) : Prop where
  absent : ∀ later, protocol.Later t view later → protocol.Holds later →
    later.db.run? call.principal.tenantId call.runId = none →
    protocol.Stays t Post (.error (.stockoutOps .notFoundError)) later
  refused : ∀ later, protocol.Later t view later → protocol.Holds later → ∀ run code error,
    later.db.run? call.principal.tenantId call.runId = some run →
    call.refusal run (call.alreadyDecided later.db) = some (code, error) → ∀ eventId,
    protocol.Guarantee t later (later.commit t (call.rejected run code eventId)) ∧
    protocol.Stays t Post (.error error) (later.commit t (call.rejected run code eventId))
  decided : ∀ later, protocol.Later t view later → protocol.Holds later → ∀ run,
    later.db.run? call.principal.tenantId call.runId = some run →
    call.refusal run (call.alreadyDecided later.db) = none →
    later.db.decisionsOf call.runId = [] →
    checkAll (call.decisionRow run).checks = .ok () → ∀ decidedId closedId,
    (∀ event ∈ later.db.transitionsOf call.runId, event.eventId < decidedId) →
    decidedId < closedId →
    protocol.Guarantee t later (later.commit t (call.decided run decidedId closedId)) ∧
    protocol.Stays t Post (.ok (call.closedRun run))
      (later.commit t (call.decided run decidedId closedId))
  invalid : ∀ later, protocol.Later t view later → protocol.Holds later → ∀ run,
    later.db.run? call.principal.tenantId call.runId = some run →
    call.refusal run (call.alreadyDecided later.db) = none →
    ((∃ error, checkAll (call.decisionRow run).checks = .error error) ∨
      later.db.decisionsOf call.runId ≠ []) → ∀ error,
    protocol.Stays t Post (.error (.database error)) later

section Review

variable {call : ReviewCall} {Post : Except Failure RunRow → View → Prop}

theorem RecordsReview.rely {later : View} (records : protocol.RecordsReview t call Post view)
    (relied : protocol.Later t view later) : protocol.RecordsReview t call Post later where
  absent := fun last reliedLast => records.absent last (relied.trans reliedLast)
  refused := fun last reliedLast => records.refused last (relied.trans reliedLast)
  decided := fun last reliedLast => records.decided last (relied.trans reliedLast)
  invalid := fun last reliedLast => records.invalid last (relied.trans reliedLast)

/-- What the transaction of `record_review` owes at its end. -/
def ReviewEnds (protocol : Protocol) (t : Tid) (Post : Except Failure RunRow → View → Prop) :
    Except Failure (Except Failure RunRow) → World → Prop :=
  protocol.Ends t (fun result last => last.Idle t ∧ protocol.Goes t lift Post result last.view)

theorem reviewEnds_error {world : World} {exception : Failure}
    (stays : protocol.Stays t Post (.error exception) world.view) :
    protocol.ReviewEnds t Post (.error exception) world := by
  refine ends_error fun last final relied inv idleFinal same => ?_
  refine settled_of_stays idleFinal (stays_goes_error ?_)
  rw [same]
  exact stays.rely (later_of_rely relied)

/-- What the row lock keeps from statement to statement. -/
structure LockedRun (world : World) (t : Tid) (runId : RunId) (run : RunRow)
    (transitions : List EventRow) (decisions : List DecisionRow) : Prop where
  held : world.runLock runId = some t
  run : world.view.db.runs runId = some run
  transitions : world.view.db.transitionsOf runId = transitions
  decisions : world.view.db.decisionsOf runId = decisions

theorem LockedRun.rely {before after : World} {runId : RunId} {run : RunRow}
    {transitions : List EventRow} {decisions : List DecisionRow}
    (locked : LockedRun before t runId run transitions decisions) (relied : before.Rely t after) :
    LockedRun after t runId run transitions decisions := by
  obtain ⟨runs, events, rows⟩ := relied.run runId locked.held
  exact ⟨(relied.runLock runId).mpr locked.held, runs.trans locked.run,
    events.trans locked.transitions, rows.trans locked.decisions⟩

theorem LockedRun.next {before after : World} {runId : RunId} {run : RunRow} {tx : Tx}
    {runs : List RunId} {keys : List KeyId}
    {transitions : List EventRow} {decisions : List DecisionRow}
    (locked : LockedRun before t runId run transitions decisions)
    (view : after.view = before.view) (inTx : after.InTx t tx runs keys)
    (member : runId ∈ runs) : LockedRun after t runId run transitions decisions where
  held := (inTx.runs runId).mpr member
  run := by rw [view]; exact locked.run
  transitions := by rw [view]; exact locked.transitions
  decisions := by rw [view]; exact locked.decisions

/-- A transaction that decides a review: the run is locked and not refused, and these are
its writes so far and the runs that it has locked. -/
structure Deciding (protocol : Protocol) (t : Tid) (call : ReviewCall)
    (Post : Except Failure RunRow → View → Prop) (run : RunRow) (transitions : List EventRow)
    (decisions : List DecisionRow) (writes : List Write) (runs : List RunId) (world : World) :
    Prop where
  records : protocol.RecordsReview t call Post world.view
  inTx : world.InTx t ⟨writes, none⟩ runs []
  locked : LockedRun world t call.runId run transitions decisions
  runId : run.runId = call.runId
  tenant : run.tenantId = call.principal.tenantId
  accepted : call.refusal run (decisions.find?
    (fun decision => decision.tenantId == call.principal.tenantId)).isSome = none

section Deciding

variable {before after world : World} {run : RunRow} {transitions : List EventRow}
  {decisions : List DecisionRow} {writes wrote : List Write} {runs others : List RunId}
  {decidedId closedId : Nat}

theorem Deciding.rely
    (deciding : Deciding protocol t call Post run transitions decisions writes runs before)
    (relied : protocol.discipline.Rely t before after) :
    Deciding protocol t call Post run transitions decisions writes runs after where
  records := deciding.records.rely (later_of_rely relied)
  inTx := deciding.inTx.rely relied.1
  locked := deciding.locked.rely relied.1
  runId := deciding.runId
  tenant := deciding.tenant
  accepted := deciding.accepted

/-- A statement of the transaction adds to its writes only. -/
theorem Deciding.next
    (deciding : Deciding protocol t call Post run transitions decisions writes runs before)
    (view : after.view = before.view) (inTx : after.InTx t ⟨wrote, none⟩ others [])
    (held : call.runId ∈ others) :
    Deciding protocol t call Post run transitions decisions wrote others after where
  records := view ▸ deciding.records
  inTx := inTx
  locked := deciding.locked.next view inTx held
  runId := deciding.runId
  tenant := deciding.tenant
  accepted := deciding.accepted

theorem Deciding.found
    (deciding : Deciding protocol t call Post run transitions decisions writes runs world) :
    world.view.db.run? call.principal.tenantId call.runId = some run :=
  Db.run?_eq_some.mpr ⟨deciding.locked.run, deciding.tenant⟩

theorem Deciding.stillAccepted
    (deciding : Deciding protocol t call Post run transitions decisions writes runs world) :
    call.refusal run (call.alreadyDecided world.view.db) = none := by
  rw [ReviewCall.alreadyDecided, deciding.locked.decisions]
  exact deciding.accepted

/-- The checks of the locked run hold, and no change of its state touches them. -/
theorem Deciding.checked
    (deciding : Deciding protocol t call Post run transitions decisions writes runs world)
    (inv : protocol.discipline.Inv world) : checkAll run.checks = .ok () :=
  inv.1.keyed.checked _ _ deciding.locked.run

/-- The commit. -/
theorem safe_commitDecided
    (deciding : Deciding protocol t call Post run transitions []
      (call.decided run decidedId closedId) runs world)
    (checked : checkAll (call.decisionRow run).checks = .ok ())
    (below : ∀ event ∈ transitions, event.eventId < decidedId) (numbered : decidedId < closedId) :
    protocol.Safe t (pure (.ok (call.closedRun run))) (protocol.ReviewEnds t Post) world := by
  refine safe_pure_ends (ends_ok deciding.inTx fun last final relied inv => ?_)
  have decidingLast := deciding.rely relied
  obtain ⟨guarantee, stays⟩ := deciding.records.decided last.view (later_of_rely relied)
    (holds_of_inv inv) run decidingLast.found decidingLast.stillAccepted
    decidingLast.locked.decisions checked decidedId closedId
    (fun event member => below event (decidingLast.locked.transitions ▸ member)) numbered
  refine ⟨guarantee, fun idleFinal view => settled_of_stays idleFinal ?_⟩
  rw [view]
  exact stays_goes_ok (serves_lift stays)

/-- The second compare-and-swap sees the decided run of this transaction, and closes it. -/
theorem safe_closeReview
    (deciding : Deciding protocol t call Post run transitions []
      [.insertDecision (call.decisionRow run), .updateRun (call.decidedRun run),
        .insertEvent ((call.decidedEvent run).numbered decidedId)] runs world)
    (held : call.runId ∈ runs) (checked : checkAll (call.decisionRow run).checks = .ok ())
    (below : ∀ event ∈ transitions, event.eventId < decidedId) :
    protocol.Safe t (call.closeReview run (call.decidedRun run)) (protocol.ReviewEnds t Post)
      world := by
  have own : ∀ later : World, (later.view.db.applyAll
      [.insertDecision (call.decisionRow run), .updateRun (call.decidedRun run),
        .insertEvent ((call.decidedEvent run).numbered decidedId)]).run?
          call.principal.tenantId run.runId = some (call.decidedRun run) := by
    intro later
    refine Db.run?_eq_some.mpr ⟨?_, deciding.tenant⟩
    simp [Db.applyAll, Db.apply, ReviewCall.decidedRun, setState]
  refine safe_updateRun deciding.inTx (setState_sameRun .closed call.now)
    (fun later relied inv other found => ?_)
    (fun later relied inv => .inl (deciding.runId ▸ held))
    (fun later relied inv inTxLater missed => ?_)
    (fun later relied inv inTxLater other error found refused => ?_)
    (fun later closed relied inv other found _ _ checkedClosed inTx same => ?_)
  · obtain rfl := Option.some.inj ((own later).symm.trans found)
    refine ⟨rfl, run, ?_, setState_sameRun _ _ _⟩
    rw [deciding.runId]
    exact (deciding.rely relied).locked.run
  · exact absurd ⟨rfl, rfl⟩ (missed _ (own later))
  · obtain rfl := Option.some.inj ((own later).symm.trans found)
    rw [setState_checks, ReviewCall.decidedRun, setState_checks,
      (deciding.rely relied).checked inv] at refused
    exact absurd refused (by simp)
  obtain rfl := Option.some.inj ((own later).symm.trans found)
  have deciding := (deciding.rely relied).next same inTx (List.mem_cons_of_mem _ held)
  refine safe_insertEvent deciding.inTx
    (fun _ => by simp [ReviewCall.closedEvent, eventRow])
    (fun later relied => by
      simp [Db.applyAll, Db.apply, ReviewCall.closedEvent, eventRow, setState,
        ReviewCall.decidedRun])
    fun fifth finished reliedFifth invFifth inTxFinished sameFinished => ?_
  have numbered : decidedId < fifth.nextEventId := by
    have inTx := deciding.inTx.rely reliedFifth.1
    refine (invFifth.1.pending t
      (.insertEvent ((call.decidedEvent run).numbered decidedId)) ?_).2
    simp [inTx.tx]
  exact safe_commitDecided ((deciding.rely reliedFifth).next sameFinished inTxFinished
    (List.mem_cons_of_mem _ held)) checked below numbered

/-- The row is the locked one, so the first compare-and-swap matches it. -/
theorem safe_moveReview
    (deciding : Deciding protocol t call Post run transitions []
      [.insertDecision (call.decisionRow run)] runs world)
    (held : call.runId ∈ runs) (checked : checkAll (call.decisionRow run).checks = .ok ()) :
    protocol.Safe t (call.moveReview run) (protocol.ReviewEnds t Post) world := by
  have own : ∀ {later : World} {runId : RunId}, (later.view.db.applyAll
      [.insertDecision (call.decisionRow run)]).run? call.principal.tenantId runId =
      later.view.db.run? call.principal.tenantId runId := fun {_ _} => rfl
  refine safe_updateRun deciding.inTx (setState_sameRun call.action.target call.now)
    (fun later relied inv row found => ?_)
    (fun later relied inv => .inl (deciding.runId ▸ held))
    (fun later relied inv inTxLater missed => ?_)
    (fun later relied inv inTxLater row error found refused => ?_)
    (fun later updated relied inv row found _ _ _ inTx same => ?_)
  · rw [own] at found
    obtain ⟨stored, -⟩ := Db.run?_eq_some.mp found
    exact ⟨inv.1.keyed.runs _ _ stored, row, stored, .refl row⟩
  · refine absurd ⟨call.awaiting_of_refusal deciding.accepted, rfl⟩ (missed run ?_)
    rw [own, deciding.runId]
    exact (deciding.rely relied).found
  · rw [own] at found
    have passes := inv.1.keyed.checked _ _ (Db.run?_eq_some.mp found).1
    rw [setState_checks, passes] at refused
    exact absurd refused (by simp)
  obtain rfl : row = run := by
    rw [own, deciding.runId, (deciding.rely relied).found] at found
    exact (Option.some.inj found).symm
  have deciding := (deciding.rely relied).next same inTx (List.mem_cons_of_mem _ held)
  refine safe_insertEvent deciding.inTx
    (fun _ => by simp [ReviewCall.decidedEvent, eventRow])
    (fun later relied => by
      simp [Db.applyAll, Db.apply, ReviewCall.decidedEvent, eventRow, setState])
    fun third recorded reliedThird invThird inTxRecorded sameRecorded => ?_
  have decidingThird := deciding.rely reliedThird
  refine safe_closeReview (decidingThird.next sameRecorded inTxRecorded
    (List.mem_cons_of_mem _ held)) (List.mem_cons_of_mem _ held) checked fun event member => ?_
  rw [← decidingThird.locked.transitions] at member
  exact invThird.1.events event (List.mem_of_mem_filter member)

/-- From the lock to the commit of a decision. -/
theorem safe_decideReview
    (deciding : Deciding protocol t call Post run transitions decisions [] [call.runId] world) :
    protocol.Safe t (decideReview call run) (protocol.ReviewEnds t Post) world := by
  have ofRun : (call.decisionRow run).runId = call.runId := deciding.runId
  refine safe_insertDecision (ofRun ▸ deciding.inTx)
    (fun later relied => ?_) (fun later error relied inv inTxLater refused => ?_)
    (fun first inserted relied inv checked unused inTx same => ?_)
  · rw [ofRun, (deciding.rely relied).locked.run]
    rfl
  · have decidingLater := deciding.rely relied
    refine settled_ends (reviewEnds_error (decidingLater.records.invalid _
      (.refl protocol t _) (holds_of_inv inv) run decidingLater.found
      decidingLater.stillAccepted ?_ error))
    rw [ofRun] at refused
    exact refused.imp (fun checked => ⟨error, checked⟩) id
  rw [ofRun] at unused
  obtain rfl : [] = decisions := unused.symm.trans (deciding.rely relied).locked.decisions
  have held : call.runId ∈ [(call.decisionRow run).runId, (call.decisionRow run).runId] := by
    rw [ofRun]
    exact List.mem_cons_self
  exact safe_moveReview ((deciding.rely relied).next same inTx held) held checked

end Deciding

/-- `record_review`, whatever the others do. -/
theorem serves_recordReview (records : protocol.RecordsReview t call Post view)
    (unclaimed : protocol.live → View.Unclaimed view t) :
    protocol.Serves t (recordReview call) Post view := by
  refine serves_bind (serves_transaction fun world idle relied inv => ?_)
  have records := records.rely relied
  refine safe_selectRunForUpdate idle (fun live later reliedLater invLater contended => ?_)
    (fun later reliedLater invLater idleLater absent => ?_)
    (fun first locking reliedFirst invFirst run found inTx same => ?_)
  · have unclaimedLater :=
      (unclaimed live).later (relied.trans (later_of_rely reliedLater)).view
    exact World.Idle.not_holdsAny (World.InTx.rely idle reliedLater.1) invLater.1
      unclaimedLater contended.any
  · exact safe_raise_ends (reviewEnds_error ((records.rely (later_of_rely reliedLater)).absent _
      (.refl protocol t _) (holds_of_inv invLater) absent))
  obtain ⟨stored, tenant⟩ := Db.run?_eq_some.mp found
  have runId := invFirst.1.keyed.runs _ _ stored
  have records := records.rely (later_of_rely reliedFirst)
  have locked : LockedRun locking t call.runId run (first.view.db.transitionsOf call.runId)
      (first.view.db.decisionsOf call.runId) :=
    ⟨(inTx.runs _).mpr (by simp), by rw [same]; exact stored, by rw [same], by rw [same]⟩
  rw [← same] at records
  refine safe_selectDecision inTx fun second reliedSecond invSecond inTxSecond => ?_
  have records := records.rely (later_of_rely reliedSecond)
  have locked := locked.rely reliedSecond.1
  have existing : (second.view.db.applyAll Tx.idle.writes).decisions.find?
      (fun decision => decision.runId == run.runId &&
        decision.tenantId == call.principal.tenantId) =
      (first.view.db.decisionsOf call.runId).find?
        (fun decision => decision.tenantId == call.principal.tenantId) := by
    rw [runId, ← locked.decisions]
    exact find?_decisionsOf second.view.db call.principal.tenantId call.runId
  rw [existing]
  cases refusal : call.refusal run ((first.view.db.decisionsOf call.runId).find?
      (fun decision => decision.tenantId == call.principal.tenantId)).isSome with
  | none => exact safe_decideReview ⟨records, inTxSecond, locked, runId, tenant, refusal⟩
  | some refused =>
      obtain ⟨code, error⟩ := refused
      refine safe_insertEvent inTxSecond
        (by simp)
        (fun later reliedLater => ?_)
        fun third recorded reliedThird invThird inTxRecorded sameRecorded => ?_
      · have := (locked.rely reliedLater.1).run
        simp [Db.applyAll, Tx.idle, ReviewCall.rejectedEvent, eventRow, runId, this]
      have records := records.rely (later_of_rely reliedThird)
      have locked := (locked.rely reliedThird.1).next sameRecorded inTxRecorded (by simp)
      rw [← sameRecorded] at records
      refine safe_pure_ends (ends_ok inTxRecorded fun last final reliedLast invLast => ?_)
      have locked := locked.rely reliedLast.1
      obtain ⟨guarantee, stays⟩ := records.refused last.view (later_of_rely reliedLast)
        (holds_of_inv invLast) run code error (Db.run?_eq_some.mpr ⟨locked.run, tenant⟩)
        (by rw [ReviewCall.alreadyDecided, locked.decisions]; exact refusal) third.nextEventId
      refine ⟨guarantee, fun idleFinal view => settled_of_stays idleFinal ?_⟩
      rw [view]
      exact stays_goes_ok (serves_lift stays)

end Review

end Protocol

end StockoutOps.Investigation
