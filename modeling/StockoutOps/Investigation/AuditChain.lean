import StockoutOps.Foundation.TransitionLog
import StockoutOps.Investigation.Clients

/-!
Contract: the audit log of every run replays to its state.

Owns: the chain that the transitions of a run form under any number of callers
of the repository, and the fold of `InvestigationService.audit` over it.

Does not own: which transitions the service performs; here any caller may ask
for any transition, with any record of the run it ever read.
-/

namespace StockoutOps.Investigation

open StockoutOps.Sql StockoutOps.Foundation.Interleaving
open StockoutOps.Foundation.TransitionLog

/-- Any calls in any order with any clock; callers may crash anywhere. -/
abbrev repositoryClients : System RepositoryCall Tid Input World (Except Failure RepositoryReply) :=
  clients runRepository (fun _ _ => True) (fun _ _ => True) True

/-! ## The chain -/

/-- The edges of the audit log: the creation, and `TRANSITIONS`. -/
def AuditEdge : Option RunState → Option RunState → Prop
  | none, some target => target = .created
  | some current, some target => canTransition current target = true
  | _, none => False

/-- The transitions of a run, in the order of their event numbers, lead from
nothing through `created` to the state of its row. -/
structure AuditChain (log : List EventRow) (run : RunRow) : Prop where
  increasing : log.Pairwise (fun left right => left.eventId < right.eventId)
  chain : Chain EventRow.fromState EventRow.toState AuditEdge none log (some run.state)
  length : log.length = run.stateVersion + 1
  tenant : ∀ event ∈ log, event.tenantId = run.tenantId

/-- `replayed` of `InvestigationService.audit`. -/
def replayedState (events : List EventRow) : Option RunState :=
  events.foldl (fun replayed event => if event.genuine then event.toState else replayed) none

theorem AuditChain.created {run : RunRow} {event : EventRow} (fromState : event.fromState = none)
    (toState : event.toState = some .created) (state : run.state = .created)
    (version : run.stateVersion = 0) (tenant : event.tenantId = run.tenantId) :
    AuditChain [event] run where
  increasing := List.pairwise_singleton _ _
  chain := ⟨fromState, by rw [toState]; rfl, by rw [toState, state]; rfl⟩
  length := by simp [version]
  tenant := by simpa using tenant

theorem AuditChain.snoc {log : List EventRow} {old new : RunRow} {event : EventRow}
    (chain : AuditChain log old) (fromState : event.fromState = some old.state)
    (toState : event.toState = some new.state)
    (allowed : canTransition old.state new.state = true)
    (version : new.stateVersion = old.stateVersion + 1) (sameRun : old.SameRun new)
    (above : ∀ earlier ∈ log, earlier.eventId < event.eventId)
    (tenant : event.tenantId = old.tenantId) : AuditChain (log ++ [event]) new where
  increasing := List.pairwise_append.mpr
    ⟨chain.increasing, List.pairwise_singleton _ _, by simpa using above⟩
  chain := by
    rw [← toState]
    exact chain.chain.snoc fromState (by rw [toState]; exact allowed)
  length := by simp [chain.length, version]
  tenant := by
    intro earlier member
    rw [sameRun.tenantId]
    rcases List.mem_append.mp member with old | new
    · exact chain.tenant earlier old
    · rw [List.mem_singleton.mp new, tenant]

/-! ## The invariant -/

structure AuditInv (db : Db) : Prop where
  chains : ∀ runId run, db.runs runId = some run → AuditChain (db.transitionsOf runId) run
  unborn : ∀ runId, db.runs runId = none → db.transitionsOf runId = []

theorem AuditInv.empty : AuditInv Db.empty := ⟨fun _ _ => nofun, fun _ _ => rfl⟩

/-- The transitions of a run after one more event. -/
theorem transitionsOf_append {db after : Db} {event : EventRow}
    (events : after.events = db.events ++ [event]) (runId : RunId) :
    after.transitionsOf runId =
      if event.runId = runId ∧ event.genuine = true then db.transitionsOf runId ++ [event]
      else db.transitionsOf runId := by
  unfold Db.transitionsOf
  rw [events, List.filter_append]
  split
  · rename_i counts
    simp [counts]
  · rename_i skipped
    have : (event.runId == runId && event.genuine) = false := by
      simpa using fun same => by simpa [same] using skipped
    simp [this]

namespace AuditInv

variable {db after : Db}

/-- A refusal only adds an event that is no transition. -/
theorem refused {event : EventRow} (inv : AuditInv db) (runs : after.runs = db.runs)
    (events : after.events = db.events ++ [event]) (still : event.genuine = false) :
    AuditInv after := by
  have same : ∀ runId, after.transitionsOf runId = db.transitionsOf runId := by
    intro runId
    simp [transitionsOf_append events, still]
  refine ⟨fun runId run found => ?_, fun runId absent => ?_⟩
  · rw [same]
    exact inv.chains runId run (by rw [← runs, found])
  · rw [same]
    exact inv.unborn runId (by rw [← runs, absent])

/-- One run takes a new row together with the transition that leads to it. -/
theorem extended (inv : AuditInv db) (run : RunRow) (event : EventRow)
    (runs : after.runs = Function.update db.runs run.runId (some run))
    (events : after.events = db.events ++ [event]) (runId : event.runId = run.runId)
    (chain : event.genuine = true ∧ AuditChain (db.transitionsOf run.runId ++ [event]) run) :
    AuditInv after := by
  have others : ∀ other, other ≠ run.runId →
      after.transitionsOf other = db.transitionsOf other := by
    intro other different
    rw [transitionsOf_append events, if_neg]
    rintro ⟨same, -⟩
    exact different (same.symm.trans runId)
  refine ⟨fun other row found => ?_, fun other absent => ?_⟩
  · by_cases same : other = run.runId
    · subst same
      obtain rfl : run = row := by simpa [runs] using found
      rw [transitionsOf_append events, if_pos ⟨runId, chain.1⟩]
      exact chain.2
    · rw [others other same]
      exact inv.chains other row (by simpa [runs, Function.update_of_ne same] using found)
  · by_cases same : other = run.runId
    · subst same
      simp [runs] at absent
    · rw [others other same]
      exact inv.unborn other (by simpa [runs, Function.update_of_ne same] using absent)

theorem created (inv : AuditInv db) {call : IntakeCall} {runId : RunId} {eventId : Nat}
    (fresh : db.runs runId = none) : AuditInv (db.applyAll (call.created runId eventId)) := by
  refine inv.extended (call.runRow runId) ((call.createdEvent runId).numbered eventId)
    rfl rfl rfl ⟨rfl, ?_⟩
  change AuditChain (db.transitionsOf runId ++ _) _
  rw [inv.unborn runId fresh]
  exact AuditChain.created rfl rfl rfl rfl rfl

/-- The two writes of a compare-and-swap. -/
theorem moved (inv : AuditInv db) (old new : RunRow) (event : EventRow)
    (found : db.runs old.runId = some old) (sameRun : old.SameRun new)
    (fromState : event.fromState = some old.state) (toState : event.toState = some new.state)
    (allowed : canTransition old.state new.state = true)
    (version : new.stateVersion = old.stateVersion + 1)
    (above : ∀ earlier ∈ db.transitionsOf old.runId, earlier.eventId < event.eventId)
    (runId : event.runId = old.runId) (tenant : event.tenantId = old.tenantId) :
    AuditInv (db.applyAll [.updateRun new, .insertEvent event]) := by
  have genuine : event.genuine = true := by
    simpa [EventRow.genuine, fromState, toState] using (ne_of_canTransition allowed).symm
  refine inv.extended new event rfl rfl (runId.trans sameRun.runId.symm) ⟨genuine, ?_⟩
  rw [sameRun.runId]
  exact (inv.chains _ _ found).snoc fromState toState allowed version sameRun above tenant

end AuditInv

/-- Every decision state can be reached from `awaiting_human` and closed. -/
theorem canTransition_target (action : ReviewAction) :
    canTransition .awaitingHuman action.target = true ∧
      canTransition action.target .closed = true := by
  cases action <;> decide

theorem AuditInv.decided {db : Db} (inv : AuditInv db) {call : ReviewCall} {run : RunRow}
    {decidedId closedId : Nat} (found : db.runs run.runId = some run)
    (tenant : run.tenantId = call.principal.tenantId) (awaits : run.state = .awaitingHuman)
    (above : ∀ event ∈ db.transitionsOf run.runId, event.eventId < decidedId)
    (later : decidedId < closedId) :
    AuditInv (db.applyAll (call.decided run decidedId closedId)) := by
  obtain ⟨decides, closes⟩ := canTransition_target call.action
  let inserted := db.apply (.insertDecision (call.decisionRow run))
  have invInserted : AuditInv inserted := ⟨inv.chains, inv.unborn⟩
  have events : (inserted.applyAll [.updateRun (call.decidedRun run),
      .insertEvent ((call.decidedEvent run).numbered decidedId)]).events =
        inserted.events ++ [(call.decidedEvent run).numbered decidedId] := rfl
  have invDecided := invInserted.moved run (call.decidedRun run)
    ((call.decidedEvent run).numbered decidedId) found (setState_sameRun _ _ _)
    (by rw [awaits]; rfl) rfl (by rw [awaits]; exact decides) rfl above rfl tenant.symm
  refine invDecided.moved (call.decidedRun run) (call.closedRun run)
    ((call.closedEvent run).numbered closedId) ?_ (setState_sameRun _ _ _)
    rfl rfl closes rfl ?_ rfl tenant.symm
  · exact Function.update_self _ _ _
  · intro earlier member
    rw [transitionsOf_append events] at member
    split at member
    · rcases List.mem_append.mp member with old | new
      · exact Nat.lt_trans (above earlier old) later
      · rw [List.mem_singleton.mp new]
        exact later
    · exact Nat.lt_trans (above earlier member) later

/-! ## The calls keep it -/

/-- Nobody relies on anything but the locks of its open transaction. -/
def auditProtocol : Protocol where
  Inv := fun view => AuditInv view.db
  Rely := fun _ _ _ => True
  Allowed := fun _ _ => True
  live := False
  input := exists_input
  refl := fun _ _ => trivial
  trans := fun _ _ _ _ _ _ => trivial

section Calls

variable {t : Tid} {view : View} {ρ : Type}

abbrev Ended (_ : Except Failure ρ) (_ : View) : Prop := True

theorem audit_guarantee {before after : View} (inv : AuditInv after.db) :
    auditProtocol.Guarantee t before after :=
  ⟨inv, fun _ _ => trivial⟩

theorem audit_beginIntake (call : IntakeCall) :
    auditProtocol.Serves t (beginIntake call) Ended view := by
  refine Protocol.serves_beginIntake ⟨?_, ?_, ?_, ?_, ?_⟩ False.elim
  · intro later _ holds input eventId _ fresh _ _ _
    exact ⟨audit_guarantee (holds.inv.created fresh), fun _ _ _ => trivial⟩
  · exact fun _ _ _ _ _ _ _ _ _ _ _ => trivial
  · intro later _ _ existing run _ _ _ last _ holds eventId
    exact ⟨audit_guarantee (holds.inv.refused rfl rfl (by simp)), fun _ _ _ => trivial⟩
  · exact fun _ _ _ _ _ _ _ _ _ _ => trivial
  · exact fun _ _ _ _ _ _ _ _ _ _ => trivial

theorem audit_appendRejectedControl (principal : Principal) (runId : RunId) (code : String)
    (now : Timestamp) :
    auditProtocol.Serves t (appendRejectedControl principal runId code now) Ended view := by
  refine Protocol.serves_appendRejectedControl (fun _ _ _ _ _ _ _ => trivial) ?_
  intro later _ _ run _ last _ holds eventId
  exact ⟨audit_guarantee (holds.inv.refused rfl rfl (by simp)), fun _ _ _ => trivial⟩

/-- A refused compare-and-swap leaves its rejection event and raises. -/
theorem audit_missed (principal : Principal) (runId : RunId) (code : String) (now : Timestamp)
    (exception : Failure) :
    auditProtocol.Serves t
      (do
        appendRejectedControl principal runId code now
        raise exception) (Ended (ρ := ρ)) view := by
  refine Protocol.serves_rejectControl (fun _ _ _ _ _ _ _ => trivial) ?_
  intro later _ _ run _ last _ holds eventId
  exact ⟨audit_guarantee (holds.inv.refused rfl rfl (by simp)), fun _ _ _ => trivial⟩

theorem audit_compareAndSwap {principal : Principal} {run : RunRow} {move : Move}
    {now : Timestamp} (same : ∀ row : RunRow, row.SameRun (move.set row))
    (state : ∀ row, (move.set row).state = move.target)
    (version : ∀ row, (move.set row).stateVersion = row.stateVersion + 1) :
    auditProtocol.Serves t (compareAndSwap principal run move now) Ended view := by
  refine Protocol.serves_compareAndSwap same False.elim ?_
    (fun _ _ _ _ _ _ _ _ _ _ => trivial)
    (fun later _ _ _ => audit_missed principal run.runId _ now _)
    (fun _ => audit_missed principal run.runId _ now _)
  intro later _ holds row eventId allowed found tenant stateNow _ _ above
  have rowId := holds.keyed.runs _ _ found
  refine ⟨audit_guarantee (holds.inv.moved row _ _ ?_ (same row) ?_ ?_ ?_ (version row) ?_
    rowId.symm tenant.symm), fun _ _ _ => trivial⟩
  · rw [rowId, found]
  · simp [Move.event, eventRow, EventRow.numbered, stateNow]
  · simp [Move.event, eventRow, EventRow.numbered, state]
  · rw [state, stateNow, allowed]
  · rw [rowId]
    exact above

theorem audit_recordReview (call : ReviewCall) :
    auditProtocol.Serves t (recordReview call) Ended view := by
  refine Protocol.serves_recordReview ⟨?_, ?_, ?_, ?_⟩ False.elim
  · exact fun _ _ _ _ _ _ _ => trivial
  · intro later _ holds run code error _ _ eventId
    exact ⟨audit_guarantee (holds.inv.refused rfl rfl (by simp)), fun _ _ _ => trivial⟩
  · intro later _ holds run found accepted _ _ decidedId closedId above order
    obtain ⟨stored, tenant⟩ := Db.run?_eq_some.mp found
    have runId := holds.keyed.runs _ _ stored
    rw [← runId] at stored above
    exact ⟨audit_guarantee (holds.inv.decided stored tenant (call.awaiting_of_refusal accepted)
      above order), fun _ _ _ => trivial⟩
  · exact fun _ _ _ _ _ _ _ _ _ _ _ => trivial

end Calls

theorem audit_accepts :
    auditProtocol.Accepts runRepository (fun _ _ => True) (fun _ _ => True) True
      (fun _ _ => True) (fun _ _ _ _ => True) where
  allowed := fun _ _ _ => trivial
  fresh := fun _ _ _ _ _ _ => trivial
  calls := by
    intro t call view _ _ _
    cases call with
    | beginIntake call => exact Protocol.serves_map (audit_beginIntake call)
    | transition principal run target eventType now payload =>
        exact Protocol.serves_map (audit_compareAndSwap (setState_sameRun target now)
          (fun _ => rfl) (fun _ => rfl))
    | setDraftAndTransition provenance principal run draft draftHash now expiresAt =>
        exact Protocol.serves_map (audit_compareAndSwap
          (setDraft_sameRun draft draftHash now expiresAt) (fun _ => rfl) (fun _ => rfl))
    | recordReview call => exact Protocol.serves_map (audit_recordReview call)
    | appendRejectedControl principal runId code now =>
        exact Protocol.serves_map (audit_appendRejectedControl principal runId code now)
  endClaim := fun _ _ _ _ holds => ⟨holds.inv, fun _ => trivial⟩

/-! ## The log replays -/

/-- What `audit` reads of a run contains its transitions in their order. -/
theorem AuditChain.auditEvents {db : Db} {run : RunRow} {runId : RunId}
    (chain : AuditChain (db.transitionsOf runId) run) :
    (db.auditEvents run.tenantId runId).filter EventRow.genuine = db.transitionsOf runId := by
  have same : (db.events.filter (fun event =>
      event.runId == runId && event.tenantId == run.tenantId)).filter EventRow.genuine =
        db.transitionsOf runId := by
    rw [List.filter_filter]
    refine List.filter_congr fun event member => ?_
    by_cases counts : event.runId = runId ∧ event.genuine = true
    · obtain ⟨sameRun, genuine⟩ := counts
      have tenant := chain.tenant event (by simp [Db.transitionsOf, member, sameRun, genuine])
      simp [sameRun, tenant]
    · cases genuine : event.genuine with
      | false => simp
      | true =>
          have sameRun : event.runId ≠ runId := fun same => counts ⟨same, genuine⟩
          simp [sameRun]
  rw [Db.auditEvents, filter_mergeSort (by rw [same]; exact chain.increasing), same]

theorem AuditChain.replayed {db : Db} {run : RunRow} {runId : RunId}
    (chain : AuditChain (db.transitionsOf runId) run) :
    replayedState (db.auditEvents run.tenantId runId) = some run.state := by
  rw [replayedState, foldl_skip, chain.auditEvents]
  exact chain.chain.replay

/-- In every committed state the transitions of a run, in the order of their
numbers, form a chain along `TRANSITIONS` from its creation to its state, and
`audit` replays them to that state. -/
theorem audit_log_replays {pool : Clients RepositoryCall RepositoryReply}
    (reaches : Reaches repositoryClients (Pool.start World.initial) pool) (runId : RunId)
    (run : RunRow) (found : pool.state.view.db.runs runId = some run) :
    AuditChain ((pool.state.view.db.auditEvents run.tenantId runId).filter EventRow.genuine) run ∧
      (pool.state.view.db.auditEvents run.tenantId runId).filter EventRow.genuine =
        pool.state.view.db.transitionsOf runId ∧
      replayedState (pool.state.view.db.auditEvents run.tenantId runId) = some run.state := by
  have holds := audit_accepts.holds AuditInv.empty (fun _ => trivial) reaches
  have chain : AuditChain (pool.state.view.db.transitionsOf runId) run :=
    holds.inv.chains runId run found
  exact ⟨by rw [chain.auditEvents]; exact chain, chain.auditEvents, chain.replayed⟩

/-! ### A refusal after a transition -/

/-- An intake, the start of its run, and a refused control. -/
def refusedCalls : List RepositoryCall :=
  [.beginIntake restockIntake,
    .transition restockIntake.principal (restockIntake.runRow 7) .validating "validation_started" 3
      (.obj []),
    .appendRejectedControl restockIntake.principal 7 "REVIEWER_ROLE_REQUIRED" 3]

/-- The states that the events name. -/
def namedStates (db : Db) : List (Option RunState × Option RunState) :=
  db.events.map fun event => (event.fromState, event.toState)

theorem refusedCalls_events :
    (repositoryClients.inTurn
        (fun _ => ⟨3, 7, fun _ => .error .assertionError, fun _ => .error .assertionError⟩) 0
        refusedCalls World.initial).map (fun answer =>
      ((answer.2.view.db.runs 7).map (·.state), namedStates answer.2.view.db)) =
      some (some .validating, [(none, some .created), (some .created, some .validating),
        (some .validating, some .validating)]) := by
  decide +kernel

theorem audit_log_replays_after_refusal :
    ∃ (pool : Clients RepositoryCall RepositoryReply) (run : RunRow),
    Reaches repositoryClients (Pool.start World.initial) pool ∧
      pool.state.view.db.runs 7 = some run ∧ run.state = .validating ∧
      namedStates pool.state.view.db = [(none, some .created), (some .created, some .validating),
        (some .validating, some .validating)] ∧
      AuditChain ((pool.state.view.db.auditEvents run.tenantId 7).filter EventRow.genuine) run ∧
      (pool.state.view.db.auditEvents run.tenantId 7).filter EventRow.genuine =
        pool.state.view.db.transitionsOf 7 ∧
      replayedState (pool.state.view.db.auditEvents run.tenantId 7) = some run.state := by
  obtain ⟨⟨results, world⟩, ran, facts⟩ := Option.map_eq_some_iff.mp refusedCalls_events
  obtain ⟨stored, events⟩ := Prod.mk.inj facts
  have start : Reaches repositoryClients (Pool.start World.initial) _ := .refl
  obtain ⟨pool, reached, rfl, -, -⟩ :=
    start.inTurn (fun _ _ => rfl) (fun _ _ _ => trivial) (fun _ => trivial) ran
  obtain ⟨run, found, state⟩ := Option.map_eq_some_iff.mp stored
  exact ⟨pool, run, reached, found, state, events, audit_log_replays reached 7 run found⟩

end StockoutOps.Investigation
