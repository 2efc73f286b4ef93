import StockoutOps.Investigation.ServiceStages

/-!
Contract: the calls of the investigation service, whatever the other callers do.

Owns: the turns and the loops of a resumed run with the fuel that is enough for
them, and one rule each for `intake`, `review`, `detail` and `audit`.

Does not own: the pools of callers.
-/

namespace StockoutOps.Investigation

open StockoutOps.Sql StockoutOps.Foundation.Interleaving

namespace ServiceSetup

open Protocol

section Turns

variable {setup : ServiceSetup} {t : Tid} {view last : View} {ρ α : Type} {principal : Principal}
  {run next : RunRow}

/-! ## Transitions -/

/-- A run that moves on without a draft means what its new state says. -/
theorem setState_means {db : Db} {row : RunRow} {target : RunState} (now : Timestamp)
    (means : row.Means setup.service db) (automatic : row.state.automatic = true)
    (committed : target.committed = true) (undrafted : target ≠ .awaitingHuman)
    (open_ : target ≠ .closed)
    (bundle : target = .reasoning ∨ target = .draftingRecommendation →
      ∃ evidence, db.Bundle setup.service row evidence)
    (reasoned : target = .draftingRecommendation → db.Reasoned row) :
    (setState target now row).Means setup.service db where
  committed := committed
  bundle := by
    intro state
    obtain ⟨evidence, validated⟩ := bundle state
    exact ⟨evidence, validated.moves (.refl db) (setState_sameRun target now row)⟩
  reasoned := fun state => (reasoned state).moves (.refl db) (setState_sameRun target now row)
  undrafted := fun _ => means.undrafted automatic
  awaiting := fun state => absurd state undrafted
  drafted := by
    intro drafted
    have none_ : row.draftJson = none := means.undrafted automatic
    have drafted : row.draftJson.isSome = true := drafted
    simp [none_] at drafted
  closed := fun state => absurd state open_

/-- What a turn makes of its run: a later run to go on with, or one to return. -/
def Turned (setup : ServiceSetup) (t : Tid) (principal : Principal) (run : RunRow) :
    Except Failure (RunRow ⊕ RunRow) → View → Prop
  | .ok (.inl next), last => run.MovesTo next ∧ Calm setup t principal next last ∧
      longestPath next.state < longestPath run.state
  | .ok (.inr result), last => run.MovesTo result ∧ Calm setup t principal result last ∧
      result.state.automatic = false
  | .error exception, last => Calm setup t principal run last ∧
      (setup.live → LostTransition exception → Overtaken run last)

theorem stays_turned {result : Except Failure (RunRow ⊕ RunRow)}
    (turned : Turned setup t principal run result view) :
    setup.protocol.Stays t (Turned setup t principal run) result view := by
  intro later relied _
  rcases result with exception | next | result
  · exact ⟨turned.1.later relied,
      fun live lost => (steady_overtaken run).later relied (turned.2 live lost)⟩
  · exact ⟨turned.1, turned.2.1.later relied, turned.2.2⟩
  · exact ⟨turned.1, turned.2.1.later relied, turned.2.2⟩

/-- A turn that ends with a move to `target`. -/
theorem serves_turning {advance : Routine RunRow} {target : RunState}
    (wrap : RunRow → RunRow ⊕ RunRow)
    (wraps : wrap = .inl ∧ longestPath target < longestPath run.state ∨
      wrap = .inr ∧ target.automatic = false)
    (serves : setup.protocol.Serves t advance (fun result last =>
      Advanced setup t principal run result last ∧
        ∀ next, result = .ok next → next.state = target) view) :
    setup.protocol.Serves t
      (do
        let next ← advance
        pure (wrap next)) (Turned setup t principal run) view := by
  refine serves_bind (serves_mono (fun result last _ post => ?_) serves)
  obtain ⟨advanced, state⟩ := post
  cases result with
  | error exception =>
      exact goes_error (stays_turned ⟨advanced.1, fun _ => advanced.2⟩)
  | ok next =>
      have reached := state next rfl
      rcases wraps with ⟨rfl, fewer⟩ | ⟨rfl, halted⟩
      · refine goes_ok (serves_pure (stays_turned ?_))
        exact ⟨advanced.1, advanced.2, reached ▸ fewer⟩
      · refine goes_ok (serves_pure (stays_turned ?_))
        exact ⟨advanced.1, advanced.2, reached ▸ halted⟩

/-- A transition of a run that no human is asked about yet. -/
theorem serves_transition {target : RunState} {eventType : String} {now : Timestamp}
    {payload : Json} (taken : target ∈ serviceTransitions run.state)
    (automatic : run.state.automatic = true) (committed : target.committed = true)
    (undrafted : target ≠ .awaitingHuman)
    (bundle : target = .reasoning ∨ target = .draftingRecommendation →
      ∃ evidence, view.db.Bundle setup.service run evidence)
    (reasoned : target = .draftingRecommendation → view.db.Reasoned run)
    (calm : Calm setup t principal run view) :
    setup.protocol.Serves t (transition principal run target eventType now payload)
      (fun result last => Advanced setup t principal run result last ∧
        ∀ next, result = .ok next → next.state = target) view := by
  have open_ : target ≠ .closed := by
    rintro rfl
    revert taken automatic
    cases run.state <;> simp [serviceTransitions, RunState.automatic]
  refine serves_mono (fun result last _ post => ⟨post.1, fun next ended => ?_⟩)
    (serves_advance taken (setState_sameRun target now) (fun _ => rfl) (fun _ => rfl)
      (fun later row relied _ state same means => ⟨?_, ?_⟩) calm)
  · obtain ⟨row, rfl⟩ := post.2 next ended
    rfl
  · exact setState_movesTo now (state ▸ canTransition_of_mem taken)
  · refine setState_means now means (state ▸ automatic) committed undrafted open_
      (fun reached => ?_)
      fun reached => (reasoned reached).moves relied.rely.moves.db same
    obtain ⟨evidence, validated⟩ := bundle reached
    exact ⟨evidence, validated.moves relied.rely.moves.db same⟩

/-- A turn that goes on to the next stage. -/
theorem serves_going {target : RunState} {eventType : String}
    (taken : target ∈ serviceTransitions run.state) (automatic : target.automatic = true)
    (from_ : run.state.automatic = true)
    (bundle : target = .reasoning ∨ target = .draftingRecommendation →
      ∃ evidence, view.db.Bundle setup.service run evidence)
    (reasoned : target = .draftingRecommendation → view.db.Reasoned run)
    (calm : Calm setup t principal run view) :
    setup.protocol.Serves t
      (do
        let now ← clock
        let next ← transition principal run target eventType now (.obj [])
        pure (.inl next)) (Turned setup t principal run) view := by
  refine serves_now (fun later relied => calm.later relied) fun now later relied calm => ?_
  have committed : target.committed = true := by
    cases target <;> simp_all [RunState.automatic, RunState.committed]
  have undrafted : target ≠ .awaitingHuman := by
    rintro rfl
    simp [RunState.automatic] at automatic
  refine serves_turning .inl (.inl ⟨rfl, longestPath_lt (canTransition_of_mem taken)⟩)
    (serves_transition taken from_ committed undrafted (fun reached => ?_)
      (fun reached => (reasoned reached).moves relied.rely.moves.db (.refl run)) calm)
  obtain ⟨evidence, validated⟩ := bundle reached
  exact ⟨evidence, validated.moves relied.rely.moves.db (.refl run)⟩

/-- A turn that escalates. -/
theorem serves_escalating {code : String} (taken : .escalated ∈ serviceTransitions run.state)
    (automatic : run.state.automatic = true) (calm : Calm setup t principal run view) :
    setup.protocol.Serves t
      (do
        let escalated ← InvestigationService.escalate principal run code
        pure (.inr escalated)) (Turned setup t principal run) view := by
  have halts : RunState.escalated.automatic = false := rfl
  refine serves_turning .inr (.inr ⟨rfl, halts⟩) ?_
  refine serves_now (fun later relied => calm.later relied) fun now later relied calm => ?_
  exact serves_transition taken automatic rfl (by simp) (by simp) (by simp) calm

/-- The draft is presented to a human. -/
theorem serves_presenting {result : ReasoningResult}
    (drafting : run.state = .draftingRecommendation) (answered : Answered setup run result view)
    (calm : Calm setup t principal run view) :
    setup.protocol.Serves t (setup.service.presentDraft principal run result)
      (fun ended last => Advanced setup t principal run ended last ∧
        ∀ next, ended = .ok next → next.state = .awaitingHuman) view := by
  refine serves_now (fun later relied => calm.later relied) fun now later reliedNow calm => ?_
  refine serves_mono (fun ended last _ post => ⟨post.1, fun next ended => ?_⟩)
    (serves_advance (by simp [draftMove, drafting, serviceTransitions])
      (setDraft_sameRun _ _ now _) (fun _ => rfl) (fun _ => rfl)
      (fun last row relied _ state same means => ?_) calm)
  · obtain ⟨row, rfl⟩ := post.2 next ended
    rfl
  have answered := (steady_answered setup run result).later (reliedNow.trans relied) answered
  have undrafted : row.draftJson = none := means.undrafted (by simp [state, drafting,
    RunState.automatic])
  have sameDraft := setDraft_sameRun result.modelDump
    (setup.service.provenance.canonicalHash result.modelDump) now (now + reviewPolicy) row
  refine ⟨setDraft_movesTo _ _ _ _ (by simp [state, drafting, canTransition, transitions])
    undrafted, ⟨rfl, by simp [draftMove, setDraft], by simp [draftMove, setDraft],
      by simp [draftMove, setDraft, RunState.automatic], fun _ => rfl, fun _ => ⟨result, ?_⟩,
      by simp [draftMove, setDraft]⟩⟩
  obtain ⟨evidence, bundle⟩ := answered.bundle
  obtain ⟨stored, found, completed, answer⟩ := answered.row
  exact
    { bundle := ⟨evidence, bundle.moves (.refl _) (same.trans sameDraft)⟩
      answered := ⟨stored, by
        show last.db.tool? row.tenantId row.runId .reasoning = some stored
        rw [same.tenantId, same.runId]
        exact found, completed, answer⟩
      cites := answered.cites.moves (.refl _) (same.trans sameDraft)
      draftJson := rfl
      draftHash := rfl
      window := ⟨now, rfl, rfl⟩ }

/-! ## Turns -/

theorem serves_resumeTurn (calm : Calm setup t principal run view) :
    setup.protocol.Serves t (setup.service.resumeTurn principal run)
      (Turned setup t principal run) view := by
  have raising : ∀ {last : View} {exception : Failure}, Calm setup t principal run last →
      (setup.live → ¬ LostTransition exception) →
      setup.protocol.Stays t (Turned setup t principal run) (.error exception) last :=
    fun calm plain => stays_turned ⟨calm, fun live lost => absurd lost (plain live)⟩
  have halting : run.state.automatic = false →
      setup.protocol.Serves t (pure (.inr run)) (Turned setup t principal run) view :=
    fun halted => by
      refine serves_pure (stays_turned ?_)
      exact ⟨.refl run, calm, halted⟩
  unfold InvestigationService.resumeTurn
  cases state : run.state with
  | created =>
      exact serves_going (by simp [state, serviceTransitions]) rfl (by rw [state]; rfl)
        (by simp) (by simp) calm
  | validating =>
      exact serves_going (by simp [state, serviceTransitions]) rfl (by rw [state]; rfl)
        (by simp) (by simp) calm
  | gatheringEvidence =>
      refine serves_attempt (serves_mono (fun result last _ gathered => ?_)
        (serves_gatherEvidence calm))
      obtain ⟨calm, plain⟩ := gathered
      cases result with
      | ok evidence =>
          exact serves_going (by simp [state, serviceTransitions]) rfl (by rw [state]; rfl)
            (by simp) (by simp) calm
      | error exception =>
          cases exception with
          | evidenceFailure code message =>
              exact serves_escalating (by simp [state, serviceTransitions]) (by rw [state]; rfl)
                calm
          | _ => exact serves_raise (raising calm (plain _ rfl))
  | qualityChecks =>
      refine serves_bind (serves_mono (fun result last _ checked => ?_)
        (serves_qualityChecks calm))
      rcases result with exception | code
      · exact checked.elim
      · cases code with
        | some code =>
            exact goes_ok (serves_escalating (by simp [state, serviceTransitions])
              (by rw [state]; rfl) checked)
        | none =>
            exact goes_ok (serves_going (by simp [state, serviceTransitions]) rfl
              (by rw [state]; rfl) (fun _ => checked.2) (by simp) checked.1)
  | reasoning =>
      refine serves_attempt (serves_mono (fun result last _ fetched => ?_)
        (serves_reasonOnce state calm))
      obtain ⟨calm, called⟩ := fetched
      cases result with
      | ok outcome =>
          exact serves_going (by simp [state, serviceTransitions]) rfl (by rw [state]; rfl)
            (fun _ => calm.known.means.bundle (.inl state)) (fun _ => called) calm
      | error exception =>
          cases exception with
          | reasoningFailure code message =>
              exact serves_escalating (by simp [state, serviceTransitions]) (by rw [state]; rfl)
                calm
          | _ => exact serves_raise (raising calm called)
  | draftingRecommendation =>
      refine serves_bind (serves_mono (fun ended last _ post => ?_)
        (serves_draftResult state calm))
      obtain ⟨result, rfl, calm, answered⟩ := post
      refine goes_ok (serves_turning .inl (.inl ⟨rfl, ?_⟩) (serves_presenting state answered calm))
      simp [state, longestPath]
  | awaitingHuman | approved | editedAndApproved | rejected | escalated | closed | failedAuthz =>
      exact halting (by rw [state]; rfl)

/-! ## Loops -/

/-- A loop that is out of fuel waits for ever. -/
theorem serves_spin {Post : Except Failure ρ → View → Prop} (endless : ¬ setup.live) :
    setup.protocol.Serves t Call.spin Post view := by
  intro world _ _ _ later _ _
  exact ⟨.inr fun live => absurd live endless, fun _ _ _ _ answered => by simp at answered⟩

/-- A run that has been overtaken leaves the one before it overtaken. -/
theorem Overtaken.before (overtaken : Overtaken next view) (moves : run.MovesTo next) :
    Overtaken run view := by
  obtain ⟨now, found, fewer⟩ := overtaken
  obtain ⟨count, path, -⟩ := moves.path
  have bound := path.longestPath_add_le
  exact ⟨now, moves.same.runId ▸ found, by omega⟩

/-- How a resumed run ends: it waits for a human, or is done with. -/
def Resumed (setup : ServiceSetup) (t : Tid) (principal : Principal) (run : RunRow) :
    Except Failure RunRow → View → Prop
  | .ok result, last => run.MovesTo result ∧ Calm setup t principal result last ∧
      result.state.automatic = false
  | .error exception, last => Calm setup t principal run last ∧
      (setup.live → LostTransition exception → Overtaken run last)

theorem stays_resumed {result : Except Failure RunRow}
    (resumed : Resumed setup t principal run result view) :
    setup.protocol.Stays t (Resumed setup t principal run) result view := by
  intro later relied _
  cases result with
  | ok result => exact ⟨resumed.1, resumed.2.1.later relied, resumed.2.2⟩
  | error exception =>
      exact ⟨resumed.1.later relied,
        fun live lost => (steady_overtaken run).later relied (resumed.2 live lost)⟩

/-- Every turn leaves fewer transitions, so their number is fuel enough. -/
theorem serves_resumeStep (fuel : Nat) (enough : setup.live → longestPath run.state < fuel)
    (calm : Calm setup t principal run view) :
    setup.protocol.Serves t (setup.service.resumeStep principal fuel run)
      (Resumed setup t principal run) view := by
  induction fuel generalizing run view with
  | zero => exact serves_spin fun live => absurd (enough live) (Nat.not_lt_zero _)
  | succ fuel inductionHypothesis =>
      refine serves_bind (serves_mono (fun result last _ post => ?_)
        (serves_steady (steady_known setup principal run) calm.known (serves_resumeTurn calm)))
      obtain ⟨turned, known⟩ := post
      rcases result with exception | next | result
      · exact goes_error (stays_resumed turned)
      · obtain ⟨moves, calmNext, fewer⟩ := turned
        have rest := inductionHypothesis (fun live => by have := enough live; omega) calmNext
        refine goes_ok (serves_mono (fun ended last _ post => ?_)
          (serves_steady (steady_known setup principal run) known rest))
        obtain ⟨resumed, known⟩ := post
        cases ended with
        | ok result => exact ⟨moves.trans resumed.1, resumed.2⟩
        | error exception =>
            exact ⟨⟨resumed.1.unclaimed, known⟩,
              fun live lost => (resumed.2 live lost).before moves⟩
      · refine goes_ok (serves_pure (stays_resumed ?_))
        exact turned

/-- Whoever has lost a transition goes on with the run that is stored. -/
theorem serves_rereading (fuel : Nat) (enough : setup.live → longestPath run.state + 1 < fuel + 1)
    (again : ∀ {next : RunRow} {view : View}, (setup.live → longestPath next.state + 1 < fuel) →
      Calm setup t principal next view →
      setup.protocol.Serves t (setup.service.resume principal fuel next)
        (Resumed setup t principal next) view)
    (calm : Calm setup t principal run view) (overtaken : setup.live → Overtaken run view) :
    setup.protocol.Serves t
      (do
        let current ← getRun principal run.runId
        setup.service.resume principal fuel current) (Resumed setup t principal run) view := by
  refine serves_bind (serves_getRun (fun later relied _ absent => ?_)
    fun later relied holds current found => stays_goes_ok ?_)
  · obtain ⟨now, there, -⟩ := (calm.later relied).known.run?
    simp [absent] at there
  have calm := calm.later relied
  obtain ⟨now, there, moves⟩ := calm.known.run?
  obtain rfl : current = now := Option.some.inj (found.symm.trans there)
  obtain ⟨stored, tenant⟩ := Db.run?_eq_some.mp found
  have calmNext : Calm setup t principal current later :=
    ⟨calm.unclaimed, known_of_stored holds.inv (moves.same.runId ▸ stored) tenant⟩
  have fewer : setup.live → longestPath current.state + 1 < fuel := by
    intro live
    obtain ⟨now, thereNow, less⟩ := (steady_overtaken run).later relied (overtaken live)
    obtain rfl : current = now := Option.some.inj (stored.symm.trans thereNow)
    have bound := enough live
    omega
  refine serves_mono (fun ended last _ post => ?_)
    (serves_steady (steady_known setup principal run) calm.known (again fewer calmNext))
  obtain ⟨resumed, known⟩ := post
  cases ended with
  | ok result => exact ⟨moves.trans resumed.1, resumed.2⟩
  | error exception =>
      exact ⟨⟨resumed.1.unclaimed, known⟩, fun live lost => (resumed.2 live lost).before moves⟩

/-- Every lost transition leaves fewer of them, too. -/
theorem serves_resume (fuel : Nat) (enough : setup.live → longestPath run.state + 1 < fuel)
    (calm : Calm setup t principal run view) :
    setup.protocol.Serves t (setup.service.resume principal fuel run)
      (Resumed setup t principal run) view := by
  induction fuel generalizing run view with
  | zero => exact serves_spin fun live => absurd (enough live) (Nat.not_lt_zero _)
  | succ fuel inductionHypothesis =>
      have known := calm.known
      refine serves_attempt (serves_mono (fun result last _ post => ?_)
        (serves_steady (steady_known setup principal run) known
          (serves_resumeStep fuel (fun live => by have := enough live; omega) calm)))
      obtain ⟨resumed, known⟩ := post
      cases result with
      | ok result => exact serves_pure (stays_resumed resumed)
      | error exception =>
          have raising : setup.protocol.Stays t (Resumed setup t principal run)
              (.error exception) last := stays_resumed resumed
          cases exception with
          | stockoutOps error =>
              cases error with
              | conflictError code message =>
                  dsimp only
                  split
                  · rename_i lost
                    subst lost
                    have overtaken := fun live => resumed.2 live ⟨message, rfl⟩
                    exact serves_rereading fuel enough inductionHypothesis resumed.1 overtaken
                  · exact serves_raise raising
              | _ => exact serves_raise raising
          | _ => exact serves_raise raising

/-! ## Intake -/

theorem longestPath_le (state : RunState) : longestPath state ≤ 8 := by
  cases state <;> decide

/-- The key and the payload are those of the run. -/
def KeyOf (call : IntakeCall) (run : RunRow) (view : View) : Prop :=
  ∃ row, view.db.keys call.key = some row ∧ row.runId = run.runId ∧
    row.payloadHash = call.payloadHash

theorem steady_keyOf (call : IntakeCall) (run : RunRow) : Steady (KeyOf call run) := by
  intro before after moves keyOf
  obtain ⟨row, found, rest⟩ := keyOf
  exact ⟨row, moves.db.evolves.keys _ _ found, rest⟩

/-- A commit claims nothing. -/
theorem unclaimed_commit {writes : List Write} (unclaimed : View.Unclaimed view t) :
    View.Unclaimed (view.commit t writes) t := unclaimed

/-- How `begin_intake` ends. -/
def Begun (setup : ServiceSetup) (t : Tid) (call : IntakeCall) :
    Except Failure (RunRow × Bool) → View → Prop
  | .ok (run, created), last => Calm setup t call.principal run last ∧ KeyOf call run last ∧
      (created = true → (call.runRow run.runId).SameRun run)
  | .error _, last => View.Unclaimed last t

theorem stays_begun {call : IntakeCall} {result : Except Failure (RunRow × Bool)}
    (begun : Begun setup t call result view) :
    setup.protocol.Stays t (Begun setup t call) result view := by
  intro later relied _
  cases result with
  | ok answer =>
      obtain ⟨calm, keyOf, columns⟩ := begun
      exact ⟨calm.later relied, (steady_keyOf call _).later relied keyOf, columns⟩
  | error exception => exact View.Unclaimed.later begun relied.view

theorem serves_beginIntake {call : IntakeCall}
    (mode : setup.Modes call.key call.payloadHash call.runMode)
    (unclaimed : View.Unclaimed view t) :
    setup.protocol.Serves t (beginIntake call) (Begun setup t call) view := by
  have failing : ∀ {last : View} {exception : Failure}, View.Unclaimed last t →
      setup.protocol.Stays t (Begun setup t call) (.error exception) last :=
    fun unclaimed _ relied _ => unclaimed.later relied.view
  refine Protocol.serves_beginIntake ?_ (fun _ => unclaimed)
  refine
    { created := fun later relied holds input eventId _ fresh unused checked _ => ?_
      replayed := fun later relied holds existing run found stored same => ?_
      conflicted := fun later relied _ existing run _ _ _ last reliedLast holds eventId => ?_
      dangling := fun later relied _ _ _ _ _ => failing (unclaimed.later relied.view)
      refused := fun later relied _ _ _ _ _ => failing (unclaimed.later relied.view) }
  · have guarantee : setup.protocol.Guarantee t later
        (later.commit t (call.created input.uuid eventId)) :=
      guarantee_commit holds.inv (Db.movesOn_created fresh unused checked)
        (holds.inv.means.created fresh unused checked mode) (holds.inv.audited.created fresh)
    refine ⟨guarantee, stays_begun ?_⟩
    refine ⟨?_, ?_, ?_⟩
    · exact ⟨unclaimed_commit (unclaimed.later relied.view),
        known_of_stored guarantee.inv (Function.update_self _ _ _) rfl⟩
    · exact ⟨call.keyRow input.uuid, Function.update_self _ _ _, rfl, rfl⟩
    · exact fun _ => .refl _
  · obtain ⟨there, tenant⟩ := Db.run?_eq_some.mp stored
    have runId := holds.keyed.runs _ _ there
    refine stays_begun ?_
    refine ⟨⟨unclaimed.later relied.view, known_of_stored holds.inv (runId ▸ there) tenant⟩,
      ⟨existing, found, runId.symm, same⟩, ?_⟩
    simp
  · have guarantee : setup.protocol.Guarantee t last
        (last.commit t [.insertEvent ((call.rejectedEvent run).numbered eventId)]) :=
      guarantee_event holds.inv (by simp)
    exact ⟨guarantee, failing (unclaimed_commit (unclaimed.later (relied.trans reliedLast).view))⟩

/-- How an intake ends: with the run of its key, which waits for a human or is done
with; a run that it has created has the columns that it was asked for. -/
def Intaken (setup : ServiceSetup) (t : Tid) (principal : Principal)
    (arguments : IntakeArguments) : Except Failure (RunRow × Bool) → View → Prop
  | .ok (run, created), last => ∃ reviewer now,
      setup.service.assignedReviewer principal.tenantId = some reviewer ∧
      Calm setup t principal run last ∧ run.state.automatic = false ∧
      KeyOf (setup.service.intakeCall principal arguments reviewer now) run last ∧
      (created = true →
        ((setup.service.intakeCall principal arguments reviewer now).runRow run.runId).SameRun run)
  | .error _, last => View.Unclaimed last t

theorem serves_intake {fuel : Nat} {arguments : IntakeArguments}
    (enough : setup.live → 9 < fuel)
    (mode : setup.Modes (principal.tenantId, arguments.idempotencyKey)
      (setup.service.provenance.canonicalHash arguments.modelDump) arguments.runMode)
    (unclaimed : View.Unclaimed view t) :
    setup.protocol.Serves t (setup.service.intake principal fuel arguments)
      (Intaken setup t principal arguments) view := by
  have failing : ∀ {last : View} {exception : Failure}, View.Unclaimed last t →
      setup.protocol.Stays t (Intaken setup t principal arguments) (.error exception) last :=
    fun unclaimed _ relied _ => unclaimed.later relied.view
  unfold InvestigationService.intake
  split
  · exact serves_raise (failing unclaimed)
  refine serves_bind (serves_lift fun first relied _ => ?_)
  have unclaimed := unclaimed.later relied.view
  cases requireIdempotencyKey arguments.idempotencyKey with
  | error exception => exact goes_error (failing unclaimed)
  | ok done =>
      refine goes_ok ?_
      cases assigned : setup.service.assignedReviewer principal.tenantId with
      | none => exact serves_raise (failing unclaimed)
      | some reviewer =>
          refine serves_now (fun later relied => unclaimed.later relied.view)
            fun now later _ unclaimed => ?_
          refine serves_bind (serves_mono (fun result last _ begun => ?_)
            (serves_beginIntake mode unclaimed))
          rcases result with exception | ⟨run, created⟩
          · exact goes_error (failing begun)
          obtain ⟨calm, keyOf, columns⟩ := begun
          have bound := longestPath_le run.state
          refine goes_ok (serves_bind (serves_mono (fun result last _ post => ?_)
            (serves_steady (steady_keyOf _ run) keyOf
              (serves_resume fuel (fun live => by have := enough live; omega) calm))))
          obtain ⟨resumed, keyOf⟩ := post
          cases result with
          | error exception => exact goes_error (failing resumed.1.unclaimed)
          | ok result =>
              obtain ⟨moves, calm, halted⟩ := resumed
              refine goes_ok (serves_pure fun final relied _ =>
                ⟨reviewer, now, assigned, calm.later relied, halted, ?_, fun new => ?_⟩)
              · obtain ⟨row, found, ofRun, hash⟩ := (steady_keyOf _ run).later relied keyOf
                exact ⟨row, found, ofRun.trans moves.same.runId.symm, hash⟩
              · rw [moves.same.runId]
                exact (columns new).trans moves.same

end Turns

end ServiceSetup

end StockoutOps.Investigation
