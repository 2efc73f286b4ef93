import StockoutOps.Investigation.ServiceReviews

/-!
Contract: what the reads of the investigation service return, whatever the other
callers do between their statements.

Owns: that the parts of a detail belong together, and that the replayed state of an
audit is one that its current state has come from.

Does not own: the pools of callers.
-/

namespace StockoutOps.Investigation

open StockoutOps.Sql StockoutOps.Foundation.Interleaving

namespace ServiceSetup

open Protocol

section Reads

variable {setup : ServiceSetup} {t : Tid} {view last : View} {principal : Principal} {run : RunRow}
  {runId : RunId}

/-! ## Detail -/

/-- The evidence that is shown is all that the draft cites. -/
def Grounded (setup : ServiceSetup) (run : RunRow) (evidence : List Evidence) : Prop :=
  run.draftJson.isSome = true → ∃ result : ReasoningResult,
    run.draftJson = some result.modelDump ∧
    run.draftHash = some (setup.service.provenance.canonicalHash result.modelDump) ∧
    validateBundle setup.service.provenance evidence run.asOfTs = .ok () ∧
    validateCitations result (evidence.map Evidence.evidenceId) = .ok ()

/-- The decision that is shown is about the draft that is shown. -/
structure About (decision : DecisionRow) (run : RunRow) : Prop where
  runId : decision.runId = run.runId
  reviewer : decision.reviewerId = run.assignedReviewerId
  draft : run.draftJson.isSome = true →
    run.draftJson = some decision.originalDraft ∧ run.draftHash = decision.originalDraftHash

/-- The parts of a detail belong together. -/
structure Shown (detail : InvestigationService.Detail) (setup : ServiceSetup) : Prop where
  evidence : Grounded setup detail.run detail.evidence
  decision : ∀ decision, detail.decision = some decision → About decision detail.run
  decided : detail.run.state = .closed → detail.decision.isSome = true

/-- How a detail ends. -/
def Detailed (setup : ServiceSetup) (t : Tid) (principal : Principal) (runId : RunId) :
    Except Failure InvestigationService.Detail → View → Prop
  | .ok detail, last => Bare t last ∧ Known setup principal detail.run last ∧
      detail.run.runId = runId ∧ Shown detail setup
  | .error _, last => Bare t last

/-- The listed evidence of a run with a draft is the bundle of the draft. -/
theorem grounded_of_listed {evidence : List Evidence} (known : Known setup principal run view)
    (listed : setup.service.codec.parseAll
      (view.db.evidencePayloads principal.tenantId run.runId) = .ok evidence) :
    Grounded setup run evidence := by
  intro drafted
  obtain ⟨result, draft⟩ := known.means.drafted drafted
  obtain ⟨bundled, bundle⟩ := draft.bundle
  obtain rfl : bundled = evidence := by
    have parsed := bundle.parsed
    rw [known.tenant] at parsed
    exact Except.ok.inj (parsed.symm.trans listed)
  exact ⟨result, draft.draftJson, draft.draftHash, bundle.valid, cited_of_bundle bundle draft.cites⟩

/-- A decision that is stored is about the run that is known. -/
theorem about_of_stored (inv : ServiceInv setup view) (known : Known setup principal run view)
    {decision : DecisionRow} (member : decision ∈ view.db.decisions)
    (ofRun : decision.runId = run.runId) : About decision run := by
  obtain ⟨now, found, means⟩ := inv.means.decisions decision member
  obtain ⟨other, there, movesRun⟩ := known.stored
  obtain rfl : now = other := Option.some.inj ((ofRun ▸ found).symm.trans there)
  refine ⟨ofRun, means.reviewer.trans movesRun.same.assignedReviewerId, fun drafted => ?_⟩
  have kept := movesRun.draft drafted
  exact ⟨kept.draftJson.symm.trans means.draft, kept.draftHash.symm.trans means.draftHash⟩

/-- A closed run has a decision of its tenant. -/
theorem decision_of_closed (inv : ServiceInv setup view) (known : Known setup principal run view)
    (closed : run.state = .closed) :
    (view.db.decisions.find? (fun decision =>
      decision.runId == run.runId && decision.tenantId == principal.tenantId)).isSome = true := by
  obtain ⟨decision, member, ofRun⟩ := known.means.closed closed
  obtain ⟨now, found, means⟩ := inv.means.decisions decision member
  obtain ⟨other, there, movesRun⟩ := known.stored
  obtain rfl : now = other := Option.some.inj ((ofRun ▸ found).symm.trans there)
  have tenant : decision.tenantId = principal.tenantId :=
    means.tenant.symm.trans (movesRun.same.tenantId.trans known.tenant)
  exact List.find?_isSome.mpr ⟨decision, member, by simp [ofRun, tenant]⟩

theorem serves_detail (bare : Bare t view) :
    setup.protocol.Serves t (setup.service.detail principal runId)
      (Detailed setup t principal runId) view := by
  have failing : ∀ {last : View} {exception : Failure}, Bare t last →
      setup.protocol.Stays t (Detailed setup t principal runId) (.error exception) last :=
    fun bare _ relied _ => bare.later relied
  refine serves_bind (serves_getRun
    (fun later relied _ _ => stays_goes_error (failing (bare.later relied)))
    fun first relied holds run found => stays_goes_ok ?_)
  have bare := bare.later relied
  obtain ⟨stored, tenant⟩ := Db.run?_eq_some.mp found
  obtain rfl := holds.keyed.runs _ _ stored
  have known : Known setup principal run first := known_of_stored holds.inv stored tenant
  refine serves_bind (serves_select
    (fun db => db.evidencePayloads principal.tenantId run.runId) (fun _ _ _ => rfl)
    fun second relied _ => serves_lift fun third reliedThird _ => ?_)
  have bare := (bare.later relied).later reliedThird
  have known := (steady_known _ _ _).later relied known
  cases listed : setup.service.codec.parseAll
      (second.db.evidencePayloads principal.tenantId run.runId) with
  | error exception => exact goes_error (failing bare)
  | ok evidence =>
      have grounded := grounded_of_listed known listed
      have known := (steady_known _ _ _).later reliedThird known
      refine goes_ok (serves_select (fun db => db.decisions.find? (fun decision =>
          decision.runId == run.runId && decision.tenantId == principal.tenantId))
        (fun input world idle => by simp [Statement.selectDecision, World.Idle.ownDb idle])
        fun fourth relied holds => serves_pure fun final reliedFinal _ => ?_)
      have known := (steady_known _ _ _).later relied known
      refine ⟨(bare.later relied).later reliedFinal, (steady_known _ _ _).later reliedFinal known,
        rfl, grounded, fun decision found => ?_, decision_of_closed holds.inv known⟩
      refine about_of_stored holds.inv known (List.mem_of_find?_eq_some found) ?_
      have matched := List.find?_some found
      simp only [Bool.and_eq_true, beq_iff_eq] at matched
      exact matched.1

/-! ## Audit -/

/-- The events of an audit replay to a row that its current one has come from. -/
structure Audited (trail : InvestigationService.AuditTrail) (old : RunRow) : Prop where
  chain : AuditChain (trail.events.filter EventRow.genuine) old
  replayed : replayedState trail.events = some old.state
  moves : old.MovesTo trail.current

/-- How an audit ends. -/
def AuditEnds (setup : ServiceSetup) (t : Tid) (principal : Principal) (runId : RunId) :
    Except Failure InvestigationService.AuditTrail → View → Prop
  | .ok trail, last => Bare t last ∧ Known setup principal trail.current last ∧
      trail.current.runId = runId ∧ ∃ old, Audited trail old
  | .error _, last => Bare t last

theorem serves_audit (bare : Bare t view) :
    setup.protocol.Serves t (InvestigationService.audit principal runId)
      (AuditEnds setup t principal runId) view := by
  have failing : ∀ {last : View} {exception : Failure}, Bare t last →
      setup.protocol.Stays t (AuditEnds setup t principal runId) (.error exception) last :=
    fun bare _ relied _ => bare.later relied
  have events : setup.protocol.Serves t (audit principal runId)
      (fun result last => Bare t last ∧ ∀ events, result = .ok events → ∃ old,
        Known setup principal old last ∧ old.runId = runId ∧
        AuditChain (events.filter EventRow.genuine) old ∧
        replayedState events = some old.state) view := by
    refine serves_bind (serves_getRun (fun later relied _ _ => stays_goes_error
        fun last reliedLast _ => ⟨(bare.later relied).later reliedLast, by simp⟩)
      fun first relied holds run found => stays_goes_ok ?_)
    have bare := bare.later relied
    obtain ⟨stored, tenant⟩ := Db.run?_eq_some.mp found
    obtain rfl := holds.keyed.runs _ _ stored
    have known : Known setup principal run first := known_of_stored holds.inv stored tenant
    rw [← Call.bind_pure (execute _)]
    refine serves_select (fun db => db.auditEvents principal.tenantId run.runId)
      (fun input world idle => by simp [Statement.selectEvents, World.Idle.ownDb idle])
      fun second relied holds => serves_pure fun final reliedFinal _ =>
        ⟨(bare.later relied).later reliedFinal, fun events same => ?_⟩
    obtain rfl := Except.ok.inj same
    obtain ⟨now, there, movesRun⟩ := ((steady_known _ _ _).later relied known).stored
    have chain := holds.inv.audited.chains _ _ there
    have tenantNow : now.tenantId = principal.tenantId := movesRun.same.tenantId.trans tenant
    have knownNow : Known setup principal now second :=
      known_of_stored holds.inv (movesRun.same.runId.symm ▸ there) tenantNow
    refine ⟨now, (steady_known _ _ _).later reliedFinal knownNow, movesRun.same.runId, ?_, ?_⟩
    · rw [← tenantNow, chain.auditEvents]
      exact chain
    · rw [← tenantNow]
      exact chain.replayed
  refine serves_bind (serves_mono (fun result last _ post => ?_) events)
  obtain ⟨bare, replays⟩ := post
  cases result with
  | error exception => exact goes_error (failing bare)
  | ok events =>
      obtain ⟨old, known, ofRun, chain, replayed⟩ := replays events rfl
      refine goes_ok (serves_bind (serves_getRun
        (fun later relied _ _ => stays_goes_error (failing (bare.later relied)))
        fun later relied holds run found => stays_goes_ok
          (serves_pure fun final reliedFinal _ => ?_)))
      obtain ⟨stored, tenant⟩ := Db.run?_eq_some.mp found
      have sameId := holds.keyed.runs _ _ stored
      obtain ⟨now, there, movesRun⟩ := ((steady_known _ _ _).later relied known).stored
      obtain rfl : run = now := Option.some.inj (stored.symm.trans (ofRun ▸ there))
      have knownRun : Known setup principal run later :=
        known_of_stored holds.inv (sameId.symm ▸ stored) tenant
      exact ⟨(bare.later relied).later reliedFinal, (steady_known _ _ _).later reliedFinal knownRun,
        sameId, old, chain, replayed, movesRun⟩

end Reads

end ServiceSetup

end StockoutOps.Investigation
