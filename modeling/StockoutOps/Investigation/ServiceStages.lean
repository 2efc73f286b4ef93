import StockoutOps.Investigation.ServiceRules

/-!
Contract: the stages of a resumed run, whatever the other callers do.

Owns: one rule each for the evidence stage, the quality checks, the reasoning and
the draft: what is stored when a stage ends, and that no stage takes an answer
from outside for a lost transition.

Does not own: the order of the stages.
-/

namespace StockoutOps.Investigation

open StockoutOps.Sql StockoutOps.Foundation.Interleaving

namespace ServiceSetup

open Protocol

section Stages

variable {setup : ServiceSetup} {t : Tid} {view last : View} {ρ α : Type} {principal : Principal}
  {run : RunRow} {tool : ToolName} {evidence : List Evidence}

/-! ## Reads -/

/-- Whatever clock is read next, the call goes on with what it knows. -/
theorem serves_now {Fact : View → Prop} {follow : Timestamp → Routine ρ}
    {Post : Except Failure ρ → View → Prop}
    (stable : ∀ later, setup.protocol.Later t view later → Fact later)
    (serves : ∀ now later, setup.protocol.Later t view later → Fact later →
      setup.protocol.Serves t (follow now) Post later) :
    setup.protocol.Serves t (clock >>= follow) Post view :=
  serves_clock fun later relied _ _ _ => serves _ later relied (stable later relied)

theorem steady_bundle (setup : ServiceSetup) (run : RunRow) (evidence : List Evidence) :
    Steady (fun view => view.db.Bundle setup.service run evidence) :=
  fun _ _ moves bundle => bundle.moves moves.db (.refl run)

/-- A listing of evidence fails with a `ValueError` or not at all. -/
theorem valueError_of_parseAll {codec : EvidenceCodec} {payloads : List (Option Json)}
    {exception : Failure} (failed : codec.parseAll payloads = .error exception) :
    ∃ message, exception = .valueError message := by
  obtain ⟨payload, -, refused⟩ := exists_of_mapM_eq_error failed
  unfold EvidenceCodec.parseEvidence at refused
  split at refused
  · cases refused
  · exact ⟨_, (Except.error.inj refused).symm⟩

/-- The evidence of a validated bundle is listed as it was validated. -/
theorem serves_listing (calm : Calm setup t principal run view)
    (bundle : view.db.Bundle setup.service run evidence) :
    setup.protocol.Serves t (listEvidence setup.service.codec principal run.runId)
      (fun result last => result = .ok evidence ∧ Calm setup t principal run last ∧
        last.db.Bundle setup.service run evidence) view := by
  refine serves_select (fun db => db.evidencePayloads principal.tenantId run.runId)
    (fun _ _ _ => rfl) fun later relied _ => ?_
  have bundleLater := (steady_bundle setup run evidence).later relied bundle
  have listed : setup.service.codec.parseAll
      (later.db.evidencePayloads principal.tenantId run.runId) = .ok evidence := by
    rw [← calm.known.tenant]
    exact bundleLater.parsed
  rw [listed]
  exact serves_lift fun last reliedLast _ => ⟨rfl, (calm.later relied).later reliedLast,
    (steady_bundle setup run evidence).later reliedLast bundleLater⟩

/-! ## Calls of the tools -/

/-- A claimed row is settled, and then the rest follows. -/
theorem serves_settled {status : ToolStatus} {result : Option Json} {metadata : Json}
    {rest : Routine ρ}
    (answers : ∀ later, setup.protocol.Later t view later → ∀ row : ToolRow,
      row.toolName = tool → row.status = status → row.resultJson = result →
      row.metadataJson = metadata → row.Answer setup.service later.db run)
    (ends : ∀ last, (status = .completed → Completed run tool last) →
      setup.protocol.Serves t rest (Called setup run tool) last)
    (owning : Owning t run.runId tool view) (known : Known setup principal run view) :
    setup.protocol.Serves t
      (do
        let now ← clock
        completeTool principal run.runId tool result metadata status now
        rest) (Called setup run tool) view := by
  refine serves_now (fun later relied =>
    (⟨owning.later relied, (steady_known _ _ _).later relied known⟩ :
      Owning t run.runId tool later ∧ Known setup principal run later))
    fun now later relied both => ?_
  refine serves_bind (serves_mono (fun ended last _ settled => ?_)
    (serves_settling (fun final reliedFinal => answers final (relied.trans reliedFinal))
      both.1 both.2))
  cases ended with
  | ok done => exact goes_ok (ends last settled)
  | error exception =>
      exact goes_error (Steady.staysPost (steady_called setup run tool) fun _ => settled)

theorem serves_invokingTool (evidenceTool : tool ≠ .reasoning)
    (claiming : Claiming t run.runId tool view) (known : Known setup principal run view) :
    setup.protocol.Serves t (setup.service.invokeTool principal run tool)
      (fun result last => View.Unclaimed last t ∧
        (Called setup run tool result last ∨ result = .error .connectionLost)) view := by
  have called := serves_steady (steady_known setup principal run) known
    (serves_calling setup (Statement.invokeTool run.runId tool) (fun _ _ => rfl) claiming)
  refine serves_releasing (steady_called setup run tool)
    (serves_attempt (serves_mono (fun result last _ post => ?_) called))
  obtain ⟨⟨owning, input, allowed, answered⟩, known⟩ := post
  cases result with
  | ok item =>
      refine serves_settled (fun _ _ row ofTool status result metadata =>
        .evidence item (ofTool ▸ evidenceTool) status result metadata)
        (fun last completed => serves_pure ?_) owning known
      exact Steady.staysPost (steady_called setup run tool) (completed rfl)
  | error exception =>
      have raising : ∀ last, setup.protocol.Stays t (Called (ρ := Evidence) setup run tool)
          (.error exception) last := fun last =>
        Steady.staysPost (steady_called setup run tool)
          fun live => (setup.plain live t input allowed).evidence tool _ answered.symm
      cases exception with
      | evidenceFailure code message =>
          exact serves_settled (fun _ _ row _ status result metadata =>
            .failed code status result metadata) (fun last _ => serves_raise (raising last))
            owning known
      | _ => exact serves_raise (raising last)

/-- How a stage that needs the answer of a tool ends: with its completed row. -/
def Fetched (setup : ServiceSetup) (t : Tid) (principal : Principal) (run : RunRow)
    (tool : ToolName) (result : Except Failure ρ) (view : View) : Prop :=
  Calm setup t principal run view ∧ Called setup run tool result view

theorem stays_fetched {result : Except Failure ρ}
    (fetched : Fetched setup t principal run tool result view) :
    setup.protocol.Stays t (Fetched setup t principal run tool) result view :=
  fun _ relied _ =>
    ⟨fetched.1.later relied, (steady_called setup run tool result).later relied fetched.2⟩

/-- A lost session is not a lost transition. -/
theorem called_of_releasing {result : Except Failure ρ}
    (ended : Called setup run tool result view ∨ result = .error .connectionLost) :
    Called setup run tool result view := by
  rcases ended with called | rfl
  · exact called
  · exact fun _ => not_lostTransition (by simp [Failure.conflict])

theorem serves_gatherTool (evidenceTool : tool ≠ .reasoning)
    (calm : Calm setup t principal run view) :
    setup.protocol.Serves t (setup.service.gatherTool principal run tool)
      (Fetched setup t principal run tool) view := by
  refine serves_now (fun later relied => calm.later relied) fun now first _ calm => ?_
  refine serves_bind (serves_mono (fun result last _ claimed => ?_)
    (serves_claimOrObserveTool (setup.service.provenance.canonicalHash_hex _)
      (fun later _ row ofTool ofHash => ?_) calm))
  · rcases result with exception | ⟨existing, own⟩
    · exact goes_error (stays_fetched ⟨claimed.1, fun _ => claimed.2⟩)
    · cases own with
      | true =>
          refine goes_ok (serves_mono (fun ended last _ post => ?_)
            (serves_steady (steady_known setup principal run) claimed.2
              (serves_invokingTool evidenceTool claimed.1 claimed.2)))
          exact ⟨⟨post.1.1, post.2⟩, called_of_releasing post.1.2⟩
      | false =>
          refine goes_ok (serves_lift (stays_fetched ⟨claimed.1, ?_⟩))
          unfold InvestigationService.observeTool
          split
          · rename_i completed
            cases parsed : setup.service.codec.parseEvidence existing.resultJson with
            | ok item => exact ⟨existing, claimed.2.completed completed.1, completed.1⟩
            | error exception =>
                refine fun _ => not_lostTransition fun message same => ?_
                unfold EvidenceCodec.parseEvidence at parsed
                split at parsed
                · cases parsed
                · rw [← Except.error.inj parsed] at same
                  simp [Failure.conflict] at same
          · exact fun _ => not_lostTransition (by simp [Failure.conflict])
  · rw [evidenceQuery_eq calm.known.tenant] at ofHash
    unfold ToolRow.Asked
    rw [ofTool]
    cases tool with
    | reasoning => exact absurd rfl evidenceTool
    | inventory | salesDemand | supplier => exact ofHash

/-- How the evidence stage ends. -/
def Gathered (setup : ServiceSetup) (t : Tid) (principal : Principal) (run : RunRow)
    (result : Except Failure ρ) (view : View) : Prop :=
  Calm setup t principal run view ∧
    ∀ exception, result = .error exception → setup.live → ¬ LostTransition exception

theorem stays_gathered {result : Except Failure ρ}
    (gathered : Gathered setup t principal run result view) :
    setup.protocol.Stays t (Gathered setup t principal run) result view :=
  fun _ relied _ => ⟨gathered.1.later relied, gathered.2⟩

/-- One tool of the loop, and the rest of it. -/
theorem serves_gathering {follow : Evidence → Routine ρ} (evidenceTool : tool ≠ .reasoning)
    (rest : ∀ item last, Calm setup t principal run last →
      setup.protocol.Serves t (follow item) (Gathered setup t principal run) last)
    (calm : Calm setup t principal run view) :
    setup.protocol.Serves t (setup.service.gatherTool principal run tool >>= follow)
      (Gathered setup t principal run) view := by
  refine serves_bind (serves_mono (fun result last _ fetched => ?_)
    (serves_gatherTool evidenceTool calm))
  cases result with
  | ok item => exact goes_ok (rest item last fetched.1)
  | error exception =>
      refine goes_error (stays_gathered ⟨fetched.1, fun other same => ?_⟩)
      obtain rfl := Except.error.inj same
      exact fetched.2

theorem serves_gatherEvidence (calm : Calm setup t principal run view) :
    setup.protocol.Serves t (setup.service.gatherEvidence principal run)
      (Gathered setup t principal run) view := by
  refine serves_gathering (by decide) (fun inventory _ calm => ?_) calm
  refine serves_gathering (by decide) (fun demand _ calm => ?_) calm
  refine serves_gathering (by decide) (fun supplier _ calm => ?_) calm
  exact serves_pure (stays_gathered ⟨calm, by simp⟩)

/-! ## Quality checks -/

/-- The checks end with a code or with a validated bundle, and never raise. -/
def Checked (setup : ServiceSetup) (t : Tid) (principal : Principal) (run : RunRow) :
    Except Failure (Option String) → View → Prop
  | .ok none, last => Calm setup t principal run last ∧
      ∃ evidence, last.db.Bundle setup.service run evidence
  | .ok (some _), last => Calm setup t principal run last
  | .error _, _ => False

theorem stays_checked {result : Except Failure (Option String)}
    (checked : Checked setup t principal run result view) :
    setup.protocol.Stays t (Checked setup t principal run) result view := by
  intro later relied _
  rcases result with exception | code
  · exact checked
  · cases code with
    | none =>
        obtain ⟨calm, evidence, bundle⟩ := checked
        exact ⟨calm.later relied, evidence,
          (steady_bundle setup run evidence).later relied bundle⟩
    | some code => exact Calm.later checked relied

theorem serves_qualityChecks (calm : Calm setup t principal run view) :
    setup.protocol.Serves t (setup.service.qualityChecks principal run)
      (Checked setup t principal run) view := by
  have listed : setup.protocol.Serves t
      (do
        let evidence ← listEvidence setup.service.codec principal run.runId
        lift (validateBundle setup.service.provenance evidence run.asOfTs))
      (fun result last => Calm setup t principal run last ∧
        (result = .ok () → ∃ evidence, last.db.Bundle setup.service run evidence) ∧
        ∀ exception, result = .error exception →
          (∃ message, exception = .valueError message) ∨
            ∃ code message, exception = .evidenceFailure code message) view := by
    refine serves_bind ?_
    refine serves_select (fun db => db.evidencePayloads principal.tenantId run.runId)
      (fun _ _ _ => rfl) fun later relied _ => serves_lift fun last reliedLast _ => ?_
    have calmLast := (calm.later relied).later reliedLast
    cases parsed : setup.service.codec.parseAll
        (later.db.evidencePayloads principal.tenantId run.runId) with
    | error exception =>
        refine goes_error fun final reliedFinal _ => ⟨calmLast.later reliedFinal, by simp, ?_⟩
        intro other same
        obtain rfl := Except.error.inj same
        exact .inl (valueError_of_parseAll parsed)
    | ok evidence =>
        refine goes_ok (serves_lift fun final reliedFinal _ =>
          ⟨calmLast.later reliedFinal, fun valid => ⟨evidence, ?_⟩, fun exception raised => ?_⟩)
        · refine (steady_bundle setup run evidence).later reliedFinal
            ((steady_bundle setup run evidence).later reliedLast ⟨?_, valid⟩)
          rw [calm.known.tenant]
          exact parsed
        · exact .inr (evidenceFailure_of_validateBundle raised)
  refine serves_attempt (serves_mono (fun result last _ post => ?_) listed)
  obtain ⟨calm, valid, failed⟩ := post
  rcases result with exception | done
  · rcases failed exception rfl with ⟨message, rfl⟩ | ⟨code, message, rfl⟩
    · refine serves_pure (stays_checked ?_)
      exact calm
    · refine serves_pure (stays_checked ?_)
      exact calm
  · refine serves_pure (stays_checked ?_)
    exact ⟨calm, valid rfl⟩

/-! ## Reasoning -/

theorem serves_askAdapter (claiming : Claiming t run.runId .reasoning view)
    (bundle : view.db.Bundle setup.service run evidence) :
    setup.protocol.Serves t (InvestigationService.askAdapter run evidence)
      (fun result last => Owning t run.runId .reasoning last ∧
        (∀ outcome, result = .ok outcome →
          last.db.Cites setup.service run outcome.result) ∧
        ∀ exception, result = .error exception → setup.live → ¬ LostTransition exception)
      view := by
  have called := serves_steady (steady_bundle setup run evidence) bundle
    (serves_calling setup (Statement.invokeReasoning run.runId evidence) (fun _ _ => rfl) claiming)
  refine serves_bind (serves_mono (fun result last _ post => ?_) called)
  obtain ⟨⟨owning, input, allowed, answered⟩, bundle⟩ := post
  cases result with
  | error exception =>
      refine goes_error fun later relied _ => ⟨owning.later relied, by simp, fun other same => ?_⟩
      obtain rfl := Except.error.inj same
      exact fun live => (setup.plain live t input allowed).reason evidence _ answered.symm
  | ok outcome =>
      refine goes_ok (serves_bind (serves_lift fun later relied _ => ?_))
      have owning := owning.later relied
      have bundle := (steady_bundle setup run evidence).later relied bundle
      cases accepted : validateCitations outcome.result (evidence.map Evidence.evidenceId) with
      | ok done =>
          have cites := Db.cites_of_listed bundle.parsed accepted
          refine goes_ok (serves_pure fun last relied _ =>
            ⟨owning.later relied, fun other same => ?_, by simp⟩)
          obtain rfl := Except.ok.inj same
          exact cites.moves relied.rely.moves.db (.refl run)
      | error exception =>
          refine goes_error fun last relied _ =>
            ⟨owning.later relied, by simp, fun other same _ => ?_⟩
          obtain rfl := Except.error.inj same
          obtain ⟨message, rfl⟩ := valueError_of_validateCitations accepted
          exact not_lostTransition (by simp [Failure.conflict])

/-- What replaces an exception of the adapter is a failure of the reasoning. -/
theorem reasoningFailure_of_caught {exception replacement : Failure} {code : String}
    (caught : InvestigationService.caughtReasoning exception = some (code, replacement)) :
    ∃ message, replacement = .reasoningFailure code message := by
  cases exception <;> simp [InvestigationService.caughtReasoning] at caught
  · obtain ⟨rfl, rfl⟩ := caught
    exact ⟨_, rfl⟩
  · obtain ⟨rfl, rfl⟩ := caught
    exact ⟨_, rfl⟩

theorem serves_invokeReasoning (claiming : Claiming t run.runId .reasoning view)
    (known : Known setup principal run view)
    (bundle : view.db.Bundle setup.service run evidence) :
    setup.protocol.Serves t (InvestigationService.invokeReasoning principal run evidence)
      (fun result last => View.Unclaimed last t ∧
        (Called setup run .reasoning result last ∨ result = .error .connectionLost)) view := by
  refine serves_releasing (steady_called setup run .reasoning)
    (serves_attempt (serves_mono (fun result last _ post => ?_)
      (serves_steady (steady_known setup principal run) known
        (serves_askAdapter claiming bundle))))
  obtain ⟨⟨owning, cites, plain⟩, known⟩ := post
  cases result with
  | ok outcome =>
      refine serves_settled (fun later relied row ofTool status result metadata =>
        .reasoned outcome ofTool status result metadata
          ((cites outcome rfl).moves relied.rely.moves.db (.refl run)))
        (fun last completed => serves_pure ?_) owning known
      exact Steady.staysPost (steady_called setup run .reasoning) (completed rfl)
  | error exception =>
      dsimp only
      split
      · rename_i code replacement caught
        obtain ⟨message, rfl⟩ := reasoningFailure_of_caught caught
        refine serves_settled (fun _ _ row _ status result metadata =>
          .failed code status result metadata) (fun last _ => serves_raise ?_) owning known
        exact Steady.staysPost (steady_called setup run .reasoning)
          fun _ => not_lostTransition (by simp [Failure.conflict])
      · exact serves_raise (Steady.staysPost (steady_called setup run .reasoning)
          (plain exception rfl))

theorem keyError_of_requireMember {metadata : Json} {key : String} {exception : Failure}
    (raised : InvestigationService.requireMember metadata key = .error exception) :
    exception = .keyError key := by
  unfold InvestigationService.requireMember at raised
  split at raised
  · cases raised
  · exact (Except.error.inj raised).symm

/-- A stored outcome that does not read back is a `ValueError` or a `KeyError`. -/
theorem raises_of_reasonOutcomeFromRow {row : ToolRow} {exception : Failure}
    (raised : InvestigationService.reasonOutcomeFromRow row = .error exception) :
    (∃ message, exception = .valueError message) ∨ ∃ key, exception = .keyError key := by
  unfold InvestigationService.reasonOutcomeFromRow at raised
  rcases bind_eq_error.mp raised with first | ⟨result, -, raised⟩
  · unfold InvestigationService.validateResult at first
    split at first
    · cases first
    · exact .inl ⟨_, (Except.error.inj first).symm⟩
  rcases bind_eq_error.mp raised with missing | ⟨modelId, -, raised⟩
  · exact .inr ⟨_, keyError_of_requireMember missing⟩
  rcases bind_eq_error.mp raised with missing | ⟨promptHash, -, raised⟩
  · exact .inr ⟨_, keyError_of_requireMember missing⟩
  rcases bind_eq_error.mp raised with missing | ⟨inputHash, -, raised⟩
  · exact .inr ⟨_, keyError_of_requireMember missing⟩
  rcases bind_eq_error.mp raised with missing | ⟨outputHash, -, raised⟩
  · exact .inr ⟨_, keyError_of_requireMember missing⟩
  rcases bind_eq_error.mp raised with missing | ⟨latencyMs, -, raised⟩
  · exact .inr ⟨_, keyError_of_requireMember missing⟩
  · cases raised

/-- What an existing reasoning row answers is no lost transition. -/
theorem called_observeReasoning {existing : ToolRow}
    (observed : Observed run .reasoning existing view) :
    Called setup run .reasoning (InvestigationService.observeReasoning existing) view := by
  unfold InvestigationService.observeReasoning
  split
  · rename_i completed
    cases read : InvestigationService.reasonOutcomeFromRow existing with
    | ok outcome => exact ⟨existing, observed.completed completed.1, completed.1⟩
    | error exception =>
        refine fun _ => not_lostTransition ?_
        rcases raises_of_reasonOutcomeFromRow read with ⟨message, rfl⟩ | ⟨key, rfl⟩ <;>
          simp [Failure.conflict]
  · exact fun _ => not_lostTransition (by simp [Failure.conflict])

theorem serves_reasonOnce (reasoning : run.state = .reasoning)
    (calm : Calm setup t principal run view) :
    setup.protocol.Serves t (setup.service.reasonOnce principal run)
      (Fetched setup t principal run .reasoning) view := by
  obtain ⟨evidence, bundle⟩ := calm.known.means.bundle (.inl reasoning)
  refine serves_bind (serves_mono (fun result last _ post => ?_) (serves_listing calm bundle))
  obtain ⟨rfl, calm, bundle⟩ := post
  refine goes_ok (serves_now (fun later relied => calm.later relied)
    fun now first relied calm => ?_)
  have bundle := (steady_bundle setup run evidence).later relied bundle
  refine serves_bind (serves_mono (fun result last _ post => ?_)
    (serves_steady (steady_bundle setup run evidence) bundle
      (serves_claimOrObserveTool (setup.service.provenance.canonicalHash_hex _)
        (fun later relied row ofTool ofHash => ?_) calm)))
  · obtain ⟨claimed, bundle⟩ := post
    rcases result with exception | ⟨existing, own⟩
    · exact goes_error (stays_fetched ⟨claimed.1, fun _ => claimed.2⟩)
    · cases own with
      | true =>
          refine goes_ok (serves_mono (fun ended last _ post => ?_)
            (serves_steady (steady_known setup principal run) claimed.2
              (serves_invokeReasoning claimed.1 claimed.2 bundle)))
          exact ⟨⟨post.1.1, post.2⟩, called_of_releasing post.1.2⟩
      | false =>
          exact goes_ok (serves_lift
            (stays_fetched ⟨claimed.1, called_observeReasoning claimed.2⟩))
  · unfold ToolRow.Asked
    rw [ofTool]
    exact ⟨evidence, (steady_bundle setup run evidence).later relied bundle, ofHash⟩

/-! ## The draft -/

/-- A grounded citation passes `validate_citations` against the bundle. -/
theorem cited_of_bundle {db : Db} {result : ReasoningResult}
    (bundle : db.Bundle setup.service run evidence) (cites : db.Cites setup.service run result) :
    validateCitations result (evidence.map Evidence.evidenceId) = .ok () := by
  refine validateCitations_eq_ok.mpr fun citation member => ?_
  obtain ⟨tool, ofTools, row, item, found, completed, parsed, rfl⟩ := cites citation member
  refine List.mem_map_of_mem ?_
  have stored : row.resultJson ∈ db.evidencePayloads run.tenantId run.runId :=
    List.mem_map_of_mem (List.mem_filter.mpr
      ⟨List.mem_filterMap.mpr ⟨tool, ofTools, found⟩, by simp [completed]⟩)
  obtain ⟨other, ofEvidence, parsedOther⟩ := exists_new_of_mem (mapM_eq_ok.mp bundle.parsed) stored
  obtain rfl : item = other := Except.ok.inj (parsed.symm.trans parsedOther)
  exact ofEvidence

/-- What the draft stage finds: the completed answer of the adapter, grounded in
the bundle. -/
structure Answered (setup : ServiceSetup) (run : RunRow) (result : ReasoningResult) (view : View) :
    Prop where
  bundle : ∃ evidence, view.db.Bundle setup.service run evidence
  row : ∃ row, view.db.tool? run.tenantId run.runId .reasoning = some row ∧
    row.status = .completed ∧ row.resultJson = some result.modelDump
  cites : view.db.Cites setup.service run result

theorem steady_answered (setup : ServiceSetup) (run : RunRow) (result : ReasoningResult) :
    Steady (Answered setup run result) := by
  intro before after moves answered
  obtain ⟨evidence, bundle⟩ := answered.bundle
  obtain ⟨row, found, completed, stored⟩ := answered.row
  exact ⟨⟨evidence, bundle.moves moves.db (.refl run)⟩,
    ⟨row, moves.db.settled found (by simp [completed]), completed, stored⟩,
    answered.cites.moves moves.db (.refl run)⟩

/-- The draft stage finds a result: neither of its codes is ever used. -/
theorem serves_draftResult (drafting : run.state = .draftingRecommendation)
    (calm : Calm setup t principal run view) :
    setup.protocol.Serves t (setup.service.draftResult principal run)
      (fun ended last => ∃ result, ended = .ok (.ok result) ∧
        Calm setup t principal run last ∧ Answered setup run result last) view := by
  obtain ⟨evidence, bundle⟩ := calm.known.means.bundle (.inr drafting)
  obtain ⟨row, found, completed⟩ := calm.known.means.reasoned drafting
  have reads : ∀ later, setup.protocol.Later t view later →
      later.db.tool? principal.tenantId run.runId .reasoning = some row := by
    intro later relied
    rw [← calm.known.tenant]
    exact relied.rely.moves.db.settled found (by simp [completed])
  rw [InvestigationService.draftResult, getTool]
  refine serves_select (fun db => db.tool? principal.tenantId run.runId .reasoning)
    (fun _ _ _ => rfl) fun first relied holds => ?_
  simp only [reads first relied, completed, ne_eq, not_true_eq_false, if_false]
  have calm := calm.later relied
  have bundle := (steady_bundle setup run evidence).later relied bundle
  have foundFirst : first.db.tool? run.tenantId run.runId .reasoning = some row := by
    rw [calm.known.tenant]
    exact reads first relied
  obtain ⟨stored, -⟩ := Db.tool?_eq_some.mp foundFirst
  obtain ⟨other, foundRun, means⟩ := holds.inv.means.tools _ _ _ stored
  obtain ⟨now, foundNow, movesRun⟩ := calm.known.stored
  obtain rfl : other = now := Option.some.inj (foundRun.symm.trans foundNow)
  obtain ⟨-, ofTool⟩ := holds.keyed.tools _ _ _ stored
  obtain ⟨outcome, answer, -, cited⟩ := means.reasoned ofTool completed
  have cites : first.db.Cites setup.service run outcome.result := by
    intro citation member
    obtain ⟨tool, ofTools, cited, item, there, rest⟩ := cited citation member
    refine ⟨tool, ofTools, cited, item, ?_, rest⟩
    rwa [movesRun.same.tenantId, movesRun.same.runId] at there
  have answered : Answered setup run outcome.result first :=
    ⟨⟨evidence, bundle⟩, ⟨row, foundFirst, completed, answer⟩, cites⟩
  have validated : InvestigationService.validateResult row.resultJson = .ok outcome.result := by
    simp [InvestigationService.validateResult, answer]
  have storedResult : setup.protocol.Serves t
      (setup.service.storedResult principal run row)
      (fun ended last => ended = .ok outcome.result ∧ Calm setup t principal run last) first := by
    rw [InvestigationService.storedResult, validated]
    refine serves_bind (serves_lift (stays_goes_ok ?_))
    refine serves_bind (serves_mono (fun ended last _ post => ?_) (serves_listing calm bundle))
    obtain ⟨rfl, calm, bundleLast⟩ := post
    refine goes_ok (serves_bind (serves_lift ?_))
    rw [cited_of_bundle bundle cites]
    exact stays_goes_ok (serves_pure fun later relied _ => ⟨rfl, calm.later relied⟩)
  refine serves_attempt (serves_mono (fun ended last _ post => ?_)
    (serves_steady (steady_answered setup run outcome.result) answered storedResult))
  obtain ⟨⟨rfl, calm⟩, answered⟩ := post
  exact serves_pure fun later relied _ => ⟨outcome.result, rfl, calm.later relied,
    (steady_answered setup run outcome.result).later relied answered⟩

end Stages

end ServiceSetup

end StockoutOps.Investigation
