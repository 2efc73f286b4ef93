import StockoutOps.Investigation.RunMoves
import StockoutOps.Investigation.Service

/-!
Contract: what the rows of the investigation tables mean.

Owns: a validated bundle and a grounded citation, what a key, a run, a tool row
and a decision each stand for, the invariant of the visible state, and that a
row that means something goes on meaning it while the tables move on.

Does not own: who may write a row.
-/

namespace StockoutOps.Investigation

open StockoutOps.Sql

section Rows

variable {service : InvestigationService} {db after : Db} {run next : RunRow}

/-! ## Evidence -/

/-- The evidence of a run, complete and accepted by `validate_bundle`. -/
structure Db.Bundle (service : InvestigationService) (db : Db) (run : RunRow)
    (evidence : List Evidence) : Prop where
  parsed : service.codec.parseAll (db.evidencePayloads run.tenantId run.runId) = .ok evidence
  valid : validateBundle service.provenance evidence run.asOfTs = .ok ()

theorem length_of_validateBundle {provenance : Provenance} {bundle : List Evidence}
    {asOfTs : Timestamp} (valid : validateBundle provenance bundle asOfTs = .ok ()) :
    bundle.length = 3 := by
  by_contra other
  simp [validateBundle, other, throw, throwThe, MonadExceptOf.throw, bind, Except.bind] at valid

/-- When nothing is filtered out, every lookup has found what was looked for. -/
theorem exists_of_length_filter {α β : Type} {items : List α} {lookup : α → Option β}
    {accepted : β → Bool}
    (complete : ((items.filterMap lookup).filter accepted).length = items.length) :
    ∀ item ∈ items, ∃ row, lookup item = some row ∧ accepted row = true := by
  induction items with
  | nil => simp
  | cons head tail inductionHypothesis =>
      have bound : ((tail.filterMap lookup).filter accepted).length ≤ tail.length :=
        (List.length_filter_le _ _).trans (List.length_filterMap_le _ _)
      cases found : lookup head with
      | none =>
          simp [found] at complete
          omega
      | some row =>
          by_cases kept : accepted row = true
          · simp [found, kept] at complete
            intro item member
            rcases List.mem_cons.mp member with rfl | rest
            · exact ⟨row, found, kept⟩
            · exact inductionHypothesis complete item rest
          · simp [found, kept] at complete
            omega

/-- A validated bundle comes from three completed rows. -/
theorem Db.Bundle.completed {evidence : List Evidence} (bundle : db.Bundle service run evidence) :
    ∀ tool ∈ ToolName.evidenceTools, ∃ row,
      db.tool? run.tenantId run.runId tool = some row ∧ row.status = .completed := by
  have parsed := (mapM_eq_ok.mp bundle.parsed).length_eq
  have complete : ((ToolName.evidenceTools.filterMap
      (db.tool? run.tenantId run.runId)).filter
        (fun row => row.status == .completed)).length = ToolName.evidenceTools.length := by
    rw [length_of_validateBundle bundle.valid, Db.evidencePayloads, List.length_map] at parsed
    exact parsed
  intro tool member
  obtain ⟨row, found, completed⟩ := exists_of_length_filter complete tool member
  exact ⟨row, found, by simpa using completed⟩

theorem Db.Bundle.moves {evidence : List Evidence} (bundle : db.Bundle service run evidence)
    (moves : db.MovesOn after) (same : run.SameRun next) :
    after.Bundle service next evidence := by
  have kept : ToolName.evidenceTools.filterMap (after.tool? next.tenantId next.runId) =
      ToolName.evidenceTools.filterMap (db.tool? run.tenantId run.runId) := by
    rw [same.tenantId, same.runId]
    refine List.filterMap_congr fun tool member => ?_
    obtain ⟨row, found, completed⟩ := bundle.completed tool member
    rw [found]
    exact moves.settled found (by simp [completed])
  refine ⟨?_, same.asOfTs ▸ bundle.valid⟩
  rw [Db.evidencePayloads, kept]
  exact bundle.parsed

/-- A citation is the id of the evidence in a completed row of the run. -/
def Db.Grounds (service : InvestigationService) (db : Db) (run : RunRow) (citation : String) :
    Prop :=
  ∃ tool ∈ ToolName.evidenceTools, ∃ row item,
    db.tool? run.tenantId run.runId tool = some row ∧ row.status = .completed ∧
    service.codec.parseEvidence row.resultJson = .ok item ∧ item.evidenceId = citation

/-- Every citation of a result is grounded. -/
def Db.Cites (service : InvestigationService) (db : Db) (run : RunRow)
    (result : ReasoningResult) : Prop :=
  ∀ citation ∈ result.citations, db.Grounds service run citation

/-- What `validate_citations` accepts against the listed evidence is grounded. -/
theorem Db.cites_of_listed {evidence : List Evidence} {result : ReasoningResult}
    (listed : service.codec.parseAll (db.evidencePayloads run.tenantId run.runId) = .ok evidence)
    (accepted : validateCitations result (evidence.map Evidence.evidenceId) = .ok ()) :
    db.Cites service run result := by
  intro citation member
  have cited := validateCitations_eq_ok.mp accepted citation member
  obtain ⟨item, ofEvidence, rfl⟩ := List.mem_map.mp cited
  obtain ⟨payload, stored, parsed⟩ := exists_old_of_mem (mapM_eq_ok.mp listed) ofEvidence
  obtain ⟨row, kept, rfl⟩ := List.mem_map.mp stored
  obtain ⟨found, completed⟩ := List.mem_filter.mp kept
  obtain ⟨tool, ofTools, there⟩ := List.mem_filterMap.mp found
  exact ⟨tool, ofTools, row, item, there, by simpa using completed, parsed, rfl⟩

theorem Db.Grounds.moves {citation : String} (grounds : db.Grounds service run citation)
    (moves : db.MovesOn after) (same : run.SameRun next) :
    after.Grounds service next citation := by
  obtain ⟨tool, member, row, item, found, completed, rest⟩ := grounds
  refine ⟨tool, member, row, item, ?_, completed, rest⟩
  rw [same.tenantId, same.runId]
  exact moves.settled found (by simp [completed])

theorem Db.Cites.moves {result : ReasoningResult} (cites : db.Cites service run result)
    (moves : db.MovesOn after) (same : run.SameRun next) : after.Cites service next result :=
  fun citation member => (cites citation member).moves moves same

/-! ## Keys -/

/-- A key belongs to a run of its tenant and payload, in one of its `Modes`. -/
def KeyRow.Backed (Modes : KeyId → String → RunMode → Prop) (db : Db) (row : KeyRow) : Prop :=
  ∃ run, db.runs row.runId = some run ∧ run.tenantId = row.tenantId ∧
    run.requestHash = row.payloadHash ∧ Modes row.id row.payloadHash run.runMode

theorem KeyRow.Backed.moves {Modes : KeyId → String → RunMode → Prop} {row : KeyRow}
    (backed : row.Backed Modes db) (moves : db.MovesOn after) : row.Backed Modes after := by
  obtain ⟨run, found, tenant, hash, mode⟩ := backed
  obtain ⟨next, there, movesRun⟩ := moves.runs _ _ found
  have same := movesRun.same
  exact ⟨next, there, same.tenantId.trans tenant, same.requestHash.trans hash,
    same.runMode ▸ mode⟩

/-! ## Tool rows -/

/-- What the status of a tool row says of its other columns. -/
inductive ToolRow.Answer (service : InvestigationService) (db : Db) (run : RunRow)
    (row : ToolRow) : Prop where
  | started (status : row.status = .started) (result : row.resultJson = none)
      (completed : row.completedAt = none)
  | failed (code : String) (status : row.status = .failed) (result : row.resultJson = none)
      (metadata : row.metadataJson = errorMetadata code)
  | evidence (item : Evidence) (tool : row.toolName ≠ .reasoning)
      (status : row.status = .completed)
      (result : row.resultJson = some (service.codec.modelDump item))
      (metadata : row.metadataJson = .obj [("evidence_id", .str item.evidenceId)])
  | reasoned (outcome : ReasoningOutcome) (tool : row.toolName = .reasoning)
      (status : row.status = .completed) (result : row.resultJson = some outcome.result.modelDump)
      (metadata : row.metadataJson = outcome.metadata)
      (cites : db.Cites service run outcome.result)

/-- The `evidence_query` of a tool, from the columns of the run. -/
def runQuery (run : RunRow) : EvidenceQuery where
  tenantId := run.tenantId
  skuId := run.skuId
  storeId := run.storeId
  supplierId := run.supplierId
  asOfTs := run.asOfTs
  windowStart := run.windowStart
  windowEnd := run.windowEnd

theorem evidenceQuery_eq {principal : Principal} (tenant : run.tenantId = principal.tenantId) :
    evidenceQuery principal run = runQuery run := by
  simp [evidenceQuery, runQuery, tenant]

theorem runQuery_same (same : run.SameRun next) : runQuery next = runQuery run := by
  simp [runQuery, same.tenantId, same.skuId, same.storeId, same.supplierId, same.asOfTs,
    same.windowStart, same.windowEnd]

/-- What a tool was asked, as far as the row tells: the hash of the query of the
run, and for the reasoning the hash of a validated bundle. -/
def ToolRow.Asked (service : InvestigationService) (db : Db) (run : RunRow) (row : ToolRow) :
    Prop :=
  match row.toolName with
  | .reasoning => ∃ evidence, db.Bundle service run evidence ∧
      row.requestHash =
        service.provenance.canonicalHash (.arr (evidence.map service.codec.modelDump))
  | tool => row.requestHash =
      service.provenance.canonicalHash ((runQuery run).toJson service.provenance tool)

structure ToolRow.Means (service : InvestigationService) (db : Db) (run : RunRow)
    (row : ToolRow) : Prop where
  tenant : run.tenantId = row.tenantId
  asked : row.Asked service db run
  answer : row.Answer service db run

theorem ToolRow.Answer.moves {row : ToolRow} (answer : row.Answer service db run)
    (moves : db.MovesOn after) (same : run.SameRun next) : row.Answer service after next := by
  cases answer with
  | started status result completed => exact .started status result completed
  | failed code status result metadata => exact .failed code status result metadata
  | evidence item tool status result metadata => exact .evidence item tool status result metadata
  | reasoned outcome tool status result metadata cites =>
      exact .reasoned outcome tool status result metadata (cites.moves moves same)

/-- What was asked depends on the name and the hash of the row only. -/
theorem ToolRow.Asked.moves {row other : ToolRow} (asked : row.Asked service db run)
    (name : other.toolName = row.toolName) (hash : other.requestHash = row.requestHash)
    (moves : db.MovesOn after) (same : run.SameRun next) : other.Asked service after next := by
  unfold ToolRow.Asked at asked ⊢
  rw [name, hash]
  cases tool : row.toolName with
  | reasoning =>
      rw [tool] at asked
      obtain ⟨evidence, bundle, hashed⟩ := asked
      exact ⟨evidence, bundle.moves moves same, hashed⟩
  | inventory | salesDemand | supplier =>
      rw [tool] at asked
      simpa [runQuery_same same] using asked

theorem ToolRow.Means.moves {row : ToolRow} (means : row.Means service db run)
    (moves : db.MovesOn after) (same : run.SameRun next) : row.Means service after next :=
  ⟨same.tenantId.trans means.tenant, means.asked.moves rfl rfl moves same,
    means.answer.moves moves same⟩

/-- A completed reasoning row holds a grounded result. -/
theorem ToolRow.Means.reasoned {row : ToolRow} (means : row.Means service db run)
    (tool : row.toolName = .reasoning) (completed : row.status = .completed) :
    ∃ outcome : ReasoningOutcome, row.resultJson = some outcome.result.modelDump ∧
      row.metadataJson = outcome.metadata ∧ db.Cites service run outcome.result := by
  cases means.answer with
  | started status => simp [completed] at status
  | failed _ status => simp [completed] at status
  | evidence _ other => exact absurd tool other
  | reasoned outcome _ _ result metadata cites => exact ⟨outcome, result, metadata, cites⟩

/-! ## Runs -/

/-- The reasoning of the run has been completed. -/
def Db.Reasoned (db : Db) (run : RunRow) : Prop :=
  ∃ row, db.tool? run.tenantId run.runId .reasoning = some row ∧ row.status = .completed

theorem Db.Reasoned.moves (reasoned : db.Reasoned run) (moves : db.MovesOn after)
    (same : run.SameRun next) : after.Reasoned next := by
  obtain ⟨row, found, completed⟩ := reasoned
  refine ⟨row, ?_, completed⟩
  rw [same.tenantId, same.runId]
  exact moves.settled found (by simp [completed])

/-- The draft of a run is the completed answer of the adapter on a validated
bundle, and expires with the review policy. -/
structure Db.Drafted (service : InvestigationService) (db : Db) (run : RunRow)
    (result : ReasoningResult) : Prop where
  bundle : ∃ evidence, db.Bundle service run evidence
  answered : ∃ row, db.tool? run.tenantId run.runId .reasoning = some row ∧
    row.status = .completed ∧ row.resultJson = some result.modelDump
  cites : db.Cites service run result
  draftJson : run.draftJson = some result.modelDump
  draftHash : run.draftHash = some (service.provenance.canonicalHash result.modelDump)
  window : ∃ created, run.draftCreatedAt = some created ∧
    run.reviewExpiresAt = some (created + reviewPolicy)

theorem Db.Drafted.moves {result : ReasoningResult} (drafted : db.Drafted service run result)
    (moves : db.MovesOn after) (movesRun : run.MovesTo next) :
    after.Drafted service next result := by
  have same := movesRun.same
  have kept := movesRun.draft (by simp [drafted.draftJson])
  obtain ⟨evidence, bundle⟩ := drafted.bundle
  obtain ⟨row, found, completed, answer⟩ := drafted.answered
  obtain ⟨created, at_, expires⟩ := drafted.window
  refine ⟨⟨evidence, bundle.moves moves same⟩, ⟨row, ?_, completed, answer⟩,
    drafted.cites.moves moves same, kept.draftJson.trans drafted.draftJson,
    kept.draftHash.trans drafted.draftHash,
    ⟨created, kept.draftCreatedAt.trans at_, kept.reviewExpiresAt.trans expires⟩⟩
  rw [same.tenantId, same.runId]
  exact moves.settled found (by simp [completed])

/-- What the state of a run says of its evidence and its draft. -/
structure RunRow.Means (service : InvestigationService) (db : Db) (run : RunRow) : Prop where
  committed : run.state.committed = true
  bundle : run.state = .reasoning ∨ run.state = .draftingRecommendation →
    ∃ evidence, db.Bundle service run evidence
  reasoned : run.state = .draftingRecommendation → db.Reasoned run
  undrafted : run.state.automatic = true → run.draftJson = none
  awaiting : run.state = .awaitingHuman → run.draftJson.isSome = true
  drafted : run.draftJson.isSome = true → ∃ result, db.Drafted service run result
  closed : run.state = .closed → ∃ decision ∈ db.decisions, decision.runId = run.runId

theorem RunRow.Means.moves (means : run.Means service db) (moves : db.MovesOn after) :
    run.Means service after where
  committed := means.committed
  bundle := by
    intro state
    obtain ⟨evidence, bundle⟩ := means.bundle state
    exact ⟨evidence, bundle.moves moves (.refl run)⟩
  reasoned := fun state => (means.reasoned state).moves moves (.refl run)
  undrafted := means.undrafted
  awaiting := means.awaiting
  drafted := by
    intro drafted
    obtain ⟨result, there⟩ := means.drafted drafted
    exact ⟨result, there.moves moves (.refl run)⟩
  closed := by
    intro closed
    obtain ⟨decision, member, ofRun⟩ := means.closed closed
    obtain ⟨added, longer⟩ := moves.evolves.decisions
    exact ⟨decision, by simp [longer, member], ofRun⟩

/-! ## Decisions -/

/-- A decision is one the service allows: on a closed run for a human, by its
reviewer, on its draft, in time, with an edit exactly where the action asks for one. -/
structure DecisionRow.Means (service : InvestigationService) (db : Db) (run : RunRow)
    (decision : DecisionRow) : Prop where
  tenant : run.tenantId = decision.tenantId
  human : run.runMode = .humanReview
  reviewer : decision.reviewerId = run.assignedReviewerId
  closed : run.state = .closed
  draft : run.draftJson = some decision.originalDraft
  draftHash : run.draftHash = decision.originalDraftHash
  inTime : ∃ expires, run.reviewExpiresAt = some expires ∧ decision.decidedAt ≤ expires
  edits : decision.editedPayload.isSome = true ↔ decision.action = .editApprove
  edited : ∀ payload, decision.editedPayload = some payload →
    ∃ result : ReasoningResult, payload = result.modelDump ∧
      decision.editedPayloadHash = some (service.provenance.canonicalHash payload) ∧
      db.Cites service run result
  reasoned : decision.action = .reject ∨ decision.action = .escalate →
    ∃ reason, decision.reason = some reason ∧ reason ≠ ""

theorem DecisionRow.Means.moves {decision : DecisionRow} (means : decision.Means service db run)
    (moves : db.MovesOn after) (movesRun : run.MovesTo next) :
    decision.Means service after next := by
  have same := movesRun.same
  have kept := movesRun.draft (by simp [means.draft])
  obtain ⟨expires, window, inTime⟩ := means.inTime
  refine
    { tenant := same.tenantId.trans means.tenant
      human := same.runMode.trans means.human
      reviewer := means.reviewer.trans same.assignedReviewerId.symm
      closed := movesRun.closed means.closed
      draft := kept.draftJson.trans means.draft
      draftHash := kept.draftHash.trans means.draftHash
      inTime := ⟨expires, kept.reviewExpiresAt.trans window, inTime⟩
      edits := means.edits
      edited := fun payload stored => ?_
      reasoned := means.reasoned }
  obtain ⟨result, dumped, hashed, cites⟩ := means.edited payload stored
  exact ⟨result, dumped, hashed, cites.moves moves same⟩

/-! ## Events -/

/-- A genuine event is the creation of a run, or a transition the service takes. -/
def EventRow.Means (event : EventRow) : Prop :=
  event.genuine = true →
    (event.fromState = none ∧ event.toState = some .created) ∨
      ∃ current target, event.fromState = some current ∧ event.toState = some target ∧
        target ∈ serviceTransitions current

theorem EventRow.means_still {event : EventRow} (still : event.genuine = false) :
    event.Means := fun genuine => by simp [still] at genuine

end Rows

/-! ## The visible state -/

/-- Whoever inserted the row of a tool calls the tool before it settles the row, and
nobody else does. -/
structure View.CalledOnce (view : View) : Prop where
  claimed : ∀ runId tool, (view.claimedBy runId tool).isSome = (view.db.tools runId tool).isSome
  once : ∀ runId tool, view.invocations.count (runId, tool) ≤ 1
  fresh : ∀ runId tool, view.claimedBy runId tool = none →
    view.invocations.count (runId, tool) = 0
  settled : ∀ runId tool row, view.db.tools runId tool = some row → row.status ≠ .started →
    view.invocations.count (runId, tool) = 1

structure Db.Means (service : InvestigationService) (Modes : KeyId → String → RunMode → Prop)
    (db : Db) : Prop where
  keys : ∀ key row, db.keys key = some row → row.Backed Modes db
  runs : ∀ runId row, db.runs runId = some row → row.Means service db
  tools : ∀ runId tool row, db.tools runId tool = some row →
    ∃ run, db.runs runId = some run ∧ row.Means service db run
  decisions : ∀ decision ∈ db.decisions,
    ∃ run, db.runs decision.runId = some run ∧ decision.Means service db run
  events : ∀ event ∈ db.events, event.Means
  decidedOnce : ∀ runId, (db.decisionsOf runId).length ≤ 1

theorem Db.means_empty {service : InvestigationService}
    {Modes : KeyId → String → RunMode → Prop} : Db.empty.Means service Modes where
  keys := fun _ _ found => by simp [Db.empty] at found
  runs := fun _ _ found => by simp [Db.empty] at found
  tools := fun _ _ _ found => by simp [Db.empty] at found
  decisions := fun _ member => by simp [Db.empty] at member
  events := fun _ member => by simp [Db.empty] at member
  decidedOnce := fun _ => by simp [Db.empty, Db.decisionsOf]

section Moves

variable {service : InvestigationService} {Modes : KeyId → String → RunMode → Prop}
  {db after : Db}

/-- While the tables move on, only what is new has to be looked at. -/
theorem Db.Means.moves (means : db.Means service Modes) (moves : db.MovesOn after)
    (keys : ∀ key row, after.keys key = some row →
      db.keys key = some row ∨ row.Backed Modes after)
    (runs : ∀ runId row, after.runs runId = some row →
      db.runs runId = some row ∨ row.Means service after)
    (tools : ∀ runId tool row, after.tools runId tool = some row →
      db.tools runId tool = some row ∨
        ∃ run, after.runs runId = some run ∧ row.Means service after run)
    (decisions : ∀ decision ∈ after.decisions, decision ∈ db.decisions ∨
      ∃ run, after.runs decision.runId = some run ∧ decision.Means service after run)
    (events : ∀ event ∈ after.events, event ∈ db.events ∨ event.Means)
    (decidedOnce : ∀ runId, (after.decisionsOf runId).length ≤ 1) :
    after.Means service Modes where
  keys := by
    intro key row found
    rcases keys key row found with old | new
    · exact (means.keys key row old).moves moves
    · exact new
  runs := by
    intro runId row found
    rcases runs runId row found with old | new
    · exact (means.runs runId row old).moves moves
    · exact new
  tools := by
    intro runId tool row found
    rcases tools runId tool row found with old | new
    · obtain ⟨run, stored, rowMeans⟩ := means.tools runId tool row old
      obtain ⟨next, there, movesRun⟩ := moves.runs _ _ stored
      exact ⟨next, there, rowMeans.moves moves movesRun.same⟩
    · exact new
  decisions := by
    intro decision member
    rcases decisions decision member with old | new
    · obtain ⟨run, stored, rowMeans⟩ := means.decisions decision old
      obtain ⟨next, there, movesRun⟩ := moves.runs _ _ stored
      exact ⟨next, there, rowMeans.moves moves movesRun⟩
    · exact new
  events := by
    intro event member
    rcases events event member with old | new
    · exact means.events event old
    · exact new
  decidedOnce := decidedOnce

/-- An event changes the meaning of no row. -/
theorem Db.Means.event (means : db.Means service Modes) {event : EventRow}
    (eventMeans : event.Means) : (db.applyAll [.insertEvent event]).Means service Modes := by
  refine means.moves (Db.movesOn_event db event) (fun _ _ found => .inl found)
    (fun _ _ found => .inl found) (fun _ _ _ found => .inl found) (fun _ member => .inl member)
    (fun other member => (List.mem_append.mp member).imp_right fun new => ?_) means.decidedOnce
  rw [List.mem_singleton.mp new]
  exact eventMeans

/-- A run has moved. -/
theorem Db.Means.transition (means : db.Means service Modes) {old row : RunRow}
    (stored : db.runs row.runId = some old) (movesRun : old.MovesTo row)
    (checked : checkAll row.checks = .ok ()) (rowMeans : row.Means service db)
    {event : EventRow} (eventMeans : event.Means) :
    (db.applyAll [.updateRun row, .insertEvent event]).Means service Modes := by
  have moves := Db.movesOn_transition stored movesRun checked event
  refine means.moves moves (fun _ _ found => .inl found) (fun runId other found => ?_)
    (fun _ _ _ found => .inl found) (fun _ member => .inl member)
    (fun other member => (List.mem_append.mp member).imp_right fun new => ?_) means.decidedOnce
  · have found : Function.update db.runs row.runId (some row) runId = some other := found
    by_cases here : runId = row.runId
    · subst here
      rw [Function.update_self] at found
      obtain rfl := Option.some.inj found
      exact .inr (rowMeans.moves moves)
    · rw [Function.update_of_ne here] at found
      exact .inl found
  · rw [List.mem_singleton.mp new]
    exact eventMeans

/-- An intake has won its key. -/
theorem Db.Means.created (means : db.Means service Modes) {call : IntakeCall} {runId : RunId}
    {eventId : Nat} (fresh : db.runs runId = none) (unused : db.keys call.key = none)
    (checked : checkAll (call.runRow runId).checks = .ok ())
    (mode : Modes call.key call.payloadHash call.runMode) :
    (db.applyAll (call.created runId eventId)).Means service Modes := by
  have moves : db.MovesOn (db.applyAll (call.created runId eventId)) :=
    Db.movesOn_created fresh unused checked
  have stored : (db.applyAll (call.created runId eventId)).runs runId =
      some (call.runRow runId) := Function.update_self _ _ _
  refine means.moves moves (fun key row found => ?_) (fun other row found => ?_)
    (fun _ _ _ found => .inl found) (fun _ member => .inl member) (fun event member => ?_)
    means.decidedOnce
  · have found : Function.update db.keys call.key (some (call.keyRow runId)) key = some row :=
      found
    by_cases here : key = call.key
    · subst here
      rw [Function.update_self] at found
      obtain rfl := Option.some.inj found
      exact .inr ⟨call.runRow runId, stored, rfl, rfl, mode⟩
    · rw [Function.update_of_ne here] at found
      exact .inl found
  · have found : Function.update db.runs runId (some (call.runRow runId)) other = some row :=
      found
    by_cases here : other = runId
    · subst here
      rw [Function.update_self] at found
      obtain rfl := Option.some.inj found
      refine .inr ⟨rfl, fun state => ?_, fun state => ?_, fun _ => rfl, fun state => ?_,
        fun some_ => ?_, fun state => ?_⟩
      · simp [IntakeCall.runRow] at state
      · simp [IntakeCall.runRow] at state
      · simp [IntakeCall.runRow] at state
      · simp [IntakeCall.runRow] at some_
      · simp [IntakeCall.runRow] at state
    · rw [Function.update_of_ne here] at found
      exact .inl found
  · refine (List.mem_append.mp member).imp_right fun new => ?_
    rw [List.mem_singleton.mp new]
    exact fun _ => .inl ⟨rfl, rfl⟩

/-- A tool row is inserted or settled. -/
theorem Db.Means.setTool (means : db.Means service Modes) {row : ToolRow} {run : RunRow}
    (movesRow : ∀ old, db.tools row.runId row.toolName = some old → old.MovesTo row)
    (stored : db.runs row.runId = some run) (rowMeans : row.Means service (db.setTool row) run) :
    (db.setTool row).Means service Modes := by
  refine means.moves (Db.movesOn_setTool movesRow) (fun _ _ found => .inl found)
    (fun _ _ found => .inl found) (fun runId tool other found => ?_) (fun _ member => .inl member)
    (fun _ member => .inl member) means.decidedOnce
  by_cases here : (runId, tool) = (row.runId, row.toolName)
  · obtain ⟨rfl, rfl⟩ := Prod.mk.inj here
    obtain rfl : row = other := by simpa using found
    exact .inr ⟨run, stored, rowMeans⟩
  · exact .inl ((Db.tools_setTool_of_ne here).symm.trans found)

/-- A run has been decided. -/
theorem Db.Means.decided (means : db.Means service Modes) {call : ReviewCall} {run : RunRow}
    {decidedId closedId : Nat} (stored : db.runs run.runId = some run)
    (awaits : run.state = .awaitingHuman) (checked : checkAll run.checks = .ok ())
    (undecided : db.decisionsOf run.runId = [])
    (rowMeans : (call.decisionRow run).Means service db (call.closedRun run)) :
    (db.applyAll (call.decided run decidedId closedId)).Means service Modes := by
  have moves : db.MovesOn (db.applyAll (call.decided run decidedId closedId)) :=
    Db.movesOn_decided stored awaits checked
  have runs : (db.applyAll (call.decided run decidedId closedId)).runs =
      Function.update db.runs run.runId (some (call.closedRun run)) := ReviewCall.runs_decided
  refine means.moves moves (fun _ _ found => .inl found) (fun runId row found => ?_)
    (fun _ _ _ found => .inl found) (fun decision member => ?_) (fun event member => ?_)
    (fun runId => ?_)
  · rw [runs] at found
    by_cases here : runId = run.runId
    · subst here
      rw [Function.update_self] at found
      obtain rfl := Option.some.inj found
      refine .inr ⟨rfl, fun state => ?_, fun state => ?_, fun state => ?_, fun state => ?_,
        fun drafted => ?_, fun _ => ⟨call.decisionRow run, ?_, rfl⟩⟩
      · simp [ReviewCall.closedRun, setState] at state
      · simp [ReviewCall.closedRun, setState] at state
      · simp [ReviewCall.closedRun, setState, RunState.automatic] at state
      · simp [ReviewCall.closedRun, setState] at state
      · obtain ⟨result, there⟩ := (means.runs _ _ stored).drafted drafted
        exact ⟨result, there.moves moves (ReviewCall.movesTo_closedRun awaits)⟩
      · exact List.mem_append_right _ (List.mem_singleton.mpr rfl)
    · rw [Function.update_of_ne here] at found
      exact .inl found
  · rcases List.mem_append.mp member with old | new
    · exact .inl old
    · obtain rfl := List.mem_singleton.mp new
      refine .inr ⟨call.closedRun run, ?_, rowMeans.moves moves (.refl _)⟩
      rw [runs]
      exact Function.update_self _ _ _
  · have appended : (db.applyAll (call.decided run decidedId closedId)).events =
        db.events ++ [(call.decidedEvent run).numbered decidedId] ++
          [(call.closedEvent run).numbered closedId] := rfl
    rw [appended, List.append_assoc, List.mem_append] at member
    refine member.imp_right fun new => ?_
    obtain ⟨decides, closes⟩ := call.action.mem_serviceTransitions
    rcases List.mem_append.mp new with decided | closed
    · rw [List.mem_singleton.mp decided]
      exact fun _ => .inr ⟨.awaitingHuman, call.action.target, rfl, rfl, decides⟩
    · rw [List.mem_singleton.mp closed]
      exact fun _ => .inr ⟨call.action.target, .closed, rfl, rfl, closes⟩
  · have appended : (db.applyAll (call.decided run decidedId closedId)).decisions =
        db.decisions ++ [call.decisionRow run] := rfl
    rw [Db.decisionsOf, appended, List.filter_append, List.length_append]
    by_cases here : run.runId = runId
    · subst here
      have none_ : db.decisions.filter (fun decision => decision.runId == run.runId) = [] :=
        undecided
      simp [none_, ReviewCall.decisionRow]
    · have skipped : ((call.decisionRow run).runId == runId) = false := by
        simpa [ReviewCall.decisionRow] using here
      rw [List.filter_cons_of_neg (by simp [skipped])]
      exact means.decidedOnce runId

end Moves

end StockoutOps.Investigation
