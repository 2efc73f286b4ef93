import StockoutOps.Investigation.ServiceReads

/-!
Contract: the investigation service in use, by any number of callers that may
crash or lose a session anywhere.

Owns: the system of its calls, and what holds of it in every reachable state and
between any two of them.

Does not own: how one call keeps the protocol.
-/

namespace StockoutOps.Investigation

open StockoutOps.Sql StockoutOps.Foundation.Interleaving

/-- A call of one of the methods of the service. -/
inductive ServiceCall where
  | intake (principal : Principal) (fuel : Nat) (arguments : IntakeArguments)
  | review (principal : Principal) (runId : RunId) (request : ReviewRequest)
      (idempotencyKey : String)
  | detail (principal : Principal) (runId : RunId)
  | audit (principal : Principal) (runId : RunId)

/-- What such a call returns. -/
inductive ServiceReply where
  | intake (result : RunRow × Bool)
  | run (row : RunRow)
  | detail (detail : InvestigationService.Detail)
  | trail (trail : InvestigationService.AuditTrail)

/-- The method a call names. -/
def runService (service : InvestigationService) : ServiceCall → Routine ServiceReply
  | .intake principal fuel arguments => do
      let result ← service.intake principal fuel arguments
      pure (.intake result)
  | .review principal runId request idempotencyKey => do
      let row ← service.review principal runId request idempotencyKey
      pure (.run row)
  | .detail principal runId => do
      let detail ← service.detail principal runId
      pure (.detail detail)
  | .audit principal runId => do
      let trail ← InvestigationService.audit principal runId
      pure (.trail trail)

namespace ServiceSetup

/-- An intake asks for one of the modes of its key, and has fuel where it must end. -/
def Starts (setup : ServiceSetup) (_ : Tid) : ServiceCall → Prop
  | .intake principal fuel arguments =>
      setup.Modes (principal.tenantId, arguments.idempotencyKey)
        (setup.service.provenance.canonicalHash arguments.modelDump) arguments.runMode ∧
      (setup.live → 9 < fuel)
  | .review .. | .detail .. | .audit .. => True

/-- How a call ends. -/
def Ends (setup : ServiceSetup) (t : Tid) (call : ServiceCall)
    (result : Except Failure ServiceReply) (view : View) : Prop :=
  match call with
  | .intake principal _ arguments => ∃ outcome, result = outcome.map .intake ∧
      Intaken setup t principal arguments outcome view
  | .review principal runId request idempotencyKey => ∃ outcome, result = outcome.map .run ∧
      Reviewed setup t principal runId request idempotencyKey outcome view
  | .detail principal runId => ∃ outcome, result = outcome.map .detail ∧
      Detailed setup t principal runId outcome view
  | .audit principal runId => ∃ outcome, result = outcome.map .trail ∧
      AuditEnds setup t principal runId outcome view

/-- The calls keep the protocol, whatever part of them is started. -/
theorem accepts (setup : ServiceSetup) {Starts : Tid → ServiceCall → Prop} {faulty : Prop}
    (starts : ∀ t call, Starts t call → setup.Starts t call) :
    setup.protocol.Accepts (runService setup.service) Starts setup.Allowed faulty Bare
      setup.Ends where
  allowed := fun _ _ allowed => allowed
  fresh := fun _ _ _ relied _ bare => bare.later relied
  calls := by
    intro t call view started _ bare
    have started := starts t call started
    cases call with
    | intake principal fuel arguments =>
        exact Protocol.serves_map (Protocol.serves_mono (fun result _ _ post => ⟨result, rfl, post⟩)
          (serves_intake started.2 started.1 bare.unclaimed))
    | review principal runId request idempotencyKey =>
        exact Protocol.serves_map (Protocol.serves_mono (fun result _ _ post => ⟨result, rfl, post⟩)
          (serves_review bare))
    | detail principal runId =>
        exact Protocol.serves_map (Protocol.serves_mono (fun result _ _ post => ⟨result, rfl, post⟩)
          (serves_detail bare))
    | audit principal runId =>
        exact Protocol.serves_map (Protocol.serves_mono (fun result _ _ post => ⟨result, rfl, post⟩)
          (serves_audit bare))
  endClaim := fun _ view t connection holds =>
    ⟨inv_endClaim holds.inv connection, fun u => rely_endClaim view t u connection⟩

theorem bare_empty (t : Tid) : Bare t View.empty :=
  ⟨fun key => by simp [View.empty], fun writes member => by
    simp [View.empty, View.commitsOf] at member⟩

/-- Any calls, whatever the tools and the adapter answer. -/
def anyCalls (service : InvestigationService) : ServiceSetup where
  service := service
  Modes := fun _ _ _ => True
  Allowed := fun _ _ => True
  input := exists_input
  live := False
  plain := False.elim

theorem starts_anyCalls (service : InvestigationService) (t : Tid) (call : ServiceCall) :
    (anyCalls service).Starts t call := by
  cases call with
  | intake => exact ⟨trivial, False.elim⟩
  | _ => trivial

end ServiceSetup

/-- Any callers of the service, which may crash and lose sessions anywhere. -/
abbrev serviceClients (service : InvestigationService) :
    System ServiceCall Tid Input World (Except Failure ServiceReply) :=
  clients (runService service) (fun _ _ => True) (fun _ _ => True) True

/-! ## One run -/

/-- The digest of every text of the run below. -/
def zeroDigest : String := "0000000000000000000000000000000000000000000000000000000000000000"

theorem zeroDigest_hex (_ : String) : isHex64 zeroDigest = true := by decide +kernel

/-- The answers of the tools about a shelf with nothing sold and nothing on order. -/
def shelfEvidence (tool : ToolName) : Evidence where
  evidenceId := "ev_" ++ zeroDigest
  sourceRef := tool.value
  queryHash := zeroDigest
  contentHash := zeroDigest
  retrievedAt := ⟨2, true⟩
  freshnessTs := ⟨2, true⟩
  fixtureManifestVersion := "v1"
  facts :=
    match tool with
    | .inventory => .inventory "SKU-1" "STORE-1" (.finite 0) (.finite 0) (.finite 0) ⟨2, true⟩
    | .salesDemand => .demand "SKU-1" "STORE-1" (.finite 0) (.finite 0) "none" ⟨2, true⟩
    | _ => .supplier "SKU-1" "SUP-1" (.finite 0) ⟨2, true⟩ (.finite 0) "open" ⟨2, true⟩

/-- An evidence item is stored as the name of its tool. -/
def shelfService : InvestigationService where
  provenance :=
    { sha256Text := fun _ => zeroDigest
      canonicalJson := fun _ => ""
      isoUtc := fun _ => ""
      isoformat := fun _ => ""
      sha256Text_hex := zeroDigest_hex }
  codec :=
    { modelDump := fun item => .str item.tool.value
      validate := fun payload =>
        match [ToolName.inventory, .salesDemand, .supplier].find?
          (fun tool => payload == .str tool.value) with
        | some tool => .ok (shelfEvidence tool)
        | none => .error "validation error" }
  toolLockKey := fun _ _ => 0
  assignedReviewer := fun _ => some "reviewer"

def shelfPlanner : Principal := ⟨"planner", "north", ["operator"]⟩

def shelfReviewer : Principal := ⟨"reviewer", "north", ["reviewer"]⟩

def shelfArguments : IntakeArguments where
  request := restockIntake.request
  modelDump := .obj []
  idempotencyKey := "restock"
  runMode := .humanReview

def shelfCitations : Citations where
  items := ["ev_" ++ zeroDigest]
  bounds := by decide

def shelfOutcome : ReasoningOutcome where
  result :=
    ⟨⟨⟨"The shelf is empty", by decide⟩, .low, shelfCitations⟩,
      ⟨.monitor, ⟨"Nothing is on order", by decide⟩, shelfCitations⟩⟩
  modelId := .str "stub"
  promptHash := .str zeroDigest
  inputHash := .str zeroDigest
  outputHash := .str zeroDigest
  inputTokens := .null
  outputTokens := .null
  latencyMs := .int 0
  estimatedCostUsd := .null

def shelfInput : Input where
  now := 3
  uuid := 7
  evidence := fun tool => .ok (shelfEvidence tool)
  reason := fun _ => .ok shelfOutcome

def shelfReview : ReviewRequest where
  action := .approve
  draftHash := zeroDigest
  editedPayload := none
  reason := none
  draftHash_hex := zeroDigest_hex ""
  reason_bounds := by decide
  actionFields := by decide

/-- An intake, its review, a detail and an audit. -/
def shelfCalls : List ServiceCall :=
  [.intake shelfPlanner 12 shelfArguments, .review shelfReviewer 7 shelfReview "approve",
    .detail shelfPlanner 7, .audit shelfPlanner 7]

section Runs

variable {service : InvestigationService} {pool next : Clients ServiceCall ServiceReply}

theorem accepts_anyCalls (service : InvestigationService) :
    (ServiceSetup.anyCalls service).protocol.Accepts (runService service) (fun _ _ => True)
      (fun _ _ => True) True ServiceSetup.Bare (ServiceSetup.anyCalls service).Ends :=
  (ServiceSetup.anyCalls service).accepts fun t call _ =>
    ServiceSetup.starts_anyCalls service t call

/-- What holds of every reachable visible state. -/
theorem holds_of_reaches
    (reaches : Reaches (serviceClients service) (Pool.start World.initial) pool) :
    (ServiceSetup.anyCalls service).protocol.Holds pool.state.view :=
  (accepts_anyCalls service).holds (ServiceInv.empty _) ServiceSetup.bare_empty reaches

/-- What becomes of one reachable visible state. -/
theorem movesOn_of_reaches
    (before : Reaches (serviceClients service) (Pool.start World.initial) pool)
    (reaches : Reaches (serviceClients service) pool next) :
    pool.state.view.MovesOn next.state.view := by
  have accepted := accepts_anyCalls service
  have same : ∀ world : World, world.view.MovesOn world.view := fun world => .refl world.view
  refine Pool.Safe.evolves accepted.verified same (fun left right => left.trans right)
    (fun t before after guarantee => ?_)
    (fun before after relied => (relied 0).2.moves)
    (accepted.reaches (ServiceInv.empty _) ServiceSetup.bare_empty before) reaches
  exact (guarantee.rely (t + 1) (Nat.succ_ne_self t)).2.moves

/-- The replies to the calls of the run. -/
def shelfReplies : List (Except Failure ServiceReply) →
    Option ((RunRow × Bool) × RunRow × InvestigationService.Detail ×
      InvestigationService.AuditTrail)
  | [.ok (.intake result), .ok (.run row), .ok (.detail detail), .ok (.trail trail)] =>
      some (result, row, detail, trail)
  | _ => none

/-- The run after its intake and after all of its calls. -/
structure ShelfRun (first last : Clients ServiceCall ServiceReply) (run : RunRow) (created : Bool)
    (row : RunRow) (detail : InvestigationService.Detail)
    (trail : InvestigationService.AuditTrail) : Prop where
  begins : Reaches (serviceClients shelfService) (Pool.start World.initial) first
  goes : Reaches (serviceClients shelfService) first last
  intake : last.threads 0 =
    .running (.intake shelfPlanner 12 shelfArguments) (.ret (.ok (.intake (run, created))))
  review : last.threads 1 =
    .running (.review shelfReviewer 7 shelfReview "approve") (.ret (.ok (.run row)))
  detail : last.threads 2 = .running (.detail shelfPlanner 7) (.ret (.ok (.detail detail)))
  audit : last.threads 3 = .running (.audit shelfPlanner 7) (.ret (.ok (.trail trail)))
  stored : (last.state.view.db.runs 7).isSome = true
  reasoned : (last.state.view.db.tools 7 .reasoning).map (·.status) = some .completed

theorem ShelfRun.reaches {first last : Clients ServiceCall ServiceReply} {run row : RunRow}
    {created : Bool} {detail : InvestigationService.Detail}
    {trail : InvestigationService.AuditTrail}
    (ran : ShelfRun first last run created row detail trail) :
    Reaches (serviceClients shelfService) (Pool.start World.initial) last :=
  ran.begins.trans ran.goes

theorem shelf_run : ∃ first last run created row detail trail,
    ShelfRun first last run created row detail trail := by
  have summary : (((serviceClients shelfService).inTurn (fun _ => shelfInput) 0 shelfCalls
      World.initial).map fun answer =>
        ((shelfReplies answer.1).isSome, (answer.2.view.db.runs 7).isSome,
          (answer.2.view.db.tools 7 .reasoning).map (·.status))) =
      some (true, true, some .completed) := by
    decide +kernel
  obtain ⟨⟨results, after⟩, ran, facts⟩ := Option.map_eq_some_iff.mp summary
  simp only [Prod.mk.injEq] at facts
  obtain ⟨replies, stored, reasoned⟩ := facts
  unfold shelfReplies at replies
  split at replies
  case h_2 => simp at replies
  case h_1 result row detail trail =>
    obtain ⟨run, created⟩ := result
    obtain ⟨reply, between, others, begins, ranRest, same⟩ := System.inTurn_cons ran
    obtain ⟨rfl, rfl⟩ := List.cons.inj same
    have start : Reaches (serviceClients shelfService) (Pool.start World.initial) _ := .refl
    have reached := start.solo 0 shelfInput (.intake shelfPlanner 12 shelfArguments) rfl trivial
      trivial begins
    let first : Clients ServiceCall ServiceReply :=
      ⟨between, Function.update (fun _ => .idle) 0
        (.running (.intake shelfPlanner 12 shelfArguments) (.ret (.ok (.intake (run, created)))))⟩
    have idle : ∀ u, 1 ≤ u → first.threads u = .idle := fun u later => by
      simp [first, Function.update_of_ne (Nat.ne_of_gt later)]
    obtain ⟨last, goes, rfl, kept, ended⟩ := Reaches.inTurn (.refl : Reaches _ first first) idle
      (fun _ _ _ => trivial) (fun _ => trivial) ranRest
    exact ⟨first, last, run, created, row, detail, trail, reached, goes,
      (kept 0 Nat.one_pos).trans (by simp [first]), ended 0 _ _ rfl rfl,
      ended 1 _ _ rfl rfl, ended 2 _ _ rfl rfl, stored, reasoned⟩

/-! ## Tools -/

/-- In every reachable state a tool has been called at most once for a run; a tool
that has been called has its committed row, and a row that is settled belongs to a
tool that has been called. -/
theorem tools_called_at_most_once
    (reaches : Reaches (serviceClients service) (Pool.start World.initial) pool) (runId : RunId)
    (tool : ToolName) :
    pool.state.view.invocations.count (runId, tool) ≤ 1 ∧
    (pool.state.view.invocations.count (runId, tool) = 1 →
      (pool.state.view.db.tools runId tool).isSome = true) ∧
    (∀ row, pool.state.view.db.tools runId tool = some row → row.status ≠ .started →
      pool.state.view.invocations.count (runId, tool) = 1) := by
  have called := (holds_of_reaches reaches).inv.calledOnce
  refine ⟨called.once runId tool, fun once => ?_, called.settled runId tool⟩
  rw [← called.claimed runId tool]
  by_contra unclaimed
  have never := called.fresh runId tool (by simpa using unclaimed)
  omega

theorem shelf_tools_called_once : ∃ first last run created row detail trail,
    ShelfRun first last run created row detail trail ∧
      last.state.view.invocations.count (7, .reasoning) = 1 := by
  obtain ⟨first, last, run, created, row, detail, trail, ran⟩ := shelf_run
  obtain ⟨invocation, found, completed⟩ := Option.map_eq_some_iff.mp ran.reasoned
  exact ⟨first, last, run, created, row, detail, trail, ran,
    (tools_called_at_most_once ran.reaches 7 .reasoning).2.2 invocation found (by simp [completed])⟩

/-- Whatever happens after a reachable state, a settled row stays as it is, a run goes
along the transition table, counts its transitions, keeps its identity and the draft
that it has, and nothing that was recorded or called is taken back. -/
theorem runs_move_on
    (before : Reaches (serviceClients service) (Pool.start World.initial) pool)
    (reaches : Reaches (serviceClients service) pool next) :
    (∀ runId tool row, pool.state.view.db.tools runId tool = some row → row.status ≠ .started →
      next.state.view.db.tools runId tool = some row) ∧
    (∀ runId run, pool.state.view.db.runs runId = some run →
      ∃ later, next.state.view.db.runs runId = some later ∧ run.SameRun later ∧
        (∃ count, StatePath count run.state later.state ∧
          later.stateVersion = run.stateVersion + count) ∧
        (run.draftJson.isSome = true → run.SameDraft later)) ∧
    pool.state.view.db.events <+: next.state.view.db.events ∧
    pool.state.view.db.decisions <+: next.state.view.db.decisions ∧
    pool.state.view.invocations <+: next.state.view.invocations := by
  have moves := movesOn_of_reaches before reaches
  refine ⟨fun runId tool row found settled => ?_, fun runId run found => ?_, ?_, ?_, ?_⟩
  · obtain ⟨later, there, movesRow⟩ := moves.db.tools _ _ _ found
    rw [there, movesRow.settled settled]
  · obtain ⟨later, there, movesRun⟩ := moves.db.runs _ _ found
    exact ⟨later, there, movesRun.same, movesRun.path, movesRun.draft⟩
  · obtain ⟨added, longer⟩ := moves.db.evolves.events
    exact ⟨added, longer.symm⟩
  · obtain ⟨added, longer⟩ := moves.db.evolves.decisions
    exact ⟨added, longer.symm⟩
  · obtain ⟨added, longer⟩ := moves.invocations
    exact ⟨added, longer.symm⟩

theorem shelf_moves_on : ∃ first last run created row detail trail,
    ShelfRun first last run created row detail trail ∧
      first.state.view.invocations <+: last.state.view.invocations := by
  obtain ⟨first, last, run, created, row, detail, trail, ran⟩ := shelf_run
  exact ⟨first, last, run, created, row, detail, trail, ran,
    (runs_move_on ran.begins ran.goes).2.2.2.2⟩

/-! ## Evidence and drafts -/

/-- In every reachable state a row of the reasoning belongs to a run with a complete
and validated bundle, whose hash it holds; once it is completed, its answer cites
nothing else. -/
theorem reasoning_waits_for_evidence
    (reaches : Reaches (serviceClients service) (Pool.start World.initial) pool) (runId : RunId)
    (row : ToolRow) (found : pool.state.view.db.tools runId .reasoning = some row) :
    ∃ run evidence, pool.state.view.db.runs runId = some run ∧
      pool.state.view.db.Bundle service run evidence ∧
      row.requestHash =
        service.provenance.canonicalHash (.arr (evidence.map service.codec.modelDump)) ∧
      (∀ tool ∈ ToolName.evidenceTools, ∃ item,
        pool.state.view.db.tools runId tool = some item ∧ item.status = .completed) ∧
      (row.status = .completed → ∃ outcome : ReasoningOutcome,
        row.resultJson = some outcome.result.modelDump ∧ row.metadataJson = outcome.metadata ∧
        validateCitations outcome.result (evidence.map Evidence.evidenceId) = .ok ()) := by
  have holds := holds_of_reaches reaches
  obtain ⟨run, stored, means⟩ := holds.inv.means.tools _ _ _ found
  obtain ⟨-, ofTool⟩ := holds.keyed.tools _ _ _ found
  have asked := means.asked
  rw [ToolRow.Asked, ofTool] at asked
  obtain ⟨evidence, bundle, hash⟩ := asked
  refine ⟨run, evidence, stored, bundle, hash, fun tool member => ?_, fun completed => ?_⟩
  · obtain ⟨item, there, completed⟩ := bundle.completed tool member
    rw [holds.keyed.runs _ _ stored] at there
    exact ⟨item, (Db.tool?_eq_some.mp there).1, completed⟩
  · obtain ⟨outcome, answer, metadata, cites⟩ := means.reasoned ofTool completed
    exact ⟨outcome, answer, metadata, (ServiceSetup.anyCalls service).cited_of_bundle bundle cites⟩

theorem shelf_reasoning_waited : ∃ first last run created row detail trail,
    ShelfRun first last run created row detail trail ∧
      ∃ run evidence, last.state.view.db.runs 7 = some run ∧
        last.state.view.db.Bundle shelfService run evidence := by
  obtain ⟨first, last, run, created, row, detail, trail, ran⟩ := shelf_run
  obtain ⟨invocation, found, -⟩ := Option.map_eq_some_iff.mp ran.reasoned
  obtain ⟨stored, evidence, there, bundle, -⟩ :=
    reasoning_waits_for_evidence ran.reaches 7 invocation found
  exact ⟨first, last, run, created, row, detail, trail, ran, stored, evidence, there, bundle⟩

/-- In every reachable state a run that awaits a human or is closed has a draft, and a
draft is a schema-valid result that cites the validated bundle of its run only, with
its hash and its time to be reviewed in. -/
theorem drafts_are_grounded
    (reaches : Reaches (serviceClients service) (Pool.start World.initial) pool) (runId : RunId)
    (run : RunRow) (found : pool.state.view.db.runs runId = some run) :
    (run.state = .awaitingHuman ∨ run.state = .closed → run.draftJson.isSome = true) ∧
    ∀ draft, run.draftJson = some draft → ∃ (result : ReasoningResult) (evidence : List Evidence)
      (created : Timestamp), draft = result.modelDump ∧
        pool.state.view.db.Bundle service run evidence ∧
        validateCitations result (evidence.map Evidence.evidenceId) = .ok () ∧
        run.draftHash = some (service.provenance.canonicalHash draft) ∧
        run.draftCreatedAt = some created ∧
        run.reviewExpiresAt = some (created + reviewPolicy) := by
  have inv := (holds_of_reaches reaches).inv
  have means := inv.means.runs _ _ found
  refine ⟨fun state => ?_, fun draft drafted => ?_⟩
  · rcases state with awaits | closed
    · exact means.awaiting awaits
    · obtain ⟨decision, member, ofRun⟩ := means.closed closed
      obtain ⟨other, there, decided⟩ := inv.means.decisions decision member
      have runId := (holds_of_reaches reaches).keyed.runs _ _ found
      obtain rfl : run = other :=
        Option.some.inj (found.symm.trans (by rw [← runId, ← ofRun, there]))
      simp [decided.draft]
  · obtain ⟨result, there⟩ := means.drafted (by simp [drafted])
    obtain ⟨evidence, bundle⟩ := there.bundle
    obtain ⟨created, at_, expires⟩ := there.window
    obtain rfl := Option.some.inj (drafted.symm.trans there.draftJson)
    exact ⟨result, evidence, created, rfl, bundle,
      (ServiceSetup.anyCalls service).cited_of_bundle bundle there.cites, there.draftHash, at_,
      expires⟩

theorem shelf_draft_is_grounded : ∃ first last run created row detail trail,
    ShelfRun first last run created row detail trail ∧
      ∃ stored, last.state.view.db.runs 7 = some stored ∧
        (stored.state = .awaitingHuman ∨ stored.state = .closed →
          stored.draftJson.isSome = true) := by
  obtain ⟨first, last, run, created, row, detail, trail, ran⟩ := shelf_run
  obtain ⟨stored, found⟩ := Option.isSome_iff_exists.mp ran.stored
  exact ⟨first, last, run, created, row, detail, trail, ran, stored, found,
    (drafts_are_grounded ran.reaches 7 stored found).1⟩

/-! ## States -/

/-- The states between a decision and its end are never committed and no run fails its
authorization after its intake; the genuine events are creations and transitions that
the service takes, so that validation and drafting never escalate. -/
theorem states_are_service_states
    (reaches : Reaches (serviceClients service) (Pool.start World.initial) pool) :
    (∀ runId run, pool.state.view.db.runs runId = some run → run.state.committed = true) ∧
    ∀ event ∈ pool.state.view.db.events, event.genuine = true →
      (event.fromState = none ∧ event.toState = some .created) ∨
        ∃ current target, event.fromState = some current ∧ event.toState = some target ∧
          target ∈ serviceTransitions current :=
  have means := (holds_of_reaches reaches).inv.means
  ⟨fun runId run found => (means.runs runId run found).committed, means.events⟩

theorem shelf_state_is_service_state : ∃ first last run created row detail trail,
    ShelfRun first last run created row detail trail ∧
      ∃ stored, last.state.view.db.runs 7 = some stored ∧ stored.state.committed = true := by
  obtain ⟨first, last, run, created, row, detail, trail, ran⟩ := shelf_run
  obtain ⟨stored, found⟩ := Option.isSome_iff_exists.mp ran.stored
  exact ⟨first, last, run, created, row, detail, trail, ran, stored, found,
    (states_are_service_states ran.reaches).1 7 stored found⟩

/-! ## Decisions -/

/-- In every reachable state a run is closed exactly if it has a decision; it has at
most one, and a decision is one that the service allows. -/
theorem decisions_are_allowed
    (reaches : Reaches (serviceClients service) (Pool.start World.initial) pool) :
    (∀ runId run, pool.state.view.db.runs runId = some run →
      (run.state = .closed ↔ ∃ decision, pool.state.view.db.decisionsOf runId = [decision])) ∧
    ∀ decision ∈ pool.state.view.db.decisions, ∃ run,
      pool.state.view.db.runs decision.runId = some run ∧
        decision.Means service pool.state.view.db run := by
  have holds := holds_of_reaches reaches
  refine ⟨fun runId run found => ⟨fun closed => ?_, ?_⟩, holds.inv.means.decisions⟩
  · obtain ⟨decision, member, ofRun⟩ := (holds.inv.means.runs _ _ found).closed closed
    have kept : decision ∈ pool.state.view.db.decisionsOf runId :=
      List.mem_filter.mpr ⟨member, by simp [ofRun, holds.keyed.runs _ _ found]⟩
    have once := holds.inv.means.decidedOnce runId
    exact List.length_eq_one_iff.mp (by have := List.length_pos_of_mem kept; omega)
  · rintro ⟨decision, only⟩
    have member : decision ∈ pool.state.view.db.decisionsOf runId := by simp [only]
    obtain ⟨stored, ofRun⟩ := List.mem_filter.mp member
    obtain ⟨other, there, means⟩ := holds.inv.means.decisions decision stored
    rw [show decision.runId = runId by simpa using ofRun] at there
    obtain rfl := Option.some.inj (found.symm.trans there)
    exact means.closed

theorem shelf_decision_is_allowed : ∃ first last run created row detail trail,
    ShelfRun first last run created row detail trail ∧
      ∃ stored, last.state.view.db.runs 7 = some stored ∧
        (stored.state = .closed ↔
          ∃ decision, last.state.view.db.decisionsOf 7 = [decision]) := by
  obtain ⟨first, last, run, created, row, detail, trail, ran⟩ := shelf_run
  obtain ⟨stored, found⟩ := Option.isSome_iff_exists.mp ran.stored
  exact ⟨first, last, run, created, row, detail, trail, ran, stored, found,
    (decisions_are_allowed ran.reaches).1 7 stored found⟩

/-! ## Calls that have ended -/

/-- What holds of a call that has ended, from then on. -/
theorem ends_of_reaches {t : Tid} {call : ServiceCall} {result : Except Failure ServiceReply}
    (reaches : Reaches (serviceClients service) (Pool.start World.initial) pool)
    (ended : pool.threads t = .running call (.ret result)) :
    (ServiceSetup.anyCalls service).Ends t call result pool.state.view :=
  (((accepts_anyCalls service).reaches (ServiceInv.empty _) ServiceSetup.bare_empty
    reaches).ended ended).2

/-- The run that an intake returns waits for a human or is done with; it was one of the
tenant, and what the key and the payload of the intake stand for. The columns of a run
that the intake has created are those that it asked for. -/
theorem intakes_return_halted_runs {t : Tid} {principal : Principal} {fuel : Nat}
    {arguments : IntakeArguments} {run : RunRow} {created : Bool}
    (reaches : Reaches (serviceClients service) (Pool.start World.initial) pool)
    (ended : pool.threads t =
      .running (.intake principal fuel arguments) (.ret (.ok (.intake (run, created))))) :
    ∃ reviewer now key stored,
      service.assignedReviewer principal.tenantId = some reviewer ∧
      run.tenantId = principal.tenantId ∧ run.state.automatic = false ∧
      pool.state.view.db.runs run.runId = some stored ∧ run.MovesTo stored ∧
      pool.state.view.db.keys (principal.tenantId, arguments.idempotencyKey) = some key ∧
      key.runId = run.runId ∧
      key.payloadHash = service.provenance.canonicalHash arguments.modelDump ∧
      (created = true →
        ((service.intakeCall principal arguments reviewer now).runRow run.runId).SameRun run) := by
  obtain ⟨outcome, same, intaken⟩ := ends_of_reaches reaches ended
  cases outcome with
  | error exception => cases same
  | ok answer =>
      obtain ⟨rfl⟩ : (run, created) = answer := by simpa [Except.map] using same
      obtain ⟨reviewer, now, assigned, calm, halted, ⟨key, keyed, ofRun, hash⟩, columns⟩ := intaken
      obtain ⟨stored, there, moves⟩ := calm.known.stored
      exact ⟨reviewer, now, key, stored, assigned, calm.known.tenant, halted, there, moves, keyed,
        ofRun, hash, columns⟩

theorem shelf_intake_returns_halted_run : ∃ first last run created row detail trail,
    ShelfRun first last run created row detail trail ∧ run.state.automatic = false := by
  obtain ⟨first, last, run, created, row, detail, trail, ran⟩ := shelf_run
  obtain ⟨reviewer, now, key, stored, -, -, halted, -⟩ :=
    intakes_return_halted_runs ran.reaches ran.intake
  exact ⟨first, last, run, created, row, detail, trail, ran, halted⟩

/-- The parts of a detail belong together, although they are read one by one: the
evidence is the validated bundle that the draft cites, the decision is about the draft,
and a closed run comes with its decision. -/
theorem details_are_consistent {t : Tid} {principal : Principal} {runId : RunId}
    {detail : InvestigationService.Detail}
    (reaches : Reaches (serviceClients service) (Pool.start World.initial) pool)
    (ended : pool.threads t =
      .running (.detail principal runId) (.ret (.ok (.detail detail)))) :
    detail.run.runId = runId ∧ detail.run.tenantId = principal.tenantId ∧
      ServiceSetup.Grounded (ServiceSetup.anyCalls service) detail.run detail.evidence ∧
      (∀ decision, detail.decision = some decision →
        ServiceSetup.About decision detail.run) ∧
      (detail.run.state = .closed → detail.decision.isSome = true) := by
  obtain ⟨outcome, same, detailed⟩ := ends_of_reaches reaches ended
  cases outcome with
  | error exception => cases same
  | ok answer =>
      obtain rfl : detail = answer := by simpa [Except.map] using same
      obtain ⟨-, known, ofRun, shown⟩ := detailed
      exact ⟨ofRun, known.tenant, shown.evidence, shown.decision, shown.decided⟩

theorem shelf_detail_is_consistent : ∃ first last run created row detail trail,
    ShelfRun first last run created row detail trail ∧
      (detail.run.state = .closed → detail.decision.isSome = true) := by
  obtain ⟨first, last, run, created, row, detail, trail, ran⟩ := shelf_run
  exact ⟨first, last, run, created, row, detail, trail, ran,
    (details_are_consistent ran.reaches ran.detail).2.2.2.2⟩

/-- The events of an audit replay to a row that the current one has come from along
the transition table: an audit may be behind, but never ahead of its run. -/
theorem audits_replay {t : Tid} {principal : Principal} {runId : RunId}
    {trail : InvestigationService.AuditTrail}
    (reaches : Reaches (serviceClients service) (Pool.start World.initial) pool)
    (ended : pool.threads t = .running (.audit principal runId) (.ret (.ok (.trail trail)))) :
    trail.current.runId = runId ∧ trail.current.tenantId = principal.tenantId ∧
      ∃ old, AuditChain (trail.events.filter EventRow.genuine) old ∧
        replayedState trail.events = some old.state ∧ old.MovesTo trail.current := by
  obtain ⟨outcome, same, audited⟩ := ends_of_reaches reaches ended
  cases outcome with
  | error exception => cases same
  | ok answer =>
      obtain rfl : trail = answer := by simpa [Except.map] using same
      obtain ⟨-, known, ofRun, old, audited⟩ := audited
      exact ⟨ofRun, known.tenant, old, audited.chain, audited.replayed, audited.moves⟩

theorem shelf_audit_replays : ∃ first last run created row detail trail,
    ShelfRun first last run created row detail trail ∧
      ∃ old : RunRow, replayedState trail.events = some old.state ∧ old.MovesTo trail.current := by
  obtain ⟨first, last, run, created, row, detail, trail, ran⟩ := shelf_run
  obtain ⟨-, -, old, -, replayed, moves⟩ := audits_replay ran.reaches ran.audit
  exact ⟨first, last, run, created, row, detail, trail, ran, old, replayed, moves⟩

end Runs

end StockoutOps.Investigation
