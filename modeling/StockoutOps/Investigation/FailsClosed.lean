import Mathlib.Data.List.Sort
import StockoutOps.Investigation.Clients
import StockoutOps.Investigation.EvidenceProduction
import StockoutOps.Investigation.Service
import StockoutOps.Investigation.SoleCaller

/-!
Contract: an intake that runs alone ends in a run for a human or an escalated
one, exactly when everything it has to store can be stored.

Owns: the first failing step of an intake, the fixture rows, requests and
adapter answers that it can deal with, how each stage of a fresh run ends, the
stub adapter of the tests, and an admitted fixture row that leaves its run behind.

Does not own: concurrent callers of the same key.
-/

namespace StockoutOps.Investigation

open StockoutOps.Sql StockoutOps.Foundation.Interleaving

/-- What an adapter may do: return an outcome, or raise one of two exceptions. -/
inductive AdapterAnswer where
  | returns (outcome : ReasoningOutcome)
  | reasoningFailure (code message : String)
  | valueError (message : String)

def AdapterAnswer.result : AdapterAnswer → Except Failure ReasoningOutcome
  | .returns outcome => .ok outcome
  | .reasoningFailure code message => .error (.reasoningFailure code message)
  | .valueError message => .error (.valueError message)

/-- An intake with everything that decides how it goes. -/
structure IntakeSetting where
  tools : EvidenceTools
  adapter : List Evidence → AdapterAnswer
  toolLockKey : RunId → ToolName → Int
  assignedReviewer : String → Option String
  principal : Principal
  arguments : IntakeArguments

/-- The code an escalation gives for an exception. -/
def failureCode : Failure → String
  | .evidenceFailure code _ => code
  | .reasoningFailure code _ => code
  | _ => ""

namespace IntakeSetting

variable (setting : IntakeSetting)

def service : InvestigationService where
  provenance := setting.tools.provenance
  codec := setting.tools.models.toEvidenceCodec
  toolLockKey := setting.toolLockKey
  assignedReviewer := setting.assignedReviewer

def query : EvidenceQuery where
  tenantId := setting.principal.tenantId
  skuId := setting.arguments.request.skuId
  storeId := setting.arguments.request.storeId
  supplierId := setting.arguments.request.supplierId
  asOfTs := setting.arguments.request.asOfTs
  windowStart := setting.arguments.request.windowStart
  windowEnd := setting.arguments.request.windowEnd

def answer (tool : ToolName) : Except Failure Evidence := setting.tools.answer setting.query tool

/-- The clock may read anything; `runId` is what `uuid4()` draws. -/
def Allowed (runId : RunId) (input : Input) : Prop :=
  input.uuid = runId ∧ input.evidence = setting.answer ∧
    input.reason = fun evidence => (setting.adapter evidence).result

theorem allowed (runId : RunId) : ∃ input, setting.Allowed runId input :=
  ⟨⟨0, runId, setting.answer, fun evidence => (setting.adapter evidence).result⟩, rfl, rfl, rfl⟩

/-! ## The first failing step -/

/-- The reasoning of a bundle: its result, or the code of its failure. -/
def reasoned (bundle : List Evidence) : Except String ReasoningResult :=
  match setting.adapter bundle with
  | .returns outcome =>
      match validateCitations outcome.result (bundle.map Evidence.evidenceId) with
      | .ok () => .ok outcome.result
      | .error _ => .error "INVALID_REASONING_OUTPUT"
  | .reasoningFailure code _ => .error code
  | .valueError _ => .error "INVALID_REASONING_OUTPUT"

def reasoningCode (bundle : List Evidence) : Option String :=
  match setting.reasoned bundle with
  | .error code => some code
  | .ok _ => none

def bundleFailure (bundle : List Evidence) : Option String :=
  match validateBundle setting.tools.provenance bundle setting.arguments.request.asOfTs with
  | .error failure => some (failureCode failure)
  | .ok () => setting.reasoningCode bundle

/-- The code of the first step of a fresh run that fails. -/
def firstFailure : Option String :=
  match setting.answer .inventory with
  | .error failure => some (failureCode failure)
  | .ok inventory =>
      match setting.answer .salesDemand with
      | .error failure => some (failureCode failure)
      | .ok demand =>
          match setting.answer .supplier with
          | .error failure => some (failureCode failure)
          | .ok supplier => setting.bundleFailure [inventory, demand, supplier]

/-! ## What an intake can deal with -/

/-- What the adapter answers can be stored. -/
def ReasoningFits (bundle : List Evidence) : Prop :=
  match setting.adapter bundle with
  | .returns outcome =>
      validateCitations outcome.result (bundle.map Evidence.evidenceId) = .ok () →
        outcome.result.modelDump.storable = true ∧ outcome.metadata.storable = true
  | .reasoningFailure code _ => storableText code = true
  | .valueError _ => True

/-- The adapter is asked about a bundle that passes the quality checks. -/
def BundleFits (bundle : List Evidence) : Prop :=
  validateBundle setting.tools.provenance bundle setting.arguments.request.asOfTs = .ok () →
    setting.ReasoningFits bundle

/-- A tool is asked when the ones before it have found their row. -/
def EvidenceFits : Prop :=
  setting.tools.presents setting.query .inventory = true ∧
    ∀ inventory, setting.answer .inventory = .ok inventory →
      setting.tools.presents setting.query .salesDemand = true ∧
        ∀ demand, setting.answer .salesDemand = .ok demand →
          setting.tools.presents setting.query .supplier = true ∧
            ∀ supplier, setting.answer .supplier = .ok supplier →
              setting.BundleFits [inventory, demand, supplier]

/-- The texts of the run, and the timestamps that Python reads back. -/
def RequestFits (assignedReviewerId : String) : Prop :=
  [setting.principal.tenantId, setting.principal.actorId, assignedReviewerId,
      setting.arguments.request.skuId, setting.arguments.request.storeId,
      setting.arguments.request.supplierId, setting.arguments.idempotencyKey].all
    storableText = true ∧
  [setting.arguments.request.asOfTs, setting.arguments.request.windowStart,
      setting.arguments.request.windowEnd].all readableInstant = true

/-- The caller may ask, and everything on the way can be stored. -/
def Fits : Prop :=
  setting.principal.hasRole "operator" = true ∧
    lengthBetween 1 200 setting.arguments.idempotencyKey = true ∧
      ∃ assignedReviewerId,
        setting.assignedReviewer setting.principal.tenantId = some assignedReviewerId ∧
          setting.RequestFits assignedReviewerId ∧ setting.EvidenceFits

/-! ## How an intake ends -/

/-- The run is returned as it is stored, awaits a human or has been escalated
with the expected code, and none of its tool rows is left `started`. -/
structure EndsWell (expected : Option String) (runId : RunId) (final : RunRow) (view : View) :
    Prop where
  identified : final.runId = runId
  stored : view.db.runs runId = some final
  state : match expected with
    | none => final.state = .awaitingHuman
    | some code => final.state = .escalated ∧ ∃ event ∈ view.db.events, event.runId = runId ∧
        event.eventType = "run_escalated" ∧ event.payload = .obj [("code", .str code)]
  finished : ∀ tool row, view.db.tools runId tool = some row → row.status ≠ .started

/-- Whatever the clock reads, the intake returns, and its new run has ended well. -/
def FailsClosed (t : Tid) (runId : RunId) (world : World) : Prop :=
  ∃ needed, ∀ fuel, needed ≤ fuel →
    Prog.Alone (setting.Allowed runId) t
      (setting.service.intake setting.principal fuel setting.arguments)
      (fun result last => ∃ final, result = .ok (final, true) ∧
        EndsWell setting.firstFailure runId final last.view)
      world

/-! ## Stages of the run -/

section Stages

open Protocol

variable {setting : IntakeSetting} {t : Tid} {view : View} {run : RunRow}
  {rows : ToolName → Option ToolRow} {α : Type}

/-- The database is the caller's, and the tools answer from the fixtures. -/
abbrev solo (setting : IntakeSetting) (t : Tid) (runId : RunId) : Protocol :=
  Protocol.alone t (setting.Allowed runId) (setting.allowed runId)

/-- No invocation is left behind. -/
def Finished (rows : ToolName → Option ToolRow) : Prop :=
  ∀ tool row, rows tool = some row → row.status ≠ .started

theorem finished_none : Finished fun _ => none := fun _ _ found => nomatch found

theorem Finished.update (finished : Finished rows) {tool : ToolName} {row : ToolRow}
    (status : row.status ≠ .started) : Finished (Function.update rows tool (some row)) := by
  intro other found there
  by_cases same : other = tool
  · subst same
    rw [Function.update_self] at there
    exact Option.some.inj there ▸ status
  · rw [Function.update_of_ne same] at there
    exact finished other found there

/-- The request's run, as far as the stages look at it. -/
structure OfSetting (setting : IntakeSetting) (runId : RunId) (run : RunRow) : Prop where
  runId : run.runId = runId
  tenantId : run.tenantId = setting.principal.tenantId
  asOfTs : run.asOfTs = setting.arguments.request.asOfTs

theorem OfSetting.same {runId : RunId} (ofSetting : OfSetting setting runId run) {next : RunRow}
    (same : run.SameRun next) : OfSetting setting runId next :=
  ⟨same.runId.trans ofSetting.runId, same.tenantId.trans ofSetting.tenantId,
    same.asOfTs.trans ofSetting.asOfTs⟩

/-- How the rest of an intake ends: well, where `fits` holds, and in an exception
that nothing catches where it does not. -/
def Verdict (fits : Prop) (expected : Option String) (runId : RunId)
    (result : Except Failure RunRow) (view : View) : Prop :=
  (fits ∧ ∃ final, result = .ok final ∧ EndsWell expected runId final view) ∨
    (¬ fits ∧ ∃ exception, result = .error exception ∧ EvidenceTools.Escapes exception)

theorem Verdict.congr {fits fits' : Prop} {expected expected' : Option String} {runId : RunId}
    {result : Except Failure RunRow} {view : View}
    (verdict : Verdict fits expected runId result view) (same : fits ↔ fits')
    (code : fits → expected = expected') : Verdict fits' expected' runId result view := by
  rcases verdict with ⟨fitting, final, returned, ended⟩ | ⟨unfit, raised⟩
  · exact .inl ⟨same.mp fitting, final, returned, code fitting ▸ ended⟩
  · exact .inr ⟨fun fitting => unfit (same.mpr fitting), raised⟩

variable {runId : RunId} {Post : Except Failure α → View → Prop}

/-- A transition of the run by the caller. -/
theorem serves_transition {target : RunState} {eventType : String} {now : Timestamp}
    {payload : Json} {Post : Except Failure RunRow → View → Prop}
    (stage : Stage view run rows) (unclaimed : View.Unclaimed view t)
    (ofSetting : OfSetting setting runId run) (legal : canTransition run.state target = true)
    (moved : ∀ after next, Stage after next rows → View.Unclaimed after t →
      OfSetting setting runId next → next.state = target →
      (∃ event ∈ after.db.events, event.runId = runId ∧ event.eventType = eventType ∧
        event.payload = payload) → Post (.ok next) after) :
    (solo setting t runId).Serves t
      (transition setting.principal run target eventType now payload) Post view := by
  refine serves_move stage unclaimed ofSetting.tenantId legal
    (fun row => setState_sameRun target now row) (fun checked => checked) fun eventId => ?_
  let move := transitionMove run target eventType now payload
  have recorded : (move.event setting.principal run now).numbered eventId ∈ (view.commit t
      [.updateRun (move.set run), .insertEvent
        ((move.event setting.principal run now).numbered eventId)]).db.events := by
    simp [View.commit, Db.applyAll, Db.apply]
  exact moved _ _ (stage.moved (setState_sameRun target now run) _) unclaimed
    (ofSetting.same (setState_sameRun target now run)) rfl ⟨_, recorded, ofSetting.runId, rfl, rfl⟩

/-- A turn that only moves the run on. -/
theorem serves_turn {target : RunState} {eventType : String}
    {Post : Except Failure (RunRow ⊕ RunRow) → View → Prop}
    (stage : Stage view run rows) (unclaimed : View.Unclaimed view t)
    (ofSetting : OfSetting setting runId run) (legal : canTransition run.state target = true)
    (moved : ∀ after next, Stage after next rows → View.Unclaimed after t →
      OfSetting setting runId next → next.state = target → Post (.ok (.inl next)) after) :
    (solo setting t runId).Serves t
      (do
        let now ← clock
        let next ← transition setting.principal run target eventType now (.obj [])
        pure (.inl next)) Post view := by
  refine alone_clock fun now =>
    serves_bind (serves_transition stage unclaimed ofSetting legal ?_)
  intro after next stageNext unclaimedNext ofSettingNext state _
  exact serves_pure (alone_stays (moved after next stageNext unclaimedNext ofSettingNext state))

/-- An escalation ends the intake well when its code is the expected one. -/
theorem serves_escalate {code : String} {Post : Except Failure (RunRow ⊕ RunRow) → View → Prop}
    (stage : Stage view run rows) (unclaimed : View.Unclaimed view t)
    (ofSetting : OfSetting setting runId run) (legal : canTransition run.state .escalated = true)
    (finished : Finished rows)
    (ended : ∀ final after, EndsWell (some code) runId final after →
      Post (.ok (.inr final)) after) :
    (solo setting t runId).Serves t
      (do
        let escalated ← InvestigationService.escalate setting.principal run code
        pure (.inr escalated)) Post view := by
  refine serves_bind (alone_clock fun now =>
    serves_transition stage unclaimed ofSetting legal ?_)
  intro after next stageNext _ ofSettingNext state recorded
  refine serves_pure (alone_stays (ended next after ?_))
  have runId := ofSettingNext.runId
  refine ⟨runId, runId ▸ stageNext.stored, ⟨state, recorded⟩, fun tool row found => ?_⟩
  rw [← runId, stageNext.tools] at found
  exact finished tool row found

/-! ## Evidence -/

/-- The row of a tool that has answered with `item`. -/
def Completed (setting : IntakeSetting) (item : Evidence) (row : Option ToolRow) : Prop :=
  ∃ done, row = some done ∧ done.status = .completed ∧
    done.resultJson = some (setting.tools.models.modelDump item) ∧
    done.tenantId = setting.principal.tenantId

/-- A session that has ended holds no claim. -/
theorem unclaimed_endClaim (view : View) (t : Tid) :
    View.Unclaimed (view.endClaim t .closed) t := by
  intro key held
  simp [View.endClaim] at held

/-- One tool of a fresh run: what it leaves, and how it ends. -/
theorem serves_gatherTool {tool : ToolName} {Post : Except Failure Evidence → View → Prop}
    (stage : Stage view run rows) (unclaimed : View.Unclaimed view t) (fresh : rows tool = none)
    (evidenceTool : tool ≠ .reasoning)
    (gathered : ∀ item after done, setting.answer tool = .ok item →
      setting.tools.models.Settles (setting.answer tool) →
      Stage after run (Function.update rows tool (some done)) → View.Unclaimed after t →
      done.status ≠ .started → Completed setting item (some done) → Post (.ok item) after)
    (missing : ∀ message after done,
      setting.answer tool = .error (.evidenceFailure "EVIDENCE_MISSING" message) →
      Stage after run (Function.update rows tool (some done)) → View.Unclaimed after t →
      done.status ≠ .started → Post (.error (.evidenceFailure "EVIDENCE_MISSING" message)) after)
    (escaped : ∀ exception after, ¬ setting.tools.models.Settles (setting.answer tool) →
      EvidenceTools.Escapes exception → Post (.error exception) after) :
    (solo setting t runId).Serves t
      (setting.service.gatherTool setting.principal run tool) Post view := by
  refine alone_clock fun now => serves_bind (serves_claimTool stage unclaimed fresh
    (setting.tools.provenance.canonicalHash_hex _) ?_)
  intro row claimed ofRun tenant ofTool started held stageClaimed
  refine serves_withClaim (serves_attempt_called (fun _ _ => rfl) fun answered allowed => ?_)
  have answer : answered.evidence tool = setting.answer tool := by rw [allowed.2.1]
  have stageInvoked : Stage (claimed.invoke run.runId tool) run
      (Function.update rows tool (some row)) := ⟨stageClaimed.stored, stageClaimed.tools⟩
  have found : Function.update rows tool (some row) tool = some row := Function.update_self _ _ _
  rw [answer]
  have unclaimedLater : ∀ after : View, View.Unclaimed (after.endClaim t .closed) t :=
    fun after => unclaimed_endClaim after t
  cases result : setting.answer tool with
  | ok item =>
      have accepted := EvidenceTools.accepts_of_answer result
      refine alone_clock fun now => serves_bind (serves_complete stageInvoked found ofRun ofTool
        tenant (fun unstorable error => ?_) fun storable after done claims status stored tenantDone
          stageDone => ?_)
      · refine goes_error (alone_stays ?_)
        refine ⟨held, escaped _ _ (fun settles => unstorable ?_) (.inl ⟨error, rfl⟩)⟩
        rw [result] at settles
        have evidenceId := setting.tools.models.storable_evidenceId settles.2
        exact ⟨settles.2, by
          simpa [Json.storable, Json.storableMembers] using ⟨by decide, evidenceId⟩⟩
      · rw [Function.update_idem] at stageDone
        have settles : setting.tools.models.Settles (setting.answer tool) := by
          rw [result]
          exact ⟨accepted, storable.1⟩
        refine goes_ok (serves_pure (alone_stays ?_))
        refine ⟨claims ▸ held, ?_⟩
        refine gathered item _ done result settles ⟨stageDone.stored, stageDone.tools⟩
          (unclaimedLater _) ?_ ⟨done, rfl, status, stored, tenantDone⟩
        simp [status]
  | error exception =>
      rcases EvidenceTools.answer_error evidenceTool result with ⟨message, rfl⟩ | escapes
      · refine alone_clock fun now => serves_bind (serves_complete stageInvoked found ofRun ofTool
          tenant (fun unstorable error => absurd ?_ unstorable)
            fun storable after done claims status stored tenantDone stageDone => ?_)
        · exact ⟨rfl, by decide⟩
        · rw [Function.update_idem] at stageDone
          refine goes_ok (serves_raise (alone_stays ?_))
          refine ⟨claims ▸ held, ?_⟩
          refine missing message _ done result ⟨stageDone.stored, stageDone.tools⟩
            (unclaimedLater _) ?_
          simp [status]
      · have unsettled : ¬ setting.tools.models.Settles (setting.answer tool) := by
          rw [result]
          rintro ⟨message, rfl⟩
          rcases escapes with ⟨error, same⟩ | ⟨other, same⟩ <;> cases same
        have ended := fun after => escaped exception after unsettled escapes
        rcases escapes with ⟨error, rfl⟩ | ⟨message, rfl⟩
        · exact serves_raise (alone_stays ⟨held, ended _⟩)
        · exact serves_raise (alone_stays ⟨held, ended _⟩)

/-- An item as it was validated and stored. -/
def Kept (setting : IntakeSetting) (item : Evidence) (row : Option ToolRow) : Prop :=
  Completed setting item row ∧ setting.tools.models.accepts item = true ∧
    (setting.tools.models.modelDump item).storable = true

theorem Kept.parsed {item : Evidence} {row : Option ToolRow} (kept : Kept setting item row) :
    setting.service.codec.parseEvidence (some (setting.tools.models.modelDump item)) =
      .ok item := by
  have validated := setting.tools.models.validate_modelDump item kept.2.1 kept.2.2
  simp [EvidenceCodec.parseEvidence, service, validated]

/-- The evidence rows of a run that has gathered its evidence. -/
structure Gathered (setting : IntakeSetting) (rows : ToolName → Option ToolRow)
    (inventory demand supplier : Evidence) : Prop where
  inventory : Kept setting inventory (rows .inventory)
  demand : Kept setting demand (rows .salesDemand)
  supplier : Kept setting supplier (rows .supplier)

variable {inventory demand supplier : Evidence}

theorem Gathered.listed (gathered : Gathered setting rows inventory demand supplier)
    (stage : Stage view run rows) :
    setting.service.codec.parseAll
      (view.db.evidencePayloads setting.principal.tenantId run.runId) =
        .ok [inventory, demand, supplier] := by
  obtain ⟨first, firstRow, firstStatus, firstResult, firstTenant⟩ := gathered.inventory.1
  obtain ⟨second, secondRow, secondStatus, secondResult, secondTenant⟩ := gathered.demand.1
  obtain ⟨third, thirdRow, thirdStatus, thirdResult, thirdTenant⟩ := gathered.supplier.1
  have seen : ∀ tool row, rows tool = some row → row.tenantId = setting.principal.tenantId →
      view.db.tool? setting.principal.tenantId run.runId tool = some row :=
    fun tool row found tenant => Db.tool?_eq_some.mpr ⟨by rw [stage.tools, found], tenant⟩
  have payloads : view.db.evidencePayloads setting.principal.tenantId run.runId =
      [first.resultJson, second.resultJson, third.resultJson] := by
    simp [Db.evidencePayloads, ToolName.evidenceTools, seen _ _ firstRow firstTenant,
      seen _ _ secondRow secondTenant, seen _ _ thirdRow thirdTenant, firstStatus, secondStatus,
      thirdStatus]
  rw [payloads, firstResult, secondResult, thirdResult]
  simp [EvidenceCodec.parseAll, gathered.inventory.parsed, gathered.demand.parsed,
    gathered.supplier.parsed, pure, Except.pure, bind, Except.bind]

theorem serves_gathered {Post : Except Failure (List Evidence) → View → Prop}
    (gathered : Gathered setting rows inventory demand supplier) (stage : Stage view run rows)
    (listed : Post (.ok [inventory, demand, supplier]) view) :
    (solo setting t runId).Serves t
      (listEvidence setting.service.codec setting.principal run.runId) Post view := by
  refine serves_listed ?_
  rw [gathered.listed stage]
  exact listed

/-- The quality checks of a run that has gathered its evidence. -/
theorem serves_qualityChecks {Post : Except Failure (Option String) → View → Prop}
    (gathered : Gathered setting rows inventory demand supplier) (stage : Stage view run rows)
    (ofSetting : OfSetting setting runId run)
    (passed : validateBundle setting.tools.provenance [inventory, demand, supplier]
      setting.arguments.request.asOfTs = .ok () → Post (.ok none) view)
    (failed : ∀ failure, validateBundle setting.tools.provenance [inventory, demand, supplier]
      setting.arguments.request.asOfTs = .error failure →
        Post (.ok (some (failureCode failure))) view) :
    (solo setting t runId).Serves t (setting.service.qualityChecks setting.principal run) Post
      view := by
  refine serves_attempt (serves_bind (serves_gathered gathered stage ?_))
  refine goes_ok (serves_lift (alone_stays ?_))
  have provenance : setting.service.provenance = setting.tools.provenance := rfl
  rw [ofSetting.asOfTs, provenance]
  cases checked : validateBundle setting.tools.provenance [inventory, demand, supplier]
      setting.arguments.request.asOfTs with
  | ok done => exact serves_pure (alone_stays (passed checked))
  | error failure =>
      have ended := failed failure checked
      obtain ⟨code, message, rfl⟩ := evidenceFailure_of_validateBundle checked
      exact serves_pure (alone_stays ended)

/-- The next tool of a fresh run, when `fits` and `expected` say what is left to
fit and to fail. -/
theorem serves_nextTool {tool : ToolName} {follow : Evidence → Routine (List Evidence)}
    {Post : Except Failure (List Evidence) → View → Prop} {fits : Prop} {rest : Evidence → Prop}
    {expected : Option String} {code : Evidence → Option String}
    (identified : EvidenceTools.Identified setting.query)
    (fits_iff : fits ↔ setting.tools.presents setting.query tool = true ∧
      ∀ item, setting.answer tool = .ok item → rest item)
    (expected_eq : expected =
      match setting.answer tool with
      | .error failure => some (failureCode failure)
      | .ok item => code item)
    (stage : Stage view run rows) (unclaimed : View.Unclaimed view t) (finished : Finished rows)
    (fresh : rows tool = none) (evidenceTool : tool ≠ .reasoning)
    (next : ∀ item after done, (fits ↔ rest item) → expected = code item →
      Kept setting item (some done) → Stage after run (Function.update rows tool (some done)) →
      View.Unclaimed after t → Finished (Function.update rows tool (some done)) →
      (solo setting t runId).Serves t (follow item) Post after)
    (missing : ∀ message after rows, fits → expected = some "EVIDENCE_MISSING" →
      Stage after run rows → View.Unclaimed after t → Finished rows →
      Post (.error (.evidenceFailure "EVIDENCE_MISSING" message)) after)
    (escaped : ∀ exception after, ¬ fits → EvidenceTools.Escapes exception →
      Post (.error exception) after) :
    (solo setting t runId).Serves t
      (setting.service.gatherTool setting.principal run tool >>= follow) Post view := by
  have presents : setting.tools.models.Settles (setting.answer tool) ↔
      setting.tools.presents setting.query tool = true :=
    EvidenceTools.answer_settles_iff identified tool
  refine serves_bind (serves_gatherTool stage unclaimed fresh evidenceTool ?_ ?_ ?_)
  · intro item after done answered settles stageDone unclaimedDone ended completed
    refine goes_ok (next item after done ?_ ?_ ⟨completed, ?_⟩ stageDone unclaimedDone
      (finished.update ended))
    · rw [fits_iff, ← presents]
      exact ⟨fun both => both.2 item answered, fun left => ⟨settles, fun other same =>
        Except.ok.inj (answered.symm.trans same) ▸ left⟩⟩
    · rw [expected_eq, answered]
    · rw [answered] at settles
      exact settles
  · intro message after done answered stageDone unclaimedDone ended
    refine goes_error (alone_stays (missing message after _ ?_ ?_ stageDone unclaimedDone
      (finished.update ended)))
    · rw [fits_iff, ← presents, answered]
      exact ⟨⟨message, rfl⟩, fun _ => nofun⟩
    · rw [expected_eq, answered]
      rfl
  · intro exception after unsettled escapes
    refine goes_error (alone_stays (escaped exception after (fun fitting => ?_) escapes))
    exact unsettled (presents.mpr (fits_iff.mp fitting).1)

/-- The three tools of a fresh run, in their order. -/
theorem serves_gatherEvidence {Post : Except Failure (List Evidence) → View → Prop}
    (identified : EvidenceTools.Identified setting.query)
    (stage : Stage view run fun _ => none) (unclaimed : View.Unclaimed view t)
    (gathered : ∀ inventory demand supplier after rows,
      (setting.EvidenceFits ↔ setting.BundleFits [inventory, demand, supplier]) →
      setting.firstFailure = setting.bundleFailure [inventory, demand, supplier] →
      Stage after run rows → View.Unclaimed after t →
      Gathered setting rows inventory demand supplier → Finished rows → rows .reasoning = none →
      Post (.ok [inventory, demand, supplier]) after)
    (missing : ∀ message after rows, setting.EvidenceFits →
      setting.firstFailure = some "EVIDENCE_MISSING" → Stage after run rows →
      View.Unclaimed after t → Finished rows →
      Post (.error (.evidenceFailure "EVIDENCE_MISSING" message)) after)
    (escaped : ∀ exception after, ¬ setting.EvidenceFits → EvidenceTools.Escapes exception →
      Post (.error exception) after) :
    (solo setting t runId).Serves t (setting.service.gatherEvidence setting.principal run) Post
      view := by
  refine serves_nextTool identified Iff.rfl rfl stage unclaimed finished_none rfl (by decide) ?_
    missing escaped
  intro inventory _ first fitsFirst codeFirst keptFirst stageFirst unclaimedFirst finishedFirst
  refine serves_nextTool identified fitsFirst codeFirst stageFirst unclaimedFirst finishedFirst
    rfl (by decide) ?_ missing escaped
  intro demand _ second fitsSecond codeSecond keptSecond stageSecond unclaimedSecond
    finishedSecond
  refine serves_nextTool identified fitsSecond codeSecond stageSecond unclaimedSecond
    finishedSecond rfl (by decide) ?_ missing escaped
  intro supplier after third fitsThird codeThird keptThird stageThird unclaimedThird finishedThird
  exact serves_pure (alone_stays (gathered inventory demand supplier after _ fitsThird codeThird
    stageThird unclaimedThird ⟨keptFirst, keptSecond, keptThird⟩ finishedThird rfl))

/-! ## Reasoning -/

/-- What a call leaves under the claim of the reasoning, and after it. -/
def UnderClaim (t : Tid) (Post : Except Failure ReasoningOutcome → View → Prop)
    (result : Except Failure ReasoningOutcome) (last : View) : Prop :=
  last.claimConnection t ≠ .lost ∧ Post result (last.endClaim t .closed)

section Reasoned

variable {Ends : Except Failure ReasoningOutcome → View → Prop} {row : ToolRow} {fits : Prop}

/-- Both kinds of failure end here, with the code under which they are stored. -/
theorem serves_failReasoning {code message : String} (stage : Stage view run rows)
    (found : rows .reasoning = some row) (ofRun : row.runId = run.runId)
    (ofTool : row.toolName = .reasoning) (tenant : row.tenantId = setting.principal.tenantId)
    (held : view.claimConnection t ≠ .lost) (fits_iff : storableText code = true ↔ fits)
    (failed : ∀ after done, fits →
      Stage after run (Function.update rows .reasoning (some done)) → View.Unclaimed after t →
      done.status = .failed → Ends (.error (.reasoningFailure code message)) after)
    (escaped : ∀ error after, ¬ fits → Ends (.error (.database error)) after) :
    (solo setting t runId).Serves t
      (do
        let now ← clock
        completeTool setting.principal run.runId .reasoning none (errorMetadata code) .failed now
        raise (.reasoningFailure code message))
      (UnderClaim t Ends) view := by
  refine alone_clock fun now => serves_bind (serves_complete stage found ofRun ofTool tenant
    (fun unstorable error => ?_)
      fun storable after done claims status _ _ stageDone => ?_)
  · refine goes_error (alone_stays ⟨held, escaped error _ fun fitting => unstorable ?_⟩)
    have text := fits_iff.mpr fitting
    exact ⟨rfl, by simpa [errorMetadata, Json.storable, Json.storableMembers] using
      ⟨by decide, text⟩⟩
  · refine goes_ok (serves_raise (alone_stays ⟨claims ▸ held, ?_⟩))
    have text : storableText code = true := by
      have stored := storable.2
      simp only [errorMetadata, Json.storable, Json.storableMembers, Bool.and_eq_true] at stored
      exact stored.1.2
    exact failed _ done (fits_iff.mp text) ⟨stageDone.stored, stageDone.tools⟩
      (unclaimed_endClaim _ t) status

/-- A result that passed its checks is stored. -/
theorem serves_storeReasoning {outcome : ReasoningOutcome} (stage : Stage view run rows)
    (found : rows .reasoning = some row) (ofRun : row.runId = run.runId)
    (ofTool : row.toolName = .reasoning) (tenant : row.tenantId = setting.principal.tenantId)
    (held : view.claimConnection t ≠ .lost)
    (fits_iff : fits ↔
      outcome.result.modelDump.storable = true ∧ outcome.metadata.storable = true)
    (answered : ∀ after done, fits →
      Stage after run (Function.update rows .reasoning (some done)) → View.Unclaimed after t →
      done.status = .completed → done.resultJson = some outcome.result.modelDump →
      done.tenantId = setting.principal.tenantId → Ends (.ok outcome) after)
    (escaped : ∀ error after, ¬ fits → Ends (.error (.database error)) after) :
    (solo setting t runId).Serves t
      (do
        let now ← clock
        completeTool setting.principal run.runId .reasoning (some outcome.result.modelDump)
          outcome.metadata .completed now
        pure outcome)
      (UnderClaim t Ends) view := by
  refine alone_clock fun now => serves_bind (serves_complete stage found ofRun ofTool tenant
    (fun unstorable error => ?_)
      fun storable after done claims status stored tenantDone stageDone => ?_)
  · exact goes_error (alone_stays
      ⟨held, escaped error _ fun fitting => unstorable (fits_iff.mp fitting)⟩)
  · exact goes_ok (serves_pure (alone_stays ⟨claims ▸ held,
      answered _ done (fits_iff.mpr storable) ⟨stageDone.stored, stageDone.tools⟩
        (unclaimed_endClaim _ t) status stored tenantDone⟩))

end Reasoned

/-- The reasoning of a run that passed its checks: what it leaves, and how it ends. -/
theorem serves_reasonOnce {Post : Except Failure ReasoningOutcome → View → Prop}
    (gathered : Gathered setting rows inventory demand supplier) (stage : Stage view run rows)
    (unclaimed : View.Unclaimed view t) (fresh : rows .reasoning = none)
    (answered : ∀ outcome after done,
      setting.reasoned [inventory, demand, supplier] = .ok outcome.result →
      validateCitations outcome.result
        ([inventory, demand, supplier].map Evidence.evidenceId) = .ok () →
      setting.ReasoningFits [inventory, demand, supplier] →
      Stage after run (Function.update rows .reasoning (some done)) → View.Unclaimed after t →
      done.status = .completed → done.resultJson = some outcome.result.modelDump →
      done.tenantId = setting.principal.tenantId → Post (.ok outcome) after)
    (failed : ∀ code message after done,
      setting.reasoned [inventory, demand, supplier] = .error code →
      setting.ReasoningFits [inventory, demand, supplier] →
      Stage after run (Function.update rows .reasoning (some done)) → View.Unclaimed after t →
      done.status = .failed → Post (.error (.reasoningFailure code message)) after)
    (escaped : ∀ error after, ¬ setting.ReasoningFits [inventory, demand, supplier] →
      Post (.error (.database error)) after) :
    (solo setting t runId).Serves t (setting.service.reasonOnce setting.principal run) Post
      view := by
  refine serves_bind (serves_gathered gathered stage ?_)
  refine goes_ok (alone_clock fun now => serves_bind (serves_claimTool stage unclaimed fresh
    (setting.tools.provenance.canonicalHash_hex _) ?_))
  intro row claimed ofRun tenant ofTool started held stageClaimed
  refine serves_withClaim (serves_attempt ?_)
  refine serves_called (fun _ _ => rfl) fun drawn allowed => ?_
  have answer : drawn.reason [inventory, demand, supplier] =
      (setting.adapter [inventory, demand, supplier]).result := by rw [allowed.2.2]
  have stageInvoked : Stage (claimed.invoke run.runId .reasoning) run
      (Function.update rows .reasoning (some row)) := ⟨stageClaimed.stored, stageClaimed.tools⟩
  have found : Function.update rows .reasoning (some row) .reasoning = some row :=
    Function.update_self _ _ _
  rw [answer]
  have failing : ∀ code message,
      setting.reasoned [inventory, demand, supplier] = .error code →
      (storableText code = true ↔ setting.ReasoningFits [inventory, demand, supplier]) →
      (solo setting t runId).Serves t
        (do
          let now ← clock
          completeTool setting.principal run.runId .reasoning none (errorMetadata code) .failed now
          raise (.reasoningFailure code message))
        (UnderClaim t Post) (claimed.invoke run.runId .reasoning) := by
    intro code message expected fits
    refine serves_failReasoning stageInvoked found ofRun ofTool tenant held fits
      (fun after done fitting stageDone => ?_) escaped
    rw [Function.update_idem] at stageDone
    exact failed code message after done expected fitting stageDone
  cases adapter : setting.adapter [inventory, demand, supplier] with
  | returns outcome =>
      refine goes_ok (serves_bind (serves_lift (alone_stays ?_)))
      cases cited : validateCitations outcome.result
          ([inventory, demand, supplier].map Evidence.evidenceId) with
      | ok done =>
          have fits : setting.ReasoningFits [inventory, demand, supplier] ↔
              outcome.result.modelDump.storable = true ∧ outcome.metadata.storable = true := by
            simp only [ReasoningFits, adapter, cited, forall_const]
          refine goes_ok (serves_pure (alone_stays ?_))
          refine serves_storeReasoning stageInvoked found ofRun ofTool tenant held fits
            (fun after done fitting stageDone => ?_) escaped
          rw [Function.update_idem] at stageDone
          refine answered outcome after done ?_ cited fitting stageDone
          simp only [reasoned, adapter, cited]
      | error refusal =>
          obtain ⟨message, rfl⟩ := valueError_of_validateCitations cited
          refine goes_error (alone_stays ?_)
          refine failing "INVALID_REASONING_OUTPUT" "Reasoning citation validation failed" ?_ ?_
          · simp only [reasoned, adapter, cited]
          · have fits : setting.ReasoningFits [inventory, demand, supplier] := by
              simp only [ReasoningFits, adapter, cited, reduceCtorEq, false_imp_iff]
            exact ⟨fun _ => fits, fun _ => by decide⟩
  | reasoningFailure code message =>
      refine goes_error (alone_stays ?_)
      refine failing code message ?_ ?_
      · simp only [reasoned, adapter]
      · simp only [ReasoningFits, adapter]
  | valueError message =>
      refine goes_error (alone_stays ?_)
      refine failing "INVALID_REASONING_OUTPUT" "Reasoning citation validation failed" ?_ ?_
      · simp only [reasoned, adapter]
      · simp only [ReasoningFits, adapter, iff_true]
        decide

/-! ## Drafting -/

/-- The draft of a completed reasoning is the result that was stored. -/
theorem serves_draftResult {Post : Except Failure (Except String ReasoningResult) → View → Prop}
    {result : ReasoningResult} {invocation : ToolRow}
    (gathered : Gathered setting rows inventory demand supplier) (stage : Stage view run rows)
    (reasoning : rows .reasoning = some invocation) (completed : invocation.status = .completed)
    (stored : invocation.resultJson = some result.modelDump)
    (tenant : invocation.tenantId = setting.principal.tenantId)
    (cited : validateCitations result
      ([inventory, demand, supplier].map Evidence.evidenceId) = .ok ())
    (drafted : Post (.ok (.ok result)) view) :
    (solo setting t runId).Serves t (setting.service.draftResult setting.principal run) Post
      view := by
  have found : view.db.tool? setting.principal.tenantId run.runId .reasoning = some invocation :=
    Db.tool?_eq_some.mpr ⟨by rw [stage.tools, reasoning], tenant⟩
  have validated : InvestigationService.validateResult invocation.resultJson = .ok result := by
    simp [InvestigationService.validateResult, stored]
  refine serves_select (fun db => db.tool? setting.principal.tenantId run.runId .reasoning)
    (fun _ _ _ => rfl) fun later relied _ => ?_
  rw [alone_later relied, found]
  simp only [completed, ne_eq, not_true, if_false]
  refine serves_attempt (serves_bind (serves_lift (alone_stays ?_)))
  rw [validated]
  refine goes_ok (serves_bind (serves_gathered gathered stage ?_))
  refine goes_ok (serves_bind (serves_lift (alone_stays ?_)))
  rw [cited]
  refine goes_ok (serves_pure (alone_stays ?_))
  exact serves_pure (alone_stays drafted)

/-- The draft is stored, and the run awaits a human. -/
theorem serves_presentDraft {result : ReasoningResult} {Post : Except Failure RunRow → View → Prop}
    (stage : Stage view run rows) (unclaimed : View.Unclaimed view t)
    (ofSetting : OfSetting setting runId run) (state : run.state = .draftingRecommendation)
    (presented : ∀ after next, Stage after next rows → View.Unclaimed after t →
      OfSetting setting runId next → next.state = .awaitingHuman → Post (.ok next) after) :
    (solo setting t runId).Serves t (setting.service.presentDraft setting.principal run result)
      Post view := by
  refine alone_clock fun now => serves_move stage unclaimed ofSetting.tenantId ?_
    (fun row => setDraft_sameRun _ _ _ _ row) (fun checked => ?_) fun eventId => ?_
  · rw [state]
    rfl
  · exact checked_setDraft checked (setting.tools.provenance.canonicalHash_hex result.modelDump)
  · exact presented _ _ (stage.moved (setDraft_sameRun _ _ _ _ run) _) unclaimed
      (ofSetting.same (setDraft_sameRun _ _ _ _ run)) rfl

/-! ## The loop -/

section Loop

variable {fuel : Nat} {Verdicts : Except Failure RunRow → View → Prop}

/-- One turn of the loop, and what is left of it. -/
theorem serves_resumeStep
    (turn : (solo setting t runId).Serves t (setting.service.resumeTurn setting.principal run)
      (fun result last =>
        match result with
        | .ok (.inl next) => (solo setting t runId).Serves t
            (setting.service.resumeStep setting.principal fuel next) Verdicts last
        | .ok (.inr final) => Verdicts (.ok final) last
        | .error exception => Verdicts (.error exception) last) view) :
    (solo setting t runId).Serves t
      (setting.service.resumeStep setting.principal (fuel + 1) run) Verdicts view := by
  refine serves_bind (serves_mono (fun result last _ rest => ?_) turn)
  match result, rest with
  | .ok (.inl next), rest => exact goes_ok rest
  | .ok (.inr final), ended => exact goes_ok (serves_pure (alone_stays ended))
  | .error exception, ended => exact goes_error (alone_stays ended)

/-- A run that awaits a human is returned. -/
theorem serves_awaiting (stage : Stage view run rows) (ofSetting : OfSetting setting runId run)
    (state : run.state = .awaitingHuman) (finished : Finished rows)
    (ended : EndsWell none runId run view → Verdicts (.ok run) view) :
    (solo setting t runId).Serves t
      (setting.service.resumeStep setting.principal (fuel + 1) run) Verdicts view := by
  refine serves_resumeStep ?_
  simp only [InvestigationService.resumeTurn, state]
  refine serves_pure (alone_stays (ended ⟨ofSetting.runId, ?_, state, fun tool row found => ?_⟩))
  · exact ofSetting.runId ▸ stage.stored
  · rw [← ofSetting.runId, stage.tools] at found
    exact finished tool row found

/-- From `DRAFTING_RECOMMENDATION` the run gets to a human. -/
theorem serves_drafting {result : ReasoningResult} {invocation : ToolRow}
    (gathered : Gathered setting rows inventory demand supplier) (stage : Stage view run rows)
    (unclaimed : View.Unclaimed view t) (ofSetting : OfSetting setting runId run)
    (state : run.state = .draftingRecommendation) (finished : Finished rows)
    (reasoning : rows .reasoning = some invocation) (completed : invocation.status = .completed)
    (stored : invocation.resultJson = some result.modelDump)
    (tenant : invocation.tenantId = setting.principal.tenantId)
    (cited : validateCitations result
      ([inventory, demand, supplier].map Evidence.evidenceId) = .ok ())
    (ended : ∀ final after, EndsWell none runId final after → Verdicts (.ok final) after) :
    (solo setting t runId).Serves t
      (setting.service.resumeStep setting.principal (fuel + 2) run) Verdicts view := by
  refine serves_resumeStep ?_
  simp only [InvestigationService.resumeTurn, state]
  refine serves_bind (serves_draftResult gathered stage reasoning completed stored tenant cited ?_)
  refine goes_ok (serves_bind (serves_presentDraft stage unclaimed ofSetting state ?_))
  intro after next stageNext unclaimedNext ofSettingNext stateNext
  refine goes_ok (serves_pure (alone_stays ?_))
  exact serves_awaiting stageNext ofSettingNext stateNext finished (ended next after)

/-- From `REASONING` on, the answer of the adapter decides. -/
theorem serves_reasoning
    (gathered : Gathered setting rows inventory demand supplier) (stage : Stage view run rows)
    (unclaimed : View.Unclaimed view t) (ofSetting : OfSetting setting runId run)
    (state : run.state = .reasoning) (finished : Finished rows) (fresh : rows .reasoning = none) :
    (solo setting t runId).Serves t
      (setting.service.resumeStep setting.principal (fuel + 3) run)
      (Verdict (setting.ReasoningFits [inventory, demand, supplier])
        (setting.reasoningCode [inventory, demand, supplier]) runId) view := by
  refine serves_resumeStep ?_
  simp only [InvestigationService.resumeTurn, state]
  refine serves_attempt (serves_reasonOnce gathered stage unclaimed fresh ?_ ?_ ?_)
  · intro outcome after done reasoned cited fits stageDone unclaimedDone completed stored tenant
    have expected : setting.reasoningCode [inventory, demand, supplier] = none := by
      simp only [reasoningCode, reasoned]
    refine serves_turn stageDone unclaimedDone ofSetting (by rw [state]; rfl) ?_
    intro moved next stageNext unclaimedNext ofSettingNext stateNext
    have kept : Gathered setting (Function.update rows .reasoning (some done)) inventory demand
        supplier := ⟨gathered.inventory, gathered.demand, gathered.supplier⟩
    refine serves_drafting kept stageNext unclaimedNext ofSettingNext stateNext
      (finished.update (by simp [completed])) (Function.update_self _ _ _) completed stored tenant
      cited fun final ended well => .inl ⟨fits, final, rfl, ?_⟩
    rw [expected]
    exact well
  · intro code message after done reasoned fits stageDone unclaimedDone failed
    have expected : setting.reasoningCode [inventory, demand, supplier] = some code := by
      simp only [reasoningCode, reasoned]
    refine serves_escalate stageDone unclaimedDone ofSetting (by rw [state]; rfl)
      (finished.update (by simp [failed])) fun final ended well => .inl ⟨fits, final, rfl, ?_⟩
    rw [expected]
    exact well
  · intro error after unfit
    exact serves_raise (alone_stays (.inr ⟨unfit, _, rfl, .inl ⟨error, rfl⟩⟩))

/-- From `QUALITY_CHECKS` on, the bundle decides first. -/
theorem serves_quality
    (gathered : Gathered setting rows inventory demand supplier) (stage : Stage view run rows)
    (unclaimed : View.Unclaimed view t) (ofSetting : OfSetting setting runId run)
    (state : run.state = .qualityChecks) (finished : Finished rows)
    (fresh : rows .reasoning = none) :
    (solo setting t runId).Serves t
      (setting.service.resumeStep setting.principal (fuel + 4) run)
      (Verdict (setting.BundleFits [inventory, demand, supplier])
        (setting.bundleFailure [inventory, demand, supplier]) runId) view := by
  refine serves_resumeStep ?_
  simp only [InvestigationService.resumeTurn, state]
  refine serves_bind (serves_qualityChecks gathered stage ofSetting ?_ ?_)
  · intro passed
    refine goes_ok (serves_turn stage unclaimed ofSetting (by rw [state]; rfl) ?_)
    intro moved next stageNext unclaimedNext ofSettingNext stateNext
    refine serves_mono (fun result last _ verdict => ?_) (serves_reasoning gathered stageNext
      unclaimedNext ofSettingNext stateNext finished fresh)
    refine Verdict.congr verdict ?_ fun _ => ?_
    · simp only [BundleFits, passed, true_imp_iff]
    · simp only [bundleFailure, passed]
  · intro failure refused
    refine goes_ok (serves_escalate stage unclaimed ofSetting (by rw [state]; rfl) finished ?_)
    intro final after well
    refine .inl ⟨?_, final, rfl, ?_⟩
    · simp only [BundleFits, refused, reduceCtorEq, false_imp_iff]
    · simpa only [bundleFailure, refused] using well

/-- From `GATHERING_EVIDENCE` on, the fixtures decide first. -/
theorem serves_gathering (identified : EvidenceTools.Identified setting.query)
    (stage : Stage view run fun _ => none) (unclaimed : View.Unclaimed view t)
    (ofSetting : OfSetting setting runId run) (state : run.state = .gatheringEvidence) :
    (solo setting t runId).Serves t
      (setting.service.resumeStep setting.principal (fuel + 5) run)
      (Verdict setting.EvidenceFits setting.firstFailure runId) view := by
  refine serves_resumeStep ?_
  simp only [InvestigationService.resumeTurn, state]
  refine serves_attempt (serves_gatherEvidence identified stage unclaimed ?_ ?_ ?_)
  · intro inventory demand supplier after rows fits code stageDone unclaimedDone gathered finished
      fresh
    refine serves_turn stageDone unclaimedDone ofSetting (by rw [state]; rfl) ?_
    intro moved next stageNext unclaimedNext ofSettingNext stateNext
    refine serves_mono (fun result last _ verdict => verdict.congr fits.symm fun _ => code.symm)
      (serves_quality gathered stageNext unclaimedNext ofSettingNext stateNext finished fresh)
  · intro message after rows fits code stageDone unclaimedDone finished
    refine serves_escalate stageDone unclaimedDone ofSetting (by rw [state]; rfl) finished ?_
    intro final ended well
    refine .inl ⟨fits, final, rfl, ?_⟩
    rw [code]
    exact well
  · intro exception after unfit escapes
    have ended : Verdict setting.EvidenceFits setting.firstFailure runId (.error exception) after :=
      .inr ⟨unfit, exception, rfl, escapes⟩
    rcases escapes with ⟨error, rfl⟩ | ⟨message, rfl⟩
    · exact serves_raise (alone_stays ended)
    · exact serves_raise (alone_stays ended)

/-- A fresh run from its creation on. -/
theorem serves_created (identified : EvidenceTools.Identified setting.query)
    (stage : Stage view run fun _ => none) (unclaimed : View.Unclaimed view t)
    (ofSetting : OfSetting setting runId run) (state : run.state = .created) :
    (solo setting t runId).Serves t
      (setting.service.resumeStep setting.principal (fuel + 7) run)
      (Verdict setting.EvidenceFits setting.firstFailure runId) view := by
  refine serves_resumeStep ?_
  simp only [InvestigationService.resumeTurn, state]
  refine serves_turn stage unclaimed ofSetting (by rw [state]; rfl) ?_
  intro validated first stageFirst unclaimedFirst ofSettingFirst stateFirst
  refine serves_resumeStep ?_
  simp only [InvestigationService.resumeTurn, stateFirst]
  refine serves_turn stageFirst unclaimedFirst ofSettingFirst (by rw [stateFirst]; rfl) ?_
  intro gathering second stageSecond unclaimedSecond ofSettingSecond stateSecond
  exact serves_gathering identified stageSecond unclaimedSecond ofSettingSecond stateSecond

/-- Nobody else moves the run, so it is resumed once. -/
theorem serves_resume (identified : EvidenceTools.Identified setting.query)
    (stage : Stage view run fun _ => none) (unclaimed : View.Unclaimed view t)
    (ofSetting : OfSetting setting runId run) (state : run.state = .created) :
    (solo setting t runId).Serves t
      (setting.service.resume setting.principal (fuel + 8) run)
      (Verdict setting.EvidenceFits setting.firstFailure runId) view := by
  refine serves_attempt (serves_mono (fun result last _ verdict => ?_)
    (serves_created identified stage unclaimed ofSetting state))
  rcases verdict with ⟨fits, final, rfl, ended⟩ | ⟨unfit, exception, rfl, escapes⟩
  · exact serves_pure (alone_stays (.inl ⟨fits, final, rfl, ended⟩))
  · have ended : Verdict setting.EvidenceFits setting.firstFailure runId (.error exception) last :=
      .inr ⟨unfit, exception, rfl, escapes⟩
    rcases escapes with ⟨error, rfl⟩ | ⟨message, rfl⟩
    · exact serves_raise (alone_stays ended)
    · exact serves_raise (alone_stays ended)

end Loop

end Stages

/-! ## The whole intake -/

section Intake

open Protocol

variable {setting : IntakeSetting} {t : Tid} {runId : RunId} {view : View}

/-- The key and the run identifier that nobody has used. -/
structure Fresh (setting : IntakeSetting) (runId : RunId) (db : Db) : Prop where
  key : db.keys (setting.principal.tenantId, setting.arguments.idempotencyKey) = none
  run : db.runs runId = none
  tools : ∀ tool, db.tools runId tool = none

/-- The row of the run passes its checks exactly when the request fits. -/
theorem checks_iff {assignedReviewerId : String} (runId : RunId) (now : Timestamp)
    (key : lengthBetween 1 200 setting.arguments.idempotencyKey = true) :
    (checkAll ((setting.service.intakeCall setting.principal setting.arguments assignedReviewerId
        now).runRow runId).checks = .ok () ∧
      checkAll ((setting.service.intakeCall setting.principal setting.arguments assignedReviewerId
        now).keyRow runId).checks = .ok ()) ↔ setting.RequestFits assignedReviewerId := by
  have bounded : ∀ text : String, lengthBetween 1 80 text = true → notEmpty text = true := by
    intro text bounds
    simp only [lengthBetween, Bool.and_eq_true, decide_eq_true_eq] at bounds
    simp only [notEmpty, decide_eq_true_eq]
    omega
  have sku := bounded _ setting.arguments.request.skuId_bounds
  have store := bounded _ setting.arguments.request.storeId_bounds
  have supplier := bounded _ setting.arguments.request.supplierId_bounds
  have hex := setting.tools.provenance.canonicalHash_hex setting.arguments.modelDump
  simp only [checkAll_eq_ok, RunRow.checks, KeyRow.checks, IntakeCall.runRow, IntakeCall.keyRow,
    InvestigationService.intakeCall, service, RequestFits, List.forall_mem_cons, sku, store,
    supplier, hex, key, nullOr, List.all_cons, List.all_nil, Bool.and_true, Bool.and_eq_true]
  simp
  grind

theorem identified_of_requestFits {assignedReviewerId : String}
    (fits : setting.RequestFits assignedReviewerId) :
    EvidenceTools.Identified setting.query := by
  have bounded : ∀ text : String, lengthBetween 1 80 text = true → notEmpty text = true := by
    intro text bounds
    simp only [lengthBetween, Bool.and_eq_true, decide_eq_true_eq] at bounds
    simp only [notEmpty, decide_eq_true_eq]
    omega
  have texts := fits.1
  simp only [List.all_cons, List.all_nil, Bool.and_true, Bool.and_eq_true] at texts
  obtain ⟨-, -, -, sku, store, supplier, -⟩ := texts
  refine ⟨?_, ?_, ?_⟩
  · exact Bool.and_eq_true_iff.mpr ⟨bounded _ setting.arguments.request.skuId_bounds, sku⟩
  · exact Bool.and_eq_true_iff.mpr ⟨bounded _ setting.arguments.request.storeId_bounds, store⟩
  · exact Bool.and_eq_true_iff.mpr
      ⟨bounded _ setting.arguments.request.supplierId_bounds, supplier⟩

/-- The intake alone: it ends well where everything fits, and raises elsewhere. -/
theorem serves_intake {fuel : Nat} (fresh : Fresh setting runId view.db)
    (unclaimed : View.Unclaimed view t) :
    (setting.solo t runId).Serves t
      (setting.service.intake setting.principal (fuel + 8) setting.arguments)
      (fun result last =>
        (setting.Fits ∧ ∃ final, result = .ok (final, true) ∧
          EndsWell setting.firstFailure runId final last) ∨
        (¬ setting.Fits ∧ ∃ exception, result = .error exception)) view := by
  unfold InvestigationService.intake
  by_cases operator : setting.principal.hasRole "operator" = true
  case neg =>
    rw [if_pos operator]
    exact serves_raise (alone_stays (.inr ⟨fun fits => operator fits.1, _, rfl⟩))
  rw [if_neg (not_not_intro operator)]
  by_cases key : lengthBetween 1 200 setting.arguments.idempotencyKey = true
  case neg =>
    refine serves_bind (serves_lift (alone_stays ?_))
    rw [requireIdempotencyKey, if_neg key]
    exact goes_error (alone_stays (.inr ⟨fun fits => key fits.2.1, _, rfl⟩))
  refine serves_bind (serves_lift (alone_stays ?_))
  rw [requireIdempotencyKey, if_pos key]
  refine goes_ok ?_
  cases assigned : setting.assignedReviewer setting.principal.tenantId with
  | none =>
      have unassigned : setting.service.assignedReviewer setting.principal.tenantId = none :=
        assigned
      rw [unassigned]
      refine serves_raise (alone_stays (.inr ⟨?_, _, rfl⟩))
      rintro ⟨-, -, reviewer, found, -⟩
      simp [assigned] at found
  | some assignedReviewerId =>
      have found : setting.service.assignedReviewer setting.principal.tenantId =
          some assignedReviewerId := assigned
      rw [found]
      have fits : setting.Fits ↔
          setting.RequestFits assignedReviewerId ∧ setting.EvidenceFits := by
        simp only [Fits, operator, key, assigned, true_and, Option.some.injEq, exists_eq_left']
      refine alone_clock fun now => serves_bind (serves_begin unclaimed fresh.key
        (fun drawn allowed => allowed.1 ▸ fresh.run) ?_ ?_)
      · intro drawn eventId allowed checkedRun checkedKey
        obtain rfl := allowed.1
        have request : setting.RequestFits assignedReviewerId :=
          (checks_iff drawn.uuid now key).mp ⟨checkedRun, checkedKey⟩
        let call := setting.service.intakeCall setting.principal setting.arguments
          assignedReviewerId now
        have stage : Stage (view.commit t (call.created drawn.uuid eventId))
            (call.runRow drawn.uuid) fun _ => none := by
          refine ⟨?_, funext fresh.tools⟩
          simp [View.commit, Db.applyAll, Db.apply, IntakeCall.created]
        refine goes_ok (serves_bind (serves_mono (fun result last _ verdict => ?_)
          (serves_resume (identified_of_requestFits request) stage unclaimed ⟨rfl, rfl, rfl⟩ rfl)))
        rcases verdict with ⟨evidence, final, rfl, ended⟩ | ⟨unfit, exception, rfl, -⟩
        · exact goes_ok (serves_pure (alone_stays
            (.inl ⟨fits.mpr ⟨request, evidence⟩, final, rfl, ended⟩)))
        · exact goes_error (alone_stays
            (.inr ⟨fun fitting => unfit (fits.mp fitting).2, exception, rfl⟩))
      · intro drawn allowed refused error
        refine goes_error (alone_stays (.inr ⟨fun fitting => ?_, _, rfl⟩))
        have checked := (checks_iff drawn.uuid now key).mpr (fits.mp fitting).1
        rcases refused with ⟨refusal, run⟩ | ⟨refusal, keyRow⟩
        · cases run.symm.trans checked.1
        · cases keyRow.symm.trans checked.2

/-- Whatever the fuel beyond the eight turns of a fresh run. -/
theorem alone_intake {world : World} (resting : world.Resting)
    (fresh : Fresh setting runId world.view.db) (fuel : Nat) :
    Prog.Alone (setting.Allowed runId) t
      (setting.service.intake setting.principal (fuel + 8) setting.arguments)
      (fun result last =>
        (setting.Fits ∧ ∃ final, result = .ok (final, true) ∧
          EndsWell setting.firstFailure runId final last.view) ∨
        (¬ setting.Fits ∧ ∃ exception, result = .error exception)) world :=
  alone_of_serves resting (serves_intake fresh (resting.unclaimed t))

theorem fits_of_failsClosed {world : World} (resting : world.Resting)
    (fresh : Fresh setting runId world.view.db) (closed : setting.FailsClosed t runId world) :
    setting.Fits := by
  obtain ⟨needed, closed⟩ := closed
  obtain ⟨result, last, ⟨final, rfl, -⟩, ⟨fits, -⟩ | ⟨-, exception, raised⟩⟩ :=
    Prog.Alone.exists_end
      ((closed (needed + 8) (Nat.le_add_right _ _)).and (alone_intake resting fresh needed))
  · exact fits
  · cases raised

theorem failsClosed_of_fits {world : World} (resting : world.Resting)
    (fresh : Fresh setting runId world.view.db) (fits : setting.Fits) :
    setting.FailsClosed t runId world := by
  refine ⟨8, fun fuel enough => ?_⟩
  obtain ⟨more, rfl⟩ := Nat.exists_eq_add_of_le' enough
  refine Prog.Alone.mono (fun result last verdict => ?_) (alone_intake resting fresh more)
  rcases verdict with ⟨-, ended⟩ | ⟨unfit, -⟩
  · exact ended
  · exact absurd fits unfit

end Intake

end IntakeSetting

/-- An intake with a fresh key fails closed exactly when its texts, the rows it
finds and the answer of its adapter can all be stored. -/
theorem intake_fails_closed_iff (setting : IntakeSetting) (t : Tid) (runId : RunId)
    (world : World) (resting : world.Resting)
    (fresh : IntakeSetting.Fresh setting runId world.view.db) :
    setting.FailsClosed t runId world ↔ setting.Fits :=
  ⟨IntakeSetting.fits_of_failsClosed resting fresh,
    IntakeSetting.failsClosed_of_fits resting fresh⟩

/-! ## An admitted row that leaves its run behind -/

/-- The hashes of the source on the values below. -/
def exampleProvenance : Provenance where
  sha256Text := fun text =>
    if isHex64 text then text
    else "ad7c385b7b125809dbaf20aec06f738387cbe11485352d94a0ee90b8cdfcd0ef"
  canonicalJson := fun value =>
    if (value.member? "supplier_id").isSome then
      "ea2cb8d8eef1ae945287edffde4be0322dd58354601e0308fc6a7ceb7f4eb17a"
    else if (value.member? "on_hand").isSome then
      "6cd331303debadcf9bd952412ec3455aadc83b8107aadf32493efbe05ecfaf7f"
    else if (value.member? "demand_signal").isSome then
      "8346af8d51facd3e95d3e9261657430ed540f1f1a4cba1a1fd842be8ab1bfbed"
    else if (value.member? "window_start").isSome then
      "934aba1c231e0cf4fb6c663fafb52c79b64c1157094ebc759d40a188ac6295ed"
    else "7fbfd0b7f127d44377a831e66c332b72518c4f6d0f95357d19cfedc75aec37c3"
  isoUtc := fun value =>
    if value.instant = 0 then "1970-01-01T00:00:00Z" else "1970-01-02T00:00:00Z"
  isoformat := fun instant =>
    if instant = 0 then "1970-01-01T00:00:00+00:00" else "1970-01-02T00:00:00+00:00"
  sha256Text_hex := by
    intro text
    split
    · assumption
    · decide

theorem stock_nonneg :
    ((Numeric.finite 5).nonneg && (Numeric.finite 0).nonneg &&
      (Numeric.finite 0).nonneg) = true := by
  decide

theorem sales_nonneg : ((Numeric.finite 1).nonneg && (Numeric.finite 1).nonneg) = true := by
  decide

/-- The demand fixture carries an empty signal, which its table admits. -/
def unsignalledFixtures : Fixtures where
  inventory := fun _ _ _ => some
    { onHand := .finite 5
      reserved := .finite 0
      onOrder := .finite 0
      updatedAt := .at (86400 * second)
      admitted := stock_nonneg }
  demand := fun _ _ _ _ _ => some
    { unitsSold := .finite 1
      averageDailyUnits := .finite 1
      demandSignal := ""
      updatedAt := .at (86400 * second)
      admitted := sales_nonneg
      text := by decide }
  supplier := fun _ _ _ => none

def unsignalledIntake : IntakeSetting where
  tools := ⟨exampleProvenance, exactModels, unsignalledFixtures, "v1"⟩
  adapter := fun _ => .reasoningFailure "REASONING_UNAVAILABLE" "No adapter"
  toolLockKey := fun _ _ => 0
  assignedReviewer := fun _ => some "reviewer"
  principal := ⟨"planner", "north", ["operator"]⟩
  arguments :=
    { request :=
        { skuId := "SKU-1"
          storeId := "STORE-1"
          supplierId := "SUP-1"
          asOfTs := 86400 * second
          windowStart := 0
          windowEnd := 86400 * second
          skuId_bounds := length_sku1
          storeId_bounds := length_store1
          supplierId_bounds := length_sup1
          timestamps := by decide }
      modelDump := .obj [("sku_id", .str "SKU-1"), ("store_id", .str "STORE-1"),
        ("supplier_id", .str "SUP-1"), ("as_of_ts", .str "1970-01-02T00:00:00Z"),
        ("window_start", .str "1970-01-01T00:00:00Z"), ("window_end", .str "1970-01-02T00:00:00Z")]
      idempotencyKey := "restock"
      runMode := .humanReview }

theorem resting_initial : World.initial.Resting where
  locked := World.locked_initial
  idle := World.idle_initial
  unclaimed := fun _ _ => nofun

/-! ### An intake that reaches its human -/

def stubStatement : Text 1 600 where
  value := "Simulated inventory availability is below recent demand while " ++
    "supplier evidence indicates replenishment timing risk."
  bounds := by decide +kernel

def stubRationale : Text 1 1000 where
  value := "A human reviewer should inspect the simulated replenishment plan " ++
    "against the cited inventory, demand, and supplier evidence."
  bounds := by decide +kernel

theorem take_two_bounds {items : List String} (bounds : 1 ≤ items.length ∧ items.length ≤ 3) :
    1 ≤ (items.take 2).length ∧ (items.take 2).length ≤ 3 := by
  rw [List.length_take]
  omega

def stubResult (citations : Citations) : ReasoningResult where
  rootCauseHypothesis :=
    ⟨stubStatement, .medium, ⟨citations.items.take 2, take_two_bounds citations.bounds⟩⟩
  recommendationDraft := ⟨.reviewReplenishment, stubRationale, citations⟩

theorem storable_texts {texts : List String} (each : ∀ text ∈ texts, storableText text = true) :
    Json.storable (.arr (texts.map Json.str)) = true := by
  rw [Json.storable]
  induction texts with
  | nil => rfl
  | cons head tail inductionHypothesis =>
      rw [List.map_cons, Json.storableItems, Json.storable, each head List.mem_cons_self,
        inductionHypothesis fun text member => each text (List.mem_cons_of_mem _ member)]
      rfl

theorem storable_stubResult {citations : Citations}
    (each : ∀ id ∈ citations.items, storableText id = true) :
    (stubResult citations).modelDump.storable = true := by
  have few := @storable_texts (citations.items.take 2) fun id member =>
    each id (List.mem_of_mem_take member)
  have texts : storableText stubStatement.value = true ∧
      storableText stubRationale.value = true := by
    decide +kernel
  have all := storable_texts each
  simp only [ReasoningResult.modelDump, RootCauseHypothesis.modelDump,
    RecommendationDraft.modelDump, Citations.modelDump, stubResult, Json.storable,
    Json.storableMembers, Bool.and_eq_true, Bool.and_true] at few all ⊢
  simp only [texts, few, all]
  decide

def stubOutcome (provenance : Provenance) (codec : EvidenceCodec) (ordered : List Evidence)
    (result : ReasoningResult) : ReasoningOutcome where
  result := result
  modelId := .str "deterministic-stub-v1"
  promptHash := .str (provenance.canonicalHash (.str "deterministic-stub-v1"))
  inputHash := .str (provenance.canonicalHash (.arr (ordered.map codec.modelDump)))
  outputHash := .str (provenance.canonicalHash result.modelDump)
  inputTokens := .null
  outputTokens := .null
  latencyMs := .float (.finite 0)
  estimatedCostUsd := .float (.finite 0)

def stubOrder (evidence : List Evidence) : List Evidence :=
  evidence.insertionSort fun left right => left.tool.value ≤ right.tool.value

/-- `DeterministicStubAdapter.reason` -/
@[irreducible] def deterministicStub (provenance : Provenance) (codec : EvidenceCodec)
    (evidence : List Evidence) : AdapterAnswer :=
  let ordered := stubOrder evidence
  let evidenceIds := ordered.map Evidence.evidenceId
  if bounds : 1 ≤ evidenceIds.length ∧ evidenceIds.length ≤ 3 then
    let result := stubResult ⟨evidenceIds, bounds⟩
    match validateCitations result evidenceIds with
    | .ok () => .returns (stubOutcome provenance codec ordered result)
    | .error _ => .valueError "Reasoning output contains an unknown evidence citation"
  else .valueError "validation error"

theorem storable_stubOutcome (provenance : Provenance) (codec : EvidenceCodec)
    (ordered : List Evidence) (result : ReasoningResult) :
    (stubOutcome provenance codec ordered result).metadata.storable = true := by
  have hash : ∀ value, storableText (provenance.canonicalHash value) = true :=
    fun value => storableText_of_isHex64 (provenance.canonicalHash_hex value)
  simp only [ReasoningOutcome.metadata, stubOutcome, Json.storable, Json.storableMembers, hash]
  decide

/-- The stub answers on one to three items, cites only them, and its answer can be
stored where their ids can. -/
theorem deterministicStub_returns (provenance : Provenance) (codec : EvidenceCodec)
    {bundle : List Evidence} (bounds : 1 ≤ bundle.length ∧ bundle.length ≤ 3)
    (ids : ∀ item ∈ bundle, storableText item.evidenceId = true) :
    ∃ outcome, deterministicStub provenance codec bundle = .returns outcome ∧
      validateCitations outcome.result (bundle.map Evidence.evidenceId) = .ok () ∧
      outcome.result.modelDump.storable = true ∧ outcome.metadata.storable = true := by
  have cited : ((stubOrder bundle).map Evidence.evidenceId).Perm (bundle.map Evidence.evidenceId) :=
    (List.perm_insertionSort _ bundle).map Evidence.evidenceId
  have inside : 1 ≤ ((stubOrder bundle).map Evidence.evidenceId).length ∧
      ((stubOrder bundle).map Evidence.evidenceId).length ≤ 3 := by
    rwa [cited.length_eq, List.length_map]
  have texts : ∀ id ∈ (stubOrder bundle).map Evidence.evidenceId, storableText id = true := by
    intro id member
    obtain ⟨item, of, rfl⟩ := List.mem_map.mp (cited.subset member)
    exact ids item of
  have own : ∀ citation ∈ (stubResult ⟨_, inside⟩).citations,
      citation ∈ (stubOrder bundle).map Evidence.evidenceId := by
    intro citation member
    rcases List.mem_append.mp member with statement | draft
    · exact List.mem_of_mem_take statement
    · exact draft
  refine ⟨stubOutcome provenance codec (stubOrder bundle) (stubResult ⟨_, inside⟩), ?_, ?_,
    storable_stubResult texts, storable_stubOutcome _ _ _ _⟩
  · simp only [deterministicStub, dif_pos inside, validateCitations_eq_ok.mpr own]
  · exact validateCitations_eq_ok.mpr fun citation member => cited.subset (own citation member)

section Returned

variable {setting : IntakeSetting} {bundle : List Evidence} {outcome : ReasoningOutcome}
  {inventory demand supplier : Evidence}

theorem IntakeSetting.reasoningFits_of_returns
    (returned : setting.adapter bundle = .returns outcome)
    (stored : outcome.result.modelDump.storable = true ∧ outcome.metadata.storable = true) :
    setting.ReasoningFits bundle := by
  unfold IntakeSetting.ReasoningFits
  rw [returned]
  exact fun _ => stored

theorem IntakeSetting.firstFailure_eq_none (stocked : setting.answer .inventory = .ok inventory)
    (sold : setting.answer .salesDemand = .ok demand)
    (ordered : setting.answer .supplier = .ok supplier)
    (valid : validateBundle setting.tools.provenance [inventory, demand, supplier]
      setting.arguments.request.asOfTs = .ok ())
    (returned : setting.adapter [inventory, demand, supplier] = .returns outcome)
    (cites : validateCitations outcome.result
      ([inventory, demand, supplier].map Evidence.evidenceId) = .ok ()) :
    setting.firstFailure = none := by
  simp only [IntakeSetting.firstFailure, stocked, sold, ordered, IntakeSetting.bundleFailure, valid,
    IntakeSetting.reasoningCode, IntakeSetting.reasoned, returned, cites]

end Returned

/-- The digests of the source on the values of the intake below. -/
def stockedDigest (value : Json) : String :=
  if (value.member? "status").isSome then
    "8354d5f710793d25cbffcb7a8ea5b45f825a1a7f5ffe8b3d493bd1767f691a1e"
  else if (value.member? "on_hand").isSome then
    "8a7d03653c6f62a7b7b1c909152406ce441902c23d934e20de45d3b8f3817c04"
  else if (value.member? "demand_signal").isSome then
    "86a2bec8b920fb53dfa2eac289cd510d5cd35229f560f46f79e50406511dd731"
  else if (value.member? "root_cause_hypothesis").isSome then
    "d8f4fda34b18980d6297b1f9cf3ccc826b1c1623535a9a434a9c75d073a04133"
  else if (value.member? "supplier_id").isSome then
    if (value.member? "window_start").isSome then
      "ea2cb8d8eef1ae945287edffde4be0322dd58354601e0308fc6a7ceb7f4eb17a"
    else "cb9f2010f9051074b266065f4f65d333ee3058c05509eb6a5e6a952c26b9194b"
  else if (value.member? "window_start").isSome then
    "934aba1c231e0cf4fb6c663fafb52c79b64c1157094ebc759d40a188ac6295ed"
  else if (value.member? "as_of_ts").isSome then
    "7fbfd0b7f127d44377a831e66c332b72518c4f6d0f95357d19cfedc75aec37c3"
  else if value = .str "deterministic-stub-v1" then
    "fab4a626d1efd4cbdff7152f4cee07839f957fc052adfbd52d83edbb42829070"
  else "dee96e394606b8b8e5bee062aa0e53c7c1a5e0208489b08b9f1b6e241f5ae1b2"

/-- A digest is its own, and the other texts are those of the three evidence ids. -/
def stockedText (text : String) : String :=
  if isHex64 text then text
  else if text.toList.head? = some 'i' then
    "8bac276c525700163d5a970cf37457b786c7a48f878b7db3b86521a810d213dd"
  else if text.toList.head? = some 'd' then
    "409912e199266fdf045d93e565bb6cf7499c45dfcc0f7d4d1e0c4f47ebb5a1f1"
  else "639a892cce136f4b80403dca8eb802b607ab0d4a5dfcb3d0af101aad629c6c15"

theorem stockedText_hex (text : String) : isHex64 (stockedText text) = true := by
  unfold stockedText
  split
  · assumption
  · split
    · decide +kernel
    · split <;> decide +kernel

def stockedProvenance : Provenance where
  sha256Text := stockedText
  canonicalJson := stockedDigest
  isoUtc := exampleProvenance.isoUtc
  isoformat := exampleProvenance.isoformat
  sha256Text_hex := stockedText_hex

def stockedTools : EvidenceTools := ⟨stockedProvenance, exactModels, secondDayFixtures, "v1"⟩

def stockedIntake : IntakeSetting :=
  { unsignalledIntake with
    tools := stockedTools
    adapter := deterministicStub stockedProvenance exactModels.toEvidenceCodec }

def stockedItem (facts : EvidenceFacts) : Evidence :=
  stockedTools.item secondDayQuery facts ⟨0, true⟩

def stockedBundle : List Evidence :=
  [stockedItem secondDayInventory, stockedItem secondDayDemand, stockedItem secondDaySupplier]

theorem stocked_answers :
    stockedIntake.answer .inventory = .ok (stockedItem secondDayInventory) ∧
      stockedIntake.answer .salesDemand = .ok (stockedItem secondDayDemand) ∧
      stockedIntake.answer .supplier = .ok (stockedItem secondDaySupplier) := by
  have inventory : stockedTools.models.accepts (stockedItem secondDayInventory) = true :=
    accepts_item (by decide) (by decide) (by decide) (by decide)
  have demand : stockedTools.models.accepts (stockedItem secondDayDemand) = true :=
    accepts_item (by decide) (by decide +kernel) (by decide) (by decide)
  have supplier : stockedTools.models.accepts (stockedItem secondDaySupplier) = true :=
    accepts_item (by decide) (by decide) (by decide) (by decide)
  have stocked : stockedTools.inventory secondDayQuery = .ok _ :=
    inventory_of_row rfl rfl inventory
  have sold : stockedTools.demand secondDayQuery = .ok _ := demand_of_row rfl rfl demand
  have ordered : stockedTools.supplier secondDayQuery = .ok _ :=
    supplier_of_row rfl rfl rfl supplier
  exact ⟨stocked, sold, ordered⟩

theorem stockedBundle_valid :
    validateBundle stockedProvenance stockedBundle stockedIntake.arguments.request.asOfTs =
      .ok () := by
  obtain ⟨inventory, demand, supplier⟩ := stocked_answers
  have complete : OnePerTool stockedBundle := .refl _
  refine validateBundle_eq_ok.mpr ⟨complete, ?_⟩
  simp only [stockedBundle, List.forall_mem_cons, List.not_mem_nil, false_implies, implies_true,
    and_true]
  exact ⟨⟨(provenanced_of_answer inventory).1, by decide⟩,
    ⟨(provenanced_of_answer demand).1, by decide⟩, (provenanced_of_answer supplier).1, by decide⟩

/-- The intake returns its run with a draft to be reviewed. -/
theorem stocked_intake_fails_closed : stockedIntake.firstFailure = none ∧
    stockedIntake.FailsClosed 0 7 World.initial := by
  obtain ⟨inventory, demand, supplier⟩ := stocked_answers
  have ids : ∀ item ∈ stockedBundle, storableText item.evidenceId = true := by
    simp only [stockedBundle, List.forall_mem_cons, List.not_mem_nil, false_implies, implies_true,
      and_true]
    exact ⟨storableText_expectedEvidenceId _ _ _, storableText_expectedEvidenceId _ _ _,
      storableText_expectedEvidenceId _ _ _⟩
  obtain ⟨outcome, returned, cites, stored⟩ :=
    deterministicStub_returns stockedProvenance exactModels.toEvidenceCodec (by decide) ids
  have adapter : stockedIntake.adapter stockedBundle = .returns outcome := returned
  refine ⟨?_, (intake_fails_closed_iff stockedIntake 0 7 World.initial resting_initial
    ⟨rfl, rfl, fun _ => rfl⟩).mpr ⟨by decide, by decide, "reviewer", rfl,
      ⟨by decide, by decide⟩, by decide, ?_⟩⟩
  · exact IntakeSetting.firstFailure_eq_none inventory demand supplier stockedBundle_valid adapter
      cites
  · intro first stocked
    obtain rfl := Except.ok.inj (stocked.symm.trans inventory)
    refine ⟨by decide, fun second sold => ?_⟩
    obtain rfl := Except.ok.inj (sold.symm.trans demand)
    refine ⟨by decide, fun third ordered => ?_⟩
    obtain rfl := Except.ok.inj (ordered.symm.trans supplier)
    exact fun _ => IntakeSetting.reasoningFits_of_returns adapter stored

/-- The demand evidence does not validate, and no stage catches that. -/
theorem unsignalled_intake_leaves_run :
    World.initial.Resting ∧ IntakeSetting.Fresh unsignalledIntake 7 World.initial.view.db ∧
      ¬ unsignalledIntake.FailsClosed 0 7 World.initial := by
  have fresh : IntakeSetting.Fresh unsignalledIntake 7 World.initial.view.db :=
    ⟨rfl, rfl, fun _ => rfl⟩
  refine ⟨resting_initial, fresh, fun closed => ?_⟩
  obtain ⟨-, -, reviewer, -, -, -, later⟩ := IntakeSetting.fits_of_failsClosed resting_initial fresh
    closed
  let item := unsignalledIntake.tools.item unsignalledIntake.query
    (.inventory "SKU-1" "STORE-1" (.finite 5) (.finite 0) (.finite 0) ⟨86400 * second, true⟩)
    ⟨86400 * second, true⟩
  have accepted : exactModels.accepts item = true := by decide +kernel
  have loaded : Timestamptz.load (.at (86400 * second)) = .ok ⟨86400 * second, true⟩ := by decide
  have found : unsignalledIntake.answer .inventory = .ok item := by
    simp only [IntakeSetting.answer, EvidenceTools.answer, EvidenceTools.inventory,
      unsignalledIntake, unsignalledFixtures, loaded, bind, Except.bind]
    exact exactModels.construct_of_accepts accepted
  have demand := (later item found).1
  revert demand
  decide

end StockoutOps.Investigation
