import StockoutOps.Investigation.ServiceCalls

/-!
Contract: what a review does, whatever the other callers do.

Owns: the transaction of a call in the log with the tables before it, when a
decision is allowed there, how an edit is validated and a review ends, and that a
refused one leaves only the event of its refusal.

Does not own: the pools of callers.
-/

namespace StockoutOps.Investigation

open StockoutOps.Sql StockoutOps.Foundation.Interleaving

/-! ## Places in the log -/

/-- `t` has committed these writes after the transactions of `before`. -/
def LoggedAt (t : Tid) (before : List (Tid × List Write)) (writes : List Write) (view : View) :
    Prop :=
  ∃ after, view.commitLog = before ++ (t, writes) :: after

theorem loggedAt_commit {t : Tid} {view : View} {writes : List Write} (some_ : writes ≠ []) :
    LoggedAt t view.commitLog writes (view.commit t writes) :=
  ⟨[], by simp [View.commit, some_]⟩

/-- The call has committed nothing but events of refusals. -/
def Spared (t : Tid) (view : View) : Prop :=
  ∀ writes ∈ view.commitsOf t, ∀ write ∈ writes, ∃ event, write = .insertEvent event ∧
    event.genuine = false

theorem Spared.later {t : Tid} {view last : View} (spared : Spared t view)
    (later : view.Later t last) : Spared t last := by
  intro writes member
  rw [later.commits] at member
  exact spared writes member

theorem Spared.commit {t : Tid} {view : View} {event : EventRow} (spared : Spared t view)
    (still : event.genuine = false) : Spared t (view.commit t [.insertEvent event]) := by
  intro writes member
  rw [View.commitsOf_commit] at member
  simp only [List.isEmpty_cons, Bool.false_eq_true, if_false, List.mem_append,
    List.mem_singleton] at member
  rcases member with old | rfl
  · exact spared writes old
  · intro write new
    obtain rfl := List.mem_singleton.mp new
    exact ⟨event, rfl, still⟩

theorem View.Logged.run? {view : View} (logged : view.Logged) (tenantId : String)
    (runId : RunId) :
    (replay view.commitLog).run? tenantId runId = view.db.run? tenantId runId := by
  rw [Db.run?, logged.runs, ← Db.run?]

theorem View.Logged.alreadyDecided {view : View} (logged : view.Logged) (call : ReviewCall) :
    call.alreadyDecided (replay view.commitLog) = call.alreadyDecided view.db := by
  rw [ReviewCall.alreadyDecided, Db.decisionsOf, logged.decisions, ← Db.decisionsOf,
    ← ReviewCall.alreadyDecided]

/-- A request to reject or to escalate gives a reason. -/
theorem ReviewRequest.reason_of_negative (request : ReviewRequest)
    (negative : request.action = .reject ∨ request.action = .escalate) :
    ∃ reason, request.reason = some reason ∧ reason ≠ "" := by
  have fields := request.actionFields
  have plain : request.action ≠ .editApprove := by rcases negative with same | same <;> simp [same]
  unfold validateActionFields at fields
  cases given : request.reason with
  | none =>
      by_cases payload : request.editedPayload.isSome = true <;>
        simp [negative, plain, given, payload, throw, throwThe, MonadExceptOf.throw, bind,
          Except.bind] at fields
  | some reason =>
      refine ⟨reason, rfl, fun empty => ?_⟩
      by_cases payload : request.editedPayload.isSome = true <;>
        simp [negative, plain, given, empty, payload, throw, throwThe, MonadExceptOf.throw, bind,
          Except.bind] at fields

/-! ## When a decision is allowed -/

/-- What `record_review` asks of the run and of the tables. -/
structure ReviewCall.Allowed (call : ReviewCall) (run : RunRow) (decided : Bool) : Prop where
  human : run.runMode = .humanReview
  undecided : decided = false
  awaits : run.state = .awaitingHuman
  reviewer : call.principal.actorId = run.assignedReviewerId
  draft : run.draftHash = some call.submittedDraftHash
  inTime : ∃ expires, run.reviewExpiresAt = some expires ∧ call.now ≤ expires

theorem ReviewCall.refusal_eq_none {call : ReviewCall} {run : RunRow} {decided : Bool} :
    call.refusal run decided = none ↔ call.Allowed run decided := by
  constructor
  · intro accepted
    unfold ReviewCall.refusal at accepted
    split at accepted
    · simp at accepted
    rename_i human
    split at accepted
    · simp at accepted
    rename_i open_
    split at accepted
    · simp at accepted
    rename_i reviewer
    split at accepted
    · simp at accepted
    rename_i draft
    split at accepted
    · simp at accepted
    rename_i inTime
    simp only [not_or, not_not, Bool.not_eq_true] at open_ reviewer draft inTime
    refine ⟨?_, open_.1, open_.2, reviewer, draft.symm, ?_⟩
    · cases mode : run.runMode with
      | humanReview => rfl
      | shadow => exact absurd mode human
    · cases window : run.reviewExpiresAt with
      | none => simp [window] at inTime
      | some expires => exact ⟨expires, rfl, by simpa [window] using inTime⟩
  · rintro ⟨human, undecided, awaits, reviewer, draft, expires, window, inTime⟩
    simp [ReviewCall.refusal, human, undecided, awaits, reviewer, draft, window, inTime]

namespace ServiceSetup

open Protocol

section Reviews

variable {setup : ServiceSetup} {t : Tid} {view last : View} {ρ α : Type} {principal : Principal}
  {run next : RunRow} {runId : RunId} {call : ReviewCall}

theorem steady_loggedAt (t : Tid) (before : List (Tid × List Write)) (writes : List Write) :
    Steady (LoggedAt t before writes) := by
  intro first second moves logged
  obtain ⟨after, same⟩ := logged
  obtain ⟨added, longer⟩ := moves.commitLog
  exact ⟨after ++ added, by rw [longer, same, List.append_assoc, List.cons_append]⟩

/-- Between its steps a review holds nothing and has changed nothing. -/
structure Bare (t : Tid) (view : View) : Prop where
  unclaimed : View.Unclaimed view t
  spared : Spared t view

theorem Bare.later (bare : Bare t view) (relied : setup.protocol.Later t view last) :
    Bare t last :=
  ⟨bare.unclaimed.later relied.view, bare.spared.later relied.view⟩

theorem Bare.commit {event : EventRow} (bare : Bare t view) (still : event.genuine = false) :
    Bare t (view.commit t [.insertEvent event]) :=
  ⟨unclaimed_commit bare.unclaimed, bare.spared.commit still⟩

/-! ## The decision -/

/-- The result is grounded in whatever run of the tenant has this identifier. -/
def CitesIn (setup : ServiceSetup) (tenantId : String) (runId : RunId) (result : ReasoningResult)
    (view : View) : Prop :=
  ∀ run : RunRow, run.tenantId = tenantId → run.runId = runId →
    view.db.Cites setup.service run result

theorem steady_citesIn (setup : ServiceSetup) (tenantId : String) (runId : RunId)
    (result : ReasoningResult) : Steady (CitesIn setup tenantId runId result) :=
  fun _ _ moves cites run tenant ofRun => (cites run tenant ofRun).moves moves.db (.refl run)

/-- The arguments that `review` hands to `record_review`. -/
structure Sound (setup : ServiceSetup) (call : ReviewCall) (view : View) : Prop where
  key : lengthBetween 1 200 call.idempotencyKey = true
  edits : call.editedPayload.isSome = true ↔ call.action = .editApprove
  hashed : call.editedPayload.isSome = call.editedPayloadHash.isSome
  edited : ∀ payload, call.editedPayload = some payload → ∃ result : ReasoningResult,
    payload = result.modelDump ∧
      call.editedPayloadHash = some (setup.service.provenance.canonicalHash payload) ∧
      CitesIn setup call.principal.tenantId call.runId result view
  reasoned : call.action = .reject ∨ call.action = .escalate →
    ∃ reason, call.reason = some reason ∧ reason ≠ ""

theorem steady_sound (setup : ServiceSetup) (call : ReviewCall) : Steady (Sound setup call) := by
  intro before after moves sound
  refine ⟨sound.key, sound.edits, sound.hashed, fun payload given => ?_, sound.reasoned⟩
  obtain ⟨result, dumped, hash, cites⟩ := sound.edited payload given
  exact ⟨result, dumped, hash, steady_citesIn _ _ _ _ _ _ moves cites⟩

/-- The review has been decided: at its place in the log it was allowed. -/
def Decided (t : Tid) (call : ReviewCall) (run : RunRow) (view : View) : Prop :=
  ∃ before found decidedId closedId,
    LoggedAt t before (call.decided found decidedId closedId) view ∧
    (replay before).run? call.principal.tenantId call.runId = some found ∧
    call.Allowed found (call.alreadyDecided (replay before)) ∧ run = call.closedRun found

/-- The review has been refused: at its place in the log the first guard that
failed is the one it names. -/
def Refused (t : Tid) (call : ReviewCall) (error : Failure) (view : View) : Prop :=
  ∃ before found code eventId,
    LoggedAt t before (call.rejected found code eventId) view ∧
    (replay before).run? call.principal.tenantId call.runId = some found ∧
    call.refusal found (call.alreadyDecided (replay before)) = some (code, error)

/-- There was no such run of the tenant. -/
def Missing (tenantId : String) (runId : RunId) (view : View) : Prop :=
  ∃ before after, view.commitLog = before ++ after ∧ (replay before).run? tenantId runId = none

theorem steady_decided (t : Tid) (call : ReviewCall) (run : RunRow) :
    Steady (Decided t call run) := by
  intro first second moves decided
  obtain ⟨before, found, decidedId, closedId, logged, rest⟩ := decided
  exact ⟨before, found, decidedId, closedId, steady_loggedAt _ _ _ _ _ moves logged, rest⟩

theorem steady_refused (t : Tid) (call : ReviewCall) (error : Failure) :
    Steady (Refused t call error) := by
  intro first second moves refused
  obtain ⟨before, found, code, eventId, logged, rest⟩ := refused
  exact ⟨before, found, code, eventId, steady_loggedAt _ _ _ _ _ moves logged, rest⟩

theorem steady_missing (tenantId : String) (runId : RunId) :
    Steady (Missing tenantId runId) := by
  intro first second moves missing
  obtain ⟨before, after, same, none_⟩ := missing
  obtain ⟨added, longer⟩ := moves.commitLog
  exact ⟨before, after ++ added, by rw [longer, same, List.append_assoc], none_⟩

theorem missing_of_none (inv : ServiceInv setup view) {tenantId : String}
    (none_ : view.db.run? tenantId runId = none) : Missing tenantId runId view :=
  ⟨view.commitLog, [], by simp, by rw [inv.logged.run?, none_]⟩

/-- How `record_review` ends. -/
def Recorded (t : Tid) (call : ReviewCall) : Except Failure RunRow → View → Prop
  | .ok run, last => View.Unclaimed last t ∧ Decided t call run last
  | .error error, last => Bare t last ∧ (Refused t call error last ∨
      (error = .stockoutOps .notFoundError ∧ Missing call.principal.tenantId call.runId last))

theorem stays_recorded {result : Except Failure RunRow} (recorded : Recorded t call result view) :
    setup.protocol.Stays t (Recorded t call) result view := by
  intro later relied _
  cases result with
  | ok run =>
      exact ⟨recorded.1.later relied.view, (steady_decided t call run).later relied recorded.2⟩
  | error error =>
      refine ⟨recorded.1.later relied, ?_⟩
      rcases recorded.2 with refused | ⟨same, missing⟩
      · exact .inl ((steady_refused t call error).later relied refused)
      · exact .inr ⟨same, (steady_missing _ _).later relied missing⟩

/-- An allowed decision means what a decision means. -/
theorem means_of_allowed {decided : Bool} (inv : ServiceInv setup view)
    (sound : Sound setup call view)
    (stored : view.db.run? call.principal.tenantId call.runId = some run)
    (ofRun : run.runId = call.runId) (allowed : call.Allowed run decided) :
    (call.decisionRow run).Means setup.service view.db (call.closedRun run) := by
  obtain ⟨there, tenant⟩ := Db.run?_eq_some.mp stored
  obtain ⟨draft, drafted⟩ := Option.isSome_iff_exists.mp
    ((inv.means.runs _ _ there).awaiting allowed.awaits)
  exact
    { tenant := tenant
      human := allowed.human
      reviewer := allowed.reviewer
      closed := rfl
      draft := by
        show run.draftJson = some (run.draftJson.getD .null)
        simp [drafted]
      draftHash := rfl
      inTime := allowed.inTime
      edits := sound.edits
      edited := fun payload given => by
        obtain ⟨result, dumped, hash, cites⟩ := sound.edited payload given
        exact ⟨result, dumped, hash, cites (call.closedRun run) tenant ofRun⟩
      reasoned := sound.reasoned }

/-- The columns of a decision that `review` asks for pass their CHECKs. -/
theorem checks_of_allowed {decided : Bool} (inv : ServiceInv setup view)
    (sound : Sound setup call view)
    (stored : view.db.run? call.principal.tenantId call.runId = some run)
    (allowed : call.Allowed run decided) :
    checkAll (call.decisionRow run).checks = .ok () := by
  obtain ⟨there, tenant⟩ := Db.run?_eq_some.mp stored
  have means := inv.means.runs _ _ there
  obtain ⟨result, drafted⟩ := means.drafted (means.awaiting allowed.awaits)
  have hex : nullOr isHex64 call.editedPayloadHash = true := by
    cases given : call.editedPayload with
    | none =>
        have none_ := sound.hashed
        rw [given, Option.isSome_none, eq_comm, Option.isSome_eq_false_iff,
          Option.isNone_iff_eq_none] at none_
        simp [none_, nullOr]
    | some payload =>
        obtain ⟨result, -, hash, -⟩ := sound.edited payload given
        simp [hash, nullOr, Provenance.canonicalHash_hex]
  have draftHex : nullOr isHex64 run.draftHash = true := by
    simp [drafted.draftHash, nullOr, Provenance.canonicalHash_hex]
  have present : run.draftHash.isSome = true := by rw [drafted.draftHash]; rfl
  simp [DecisionRow.checks, ReviewCall.decisionRow, checkAll, sound.key, draftHex, present, hex]

/-- A run that awaits a human has no decision. -/
theorem undecided_of_awaiting (inv : ServiceInv setup view)
    (stored : view.db.runs runId = some run) (awaits : run.state = .awaitingHuman) :
    view.db.decisionsOf runId = [] := by
  refine List.filter_eq_nil_iff.mpr fun decision member ofRun => ?_
  obtain ⟨other, there, means⟩ := inv.means.decisions decision member
  rw [show decision.runId = runId by simpa using ofRun] at there
  obtain rfl : other = run := Option.some.inj (there.symm.trans stored)
  have closed := means.closed
  simp [awaits] at closed

theorem serves_recordReview (sound : Sound setup call view) (bare : Bare t view) :
    setup.protocol.Serves t (recordReview call) (Recorded t call) view := by
  refine Protocol.serves_recordReview ?_ fun _ => bare.unclaimed
  refine
    { absent := fun later relied holds absent => stays_recorded ?_
      refused := fun later relied holds run code error found refused eventId => ?_
      decided := fun later relied holds run found accepted undecided _ decidedId closedId above
        order => ?_
      invalid := fun later relied holds run found accepted refused error => ?_ }
  · exact ⟨bare.later relied, .inr ⟨rfl, missing_of_none holds.inv absent⟩⟩
  · have guarantee : setup.protocol.Guarantee t later
        (later.commit t (call.rejected run code eventId)) := guarantee_event holds.inv (by simp)
    refine ⟨guarantee, stays_recorded ?_⟩
    refine ⟨(bare.later relied).commit (by simp), .inl ?_⟩
    refine ⟨later.commitLog, run, code, eventId, loggedAt_commit (by simp [ReviewCall.rejected]),
      ?_, ?_⟩
    · rw [holds.inv.logged.run?, found]
    · rw [holds.inv.logged.alreadyDecided, refused]
  · have allowed := ReviewCall.refusal_eq_none.mp accepted
    have soundLater := (steady_sound setup call).later relied sound
    obtain ⟨there, tenant⟩ := Db.run?_eq_some.mp found
    have ofRun := holds.keyed.runs _ _ there
    have stored : later.db.runs run.runId = some run := ofRun ▸ there
    have checked := holds.keyed.checked _ _ there
    have guarantee : setup.protocol.Guarantee t later
        (later.commit t (call.decided run decidedId closedId)) :=
      guarantee_commit holds.inv (Db.movesOn_decided stored allowed.awaits checked)
        (holds.inv.means.decided stored allowed.awaits checked (ofRun ▸ undecided)
          (means_of_allowed holds.inv soundLater found ofRun allowed))
        (holds.inv.audited.decided stored tenant allowed.awaits (ofRun ▸ above) order)
    refine ⟨guarantee, stays_recorded ?_⟩
    refine ⟨unclaimed_commit (bare.later relied).unclaimed, ?_⟩
    refine ⟨later.commitLog, run, decidedId, closedId,
      loggedAt_commit (by simp [ReviewCall.decided]),
      ?_, ?_, rfl⟩
    · rw [holds.inv.logged.run?, found]
    · rw [holds.inv.logged.alreadyDecided]
      exact allowed
  · exfalso
    have allowed := ReviewCall.refusal_eq_none.mp accepted
    have soundLater := (steady_sound setup call).later relied sound
    obtain ⟨there, -⟩ := Db.run?_eq_some.mp found
    rcases refused with ⟨error, unchecked⟩ | decided
    · simp [checks_of_allowed holds.inv soundLater found allowed] at unchecked
    · exact decided (undecided_of_awaiting holds.inv there allowed.awaits)

/-! ## The edit -/

/-- What a request asks to be recorded as its edit. -/
def EditOf (service : InvestigationService) (request : ReviewRequest) :
    Option (Json × String) → Prop
  | none => request.editedPayload = none
  | some edit => ∃ payload result, request.editedPayload = some payload ∧
      InvestigationService.validateResult (some payload) = .ok result ∧
      edit = (result.modelDump, service.provenance.canonicalHash result.modelDump)

/-- The payload fails its schema, or its citations were refused among the evidence that
the run had when they were checked. -/
def Unfit (setup : ServiceSetup) (tenantId : String) (runId : RunId) (payload : Json)
    (view : View) : Prop :=
  (∃ error, InvestigationService.validateResult (some payload) = .error error) ∨
    ∃ edited earlier, InvestigationService.validateResult (some payload) = .ok edited ∧
      setup.protocol.Holds earlier ∧ earlier.MovesOn view ∧
      ∃ error, (setup.service.codec.parseAll (earlier.db.evidencePayloads tenantId runId) >>=
        fun evidence => validateCitations edited (evidence.map Evidence.evidenceId)) = .error error

theorem steady_unfit (tenantId : String) (runId : RunId) (payload : Json) :
    Steady (Unfit setup tenantId runId payload) := by
  rintro before after moves (invalid | ⟨edited, earlier, valid, holds, movesOn, refused⟩)
  · exact .inl invalid
  · exact .inr ⟨edited, earlier, valid, holds, movesOn.trans moves, refused⟩

/-- How the validation of an edited payload ends. -/
def Validated (setup : ServiceSetup) (t : Tid) (principal : Principal) (runId : RunId)
    (payload : Json) : Except Failure ReasoningResult → View → Prop
  | .ok edited, last => Bare t last ∧
      InvestigationService.validateResult (some payload) = .ok edited ∧
      CitesIn setup principal.tenantId runId edited last
  | .error exception, last => Bare t last ∧ (∃ message, exception = .valueError message) ∧
      Unfit setup principal.tenantId runId payload last

theorem valueError_of_validateResult {payload : Option Json} {exception : Failure}
    (refused : InvestigationService.validateResult payload = .error exception) :
    ∃ message, exception = .valueError message := by
  unfold InvestigationService.validateResult at refused
  split at refused
  · cases refused
  · exact ⟨_, (Except.error.inj refused).symm⟩

theorem serves_validateEdit {payload : Json} (bare : Bare t view) :
    setup.protocol.Serves t (setup.service.validateEdit principal runId payload)
      (Validated setup t principal runId payload) view := by
  have failing : ∀ {last : View} {exception : Failure}, Bare t last →
      (∃ message, exception = .valueError message) →
      Unfit setup principal.tenantId runId payload last →
      setup.protocol.Stays t (Validated setup t principal runId payload) (.error exception) last :=
    fun bare value unfit _ relied _ =>
      ⟨bare.later relied, value, (steady_unfit _ _ _).later relied unfit⟩
  refine serves_bind (serves_lift fun first reliedFirst _ => ?_)
  have bare := bare.later reliedFirst
  cases validated : InvestigationService.validateResult (some payload) with
  | error exception =>
      exact goes_error (failing bare (valueError_of_validateResult validated) (.inl ⟨_, validated⟩))
  | ok edited =>
      refine goes_ok (serves_bind ?_)
      refine serves_select (fun db => db.evidencePayloads principal.tenantId runId)
        (fun _ _ _ => rfl) fun later relied holds => serves_lift fun last reliedLast _ => ?_
      have bare := (bare.later relied).later reliedLast
      cases parsed : setup.service.codec.parseAll
          (later.db.evidencePayloads principal.tenantId runId) with
      | error exception =>
          refine goes_error (failing bare (valueError_of_parseAll parsed) (.inr ⟨edited, later,
            validated, holds, reliedLast.rely.moves, exception, ?_⟩))
          rw [parsed]
          rfl
      | ok evidence =>
          refine goes_ok (serves_bind (serves_lift fun next reliedNext _ => ?_))
          have bare := bare.later reliedNext
          cases accepted : validateCitations edited (evidence.map Evidence.evidenceId) with
          | error exception =>
              refine goes_error (failing bare (valueError_of_validateCitations accepted) (.inr
                ⟨edited, later, validated, holds,
                  reliedLast.rely.moves.trans reliedNext.rely.moves, exception, ?_⟩))
              rw [parsed]
              exact accepted
          | ok done =>
              have cites : CitesIn setup principal.tenantId runId edited later := by
                intro run tenant ofRun
                rw [← tenant, ← ofRun] at parsed
                exact Db.cites_of_listed parsed accepted
              have steady := steady_citesIn setup principal.tenantId runId edited
              have cites := steady.later reliedNext (steady.later reliedLast cites)
              exact goes_ok (serves_pure fun final reliedFinal _ =>
                ⟨bare.later reliedFinal, validated, steady.later reliedFinal cites⟩)

/-- The answer to an edit that does not validate. -/
def invalidEdit : Failure :=
  .stockoutOps (.validationError "INVALID_EDITED_PAYLOAD"
    "Edited payload failed strict schema or citation validation")

/-- How the edit of a request ends. -/
def Edited (setup : ServiceSetup) (t : Tid) (principal : Principal) (runId : RunId)
    (request : ReviewRequest) : Except Failure (Option (Json × String)) → View → Prop
  | .ok edit, last => Bare t last ∧ EditOf setup.service request edit ∧
      ∀ payload hash, edit = some (payload, hash) → ∃ result : ReasoningResult,
        payload = result.modelDump ∧ hash = setup.service.provenance.canonicalHash payload ∧
        CitesIn setup principal.tenantId runId result last
  | .error error, last => Bare t last ∧
      ((error = invalidEdit ∧ ∃ payload, request.editedPayload = some payload ∧
        Unfit setup principal.tenantId runId payload last) ∨
      (error = .stockoutOps .notFoundError ∧ Missing principal.tenantId runId last))

theorem serves_editedPayload {request : ReviewRequest} (bare : Bare t view) :
    setup.protocol.Serves t (setup.service.editedPayload principal runId request)
      (Edited setup t principal runId request) view := by
  unfold InvestigationService.editedPayload
  cases given : request.editedPayload with
  | none => exact serves_pure fun last relied _ => ⟨bare.later relied, given, by simp⟩
  | some payload =>
      refine serves_attempt (serves_mono (fun result last _ validated => ?_)
        (serves_validateEdit bare))
      cases result with
      | ok edited =>
          obtain ⟨bare, valid, cites⟩ := validated
          refine serves_pure fun final relied _ =>
            ⟨bare.later relied, ⟨payload, edited, given, valid, rfl⟩, fun dump hash same => ?_⟩
          obtain ⟨rfl, rfl⟩ := Prod.mk.inj (Option.some.inj same)
          exact ⟨edited, rfl, rfl,
            (steady_citesIn setup principal.tenantId runId edited).later relied cites⟩
      | error exception =>
          obtain ⟨bare, ⟨message, rfl⟩, unfit⟩ := validated
          have steady : Steady (Unfit setup principal.tenantId runId payload) :=
            steady_unfit _ _ _
          refine serves_now (fun later relied =>
            (⟨bare.later relied, steady.later relied unfit⟩ :
              Bare t later ∧ Unfit setup principal.tenantId runId payload later))
            fun now later _ both => ?_
          obtain ⟨bare, unfit⟩ := both
          refine serves_rejected (fun last relied holds absent final reliedFinal _ =>
            ⟨(bare.later relied).later reliedFinal, .inr ⟨rfl, ?_⟩⟩)
            fun last relied _ run eventId guarantee final reliedFinal _ =>
              ⟨?_, .inl ⟨rfl, payload, given, ?_⟩⟩
          · exact (steady_missing _ _).later reliedFinal (missing_of_none holds.inv absent)
          · exact ((bare.later relied).commit (by simp)).later reliedFinal
          · exact steady.later reliedFinal (steady.guaranteed guarantee (steady.later relied unfit))

/-! ## The review -/

/-- The call of `record_review` that `review` makes. -/
def reviewCall (principal : Principal) (runId : RunId) (request : ReviewRequest)
    (idempotencyKey : String) (edited : Option (Json × String)) (now : Timestamp) : ReviewCall where
  principal := principal
  runId := runId
  idempotencyKey := idempotencyKey
  action := request.action
  submittedDraftHash := request.draftHash
  editedPayload := edited.map Prod.fst
  editedPayloadHash := edited.map Prod.snd
  reason := request.reason
  now := now

/-- What a review is answered before `record_review` is called. -/
inductive Unheard (setup : ServiceSetup) (principal : Principal) (runId : RunId)
    (request : ReviewRequest) (idempotencyKey : String) (view : View) : Failure → Prop where
  | role (other : principal.hasRole "reviewer" = false) :
      Unheard setup principal runId request idempotencyKey view
        (.stockoutOps (.authorizationError "Reviewer role is required"))
  | key {error : Failure} (reviewer : principal.hasRole "reviewer" = true)
      (invalid : requireIdempotencyKey idempotencyKey = .error error) :
      Unheard setup principal runId request idempotencyKey view error
  | edit {payload : Json} (reviewer : principal.hasRole "reviewer" = true)
      (given : request.editedPayload = some payload)
      (unfit : Unfit setup principal.tenantId runId payload view) :
      Unheard setup principal runId request idempotencyKey view invalidEdit

/-- How a review ends. -/
def Reviewed (setup : ServiceSetup) (t : Tid) (principal : Principal) (runId : RunId)
    (request : ReviewRequest) (idempotencyKey : String) : Except Failure RunRow → View → Prop
  | .ok run, last => principal.hasRole "reviewer" = true ∧ View.Unclaimed last t ∧
      ∃ edited now, EditOf setup.service request edited ∧
        Decided t (reviewCall principal runId request idempotencyKey edited now) run last
  | .error error, last => Bare t last ∧
      (Unheard setup principal runId request idempotencyKey last error ∨
      (∃ edited now, EditOf setup.service request edited ∧
        Refused t (reviewCall principal runId request idempotencyKey edited now) error last) ∨
      (error = .stockoutOps .notFoundError ∧ Missing principal.tenantId runId last))

theorem sound_reviewCall {request : ReviewRequest} {idempotencyKey : String}
    {edited : Option (Json × String)} {now : Timestamp}
    (key : requireIdempotencyKey idempotencyKey = .ok ())
    (asked : EditOf setup.service request edited)
    (cited : ∀ payload hash, edited = some (payload, hash) → ∃ result : ReasoningResult,
      payload = result.modelDump ∧ hash = setup.service.provenance.canonicalHash payload ∧
      CitesIn setup principal.tenantId runId result view) :
    Sound setup (reviewCall principal runId request idempotencyKey edited now) view where
  key := by
    unfold requireIdempotencyKey at key
    split at key
    · assumption
    · cases key
  edits := by
    rw [show (reviewCall principal runId request idempotencyKey edited now).action =
      request.action from rfl, ← request.editedPayload_isSome]
    cases edited with
    | none => simp [reviewCall, show request.editedPayload = none from asked]
    | some edit =>
        obtain ⟨payload, result, given, -⟩ := asked
        simp [reviewCall, given]
  hashed := by cases edited <;> rfl
  edited := by
    intro payload given
    obtain ⟨edit, rfl, rfl⟩ := Option.map_eq_some_iff.mp given
    obtain ⟨result, dumped, hash, cites⟩ := cited edit.1 edit.2 rfl
    exact ⟨result, dumped, congrArg some hash, cites⟩
  reasoned := request.reason_of_negative

theorem serves_review {request : ReviewRequest} {idempotencyKey : String} (bare : Bare t view) :
    setup.protocol.Serves t (setup.service.review principal runId request idempotencyKey)
      (Reviewed setup t principal runId request idempotencyKey) view := by
  unfold InvestigationService.review
  split
  case isTrue other =>
    have refusing : ∀ {last : View}, Bare t last →
        setup.protocol.Stays t (Reviewed setup t principal runId request idempotencyKey)
          (.error (.stockoutOps (.authorizationError "Reviewer role is required"))) last :=
      fun bare _ relied _ => ⟨bare.later relied, .inl (.role (by simpa using other))⟩
    refine serves_now (fun later relied => bare.later relied) fun now later _ bare => ?_
    refine serves_attempt (serves_appendRejectedControl
      (fun last relied _ _ final reliedFinal _ => ?_)
      fun last relied _ run _ middle reliedMiddle holds eventId =>
        ⟨?_, fun final reliedFinal _ => ?_⟩)
    · exact serves_raise (refusing ((bare.later relied).later reliedFinal))
    · exact guarantee_event holds.inv (by simp)
    · refine serves_raise (refusing (Bare.later (Bare.commit ?_ (by simp)) reliedFinal))
      exact (bare.later relied).later reliedMiddle
  case isFalse reviewer =>
    have reviewer : principal.hasRole "reviewer" = true := by simpa using reviewer
    refine serves_bind (serves_lift fun first reliedFirst _ => ?_)
    have bare := bare.later reliedFirst
    cases key : requireIdempotencyKey idempotencyKey with
    | error exception =>
        exact goes_error fun later relied _ =>
          ⟨bare.later relied, .inl (.key reviewer key)⟩
    | ok done =>
        refine goes_ok (serves_bind (serves_mono (fun result last _ post => ?_)
          (serves_editedPayload bare)))
        cases result with
        | error exception =>
            obtain ⟨bare, ⟨rfl, payload, given, unfit⟩ | ⟨same, missing⟩⟩ := post
            · exact goes_error fun later relied _ => ⟨bare.later relied,
                .inl (.edit reviewer given ((steady_unfit _ _ _).later relied unfit))⟩
            · exact goes_error fun later relied _ => ⟨bare.later relied,
                .inr (.inr ⟨same, (steady_missing _ _).later relied missing⟩)⟩
        | ok edited =>
            obtain ⟨bare, asked, cited⟩ := post
            have sound : ∀ now, Sound setup
                (reviewCall principal runId request idempotencyKey edited now) last :=
              fun now => sound_reviewCall key asked cited
            refine goes_ok (serves_now
              (fun later relied => (⟨bare.later relied,
                fun now => (steady_sound _ _).later relied (sound now)⟩ :
                Bare t later ∧ ∀ now, Sound setup
                  (reviewCall principal runId request idempotencyKey edited now) later))
              fun now later _ both => ?_)
            refine serves_mono (fun result last _ recorded => ?_)
              (serves_recordReview (both.2 now) both.1)
            cases result with
            | ok run => exact ⟨reviewer, recorded.1, edited, now, asked, recorded.2⟩
            | error error =>
                exact ⟨recorded.1, .inr (recorded.2.imp_left fun refused =>
                  ⟨edited, now, asked, refused⟩)⟩

end Reviews

end ServiceSetup

end StockoutOps.Investigation
