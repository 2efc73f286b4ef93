import StockoutOps.Foundation.Quiescence
import StockoutOps.Investigation.FailsClosed
import StockoutOps.Shadow.Clients
import StockoutOps.Shadow.TerminalResults

/-!
Contract: the audit events of shadow runs and of imported cases, once no call
is in progress.

Owns: what the tables owe their rows, that they have it wherever no caller has
crashed between a row and its first event, and an import that crashes there and
is repeated.

Does not own: what the events say of the investigation a run refers to.
-/

namespace StockoutOps.Shadow

open StockoutOps.Investigation StockoutOps.Sql StockoutOps.Foundation.Interleaving
open StockoutOps.Foundation.Announcement

/-! ## What the tables owe their rows -/

def ShadowDiffRow.entry (row : ShadowDiffRow) : ShadowDiffEntry where
  fieldName := row.fieldName
  agreement := row.agreement
  expected := row.expectedJson
  actual := row.actualJson
  category := row.category

namespace ShadowView

variable (view : ShadowView)

/-- The `shadow_control_event` rows of a run. -/
def eventsOf (shadowRunId : ShadowRunId) (eventType : String) : List ShadowEventRow :=
  view.events.filter (fun event =>
    event.shadowRunId == shadowRunId && event.eventType == eventType)

/-- The `shadow_case_intake_event` rows of an intake. -/
def intakeEventsOf (intakeId : IntakeId) (eventType : String) : List IntakeEventRow :=
  view.intakeEvents.filter (fun event =>
    event.intakeId == intakeId && event.eventType == eventType)

/-- One event carries the hashes of a terminal row, and the entries of its
comparison have one diff row each. -/
structure CompletionAudited (models : ShadowModels) (row : ShadowRunRow) (event : ShadowEventRow)
    (comparison : ShadowComparison) : Prop where
  sole : view.eventsOf row.shadowRunId "shadow_run_completed" = [event]
  tenant : event.tenantId = row.tenantId
  outputHash : event.payload.member? "output_hash" = row.outputHash.map Json.str
  diffHash : event.payload.member? "diff_hash" = row.diffHash.map Json.str
  dumped : row.diffJson = some (models.dumpComparison comparison)
  diffs : (view.diffsOf row.shadowRunId).map ShadowDiffRow.entry = comparison.entries

/-- Every row has its audit events. -/
structure Audited (models : ShadowModels) : Prop where
  started : ∀ row ∈ view.runs,
    (view.eventsOf row.shadowRunId "shadow_run_started").length = 1
  completed : ∀ row ∈ view.runs, row.status ≠ .started →
    ∃ event comparison, view.CompletionAudited models row event comparison
  imported : ∀ row ∈ view.intakes,
    (view.intakeEventsOf row.intakeId "shadow_intake_imported").length = 1

variable {view : ShadowView} {models : ShadowModels}

theorem length_eventsOf_started (shadowRunId : ShadowRunId) :
    (view.eventsOf shadowRunId "shadow_run_started").length =
      view.startedRuns.count shadowRunId := by
  rw [startedRuns, List.count, List.countP_map, List.countP_filter, eventsOf,
    ← List.countP_eq_length_filter]
  rfl

theorem length_intakeEventsOf_imported (intakeId : IntakeId) :
    (view.intakeEventsOf intakeId "shadow_intake_imported").length =
      view.importedIntakes.count intakeId := by
  rw [importedIntakes, List.count, List.countP_map, List.countP_filter, intakeEventsOf,
    ← List.countP_eq_length_filter]
  rfl

/-- What a completion has left behind is what its row is owed. -/
theorem Recorded.audited {row : ShadowRunRow} {call : CompleteCall}
    (recorded : view.Recorded models row call) :
    view.CompletionAudited models row call.completedEvent call.comparison where
  sole := recorded.event
  tenant := recorded.tenant
  outputHash := by
    rw [recorded.outcome]
    rfl
  diffHash := by
    rw [recorded.outcome]
    rfl
  dumped := by
    rw [recorded.outcome]
    rfl
  diffs := by
    rw [recorded.diffs, List.map_map]
    exact List.map_id _

/-- Where nobody owes an event, every row has its own. -/
theorem Inv.audited {exclusive : Prop} {lockKey : String → Int}
    {Origin : ShadowRunControl → Prop} (inv : view.Inv exclusive lockKey models Origin)
    (settled : ∀ t, view.unrecorded t = none) : view.Audited models where
  started := by
    intro row member
    rw [length_eventsOf_started]
    refine inv.runs.count_eq_one (fun t owed => ?_) (List.mem_map.mpr ⟨row, member, rfl⟩)
    simp [owesRun, settled t] at owed
  completed := by
    intro row member ended
    obtain ⟨⟨call, recorded⟩, -⟩ := inv.outcomes.terminal row member ended
    exact ⟨_, _, recorded.audited⟩
  imported := by
    intro row member
    rw [length_intakeEventsOf_imported]
    refine inv.intakes.count_eq_one (fun t owed => ?_) (List.mem_map.mpr ⟨row, member, rfl⟩)
    simp [owesIntake, settled t] at owed

end ShadowView

/-! ## Callers that do not crash before an event -/

/-- The caller owes no event: it is not between the INSERT of a row and that of
the row's first event. -/
def OwesNoEvent (t : Tid) (state : ShadowWorld) : Prop := state.shadow.unrecorded t = none

section Audited

variable (service : ShadowService) (fuel : Nat)

/-- The shadow tables alone: nothing is asked of the investigations. -/
def auditSetting : Setting where
  side := freeSide
  lockKey := service.lockKey
  models := service.models
  Origin := fun _ => True
  exclusive := False

theorem auditSetting_sound (Starts : Tid → ShadowCall → Prop) (Allowed : Tid → Input → Prop)
    (Crashes : Tid → ShadowWorld → Prop) :
    Sound (auditSetting service) service fuel Starts Allowed Crashes (fun _ _ _ => True) where
  models := rfl
  locks := rfl
  allowed := fun _ _ _ => trivial
  direct := fun _ _ _ _ _ _ _ _ => trivial
  serves := by
    intro t call _
    cases call with
    | process arguments =>
        exact ⟨fun now => ⟨fun _ => trivial, False.elim⟩, nested_free rfl service fuel arguments⟩
    | importCase principal case execute => trivial
    | intake principal arguments =>
        exact fun u world _ _ => Discipline.Safe.mono (fun _ _ _ _ => ⟨trivial, trivial⟩)
          (Discipline.safe_free _ world)
    | review principal runId request idempotencyKey =>
        exact fun u world _ _ => Discipline.Safe.mono (fun _ _ _ _ => ⟨trivial, trivial⟩)
          (Discipline.safe_free _ world)
  crash := fun _ _ _ _ => ⟨trivial, fun _ _ => trivial⟩
  inv := trivial
  ready := fun _ => trivial

/-- A caller that may only crash while it owes no event owes none afterwards. -/
theorem leaves_owesNoEvent (Starts : Tid → ShadowCall → Prop) (Allowed : Tid → Input → Prop) :
    Leaves (shadowClients service fuel Starts Allowed OwesNoEvent)
      (auditSetting service).discipline OwesNoEvent where
  crash := by
    rintro t before after ⟨free, rfl⟩ _
    exact free
  rely := fun t before after relied free => relied.2.unrecorded.trans free

end Audited

/-- However the calls interleave, and wherever else they crash: once no call is
in progress, every row has its audit events. -/
theorem shadow_records_audited (service : ShadowService) (fuel : Nat)
    (Starts : Tid → ShadowCall → Prop) (Allowed : Tid → Input → Prop) (pool : ShadowPool)
    (run : Reaches (shadowClients service fuel Starts Allowed OwesNoEvent)
      (Pool.start ShadowWorld.initial) pool) (quiescent : pool.Quiescent) :
    pool.state.shadow.Audited service.models := by
  have sound := auditSetting_sound service fuel Starts Allowed OwesNoEvent
  have settled := (leaves_owesNoEvent service fuel Starts Allowed).quiescent sound.verified
    (fun t state knows => knows.own.unrecorded)
    (fun t call value state post => by
      obtain ⟨completed, knows⟩ := post.free
      exact knows.own.unrecorded)
    sound.inv_initial sound.knows_initial run quiescent
  exact (sound.reaches run).inv.2.1.audited settled

/-! ### A crash between a row and its first event -/

theorem isCaseVersion_v1 : isCaseVersion "v1" = true := by decide

theorem length_supplierDelay : lengthBetween 1 80 "supplier_delay" = true := by decide

theorem literal_alpha : "t_alpha" = "t_alpha" ∨ "t_alpha" = "t_beta" := .inl rfl

/-- A genuine case that is expected to escalate. -/
def genuineCase : ShadowCase where
  caseId := "case-1"
  caseVersion := "v1"
  category := "supplier_delay"
  tenantId := "t_alpha"
  input := unsignalledIntake.arguments.request
  inputDump := unsignalledIntake.arguments.modelDump
  baselineSource := .analystReference
  referenceOutcome := ⟨.escalated, none, none, none⟩
  referenceEscalationExpectation := ⟨true, some "EVIDENCE_MISSING", by decide⟩
  minimumEvidenceCitationExpectations :=
    ⟨[.inventory], 0, by decide, by decide, by decide, by decide⟩
  provenanceLabel := .genuineUatAnalystLabelled
  deidentificationStatus := .deidentifiedOwnerAttested
  consentDataUseStatus := .ownerAttestedConsentHeldOffline
  consentDataUseReference := some "OFFLINE-CONSENT-TEST-FIXTURE-0001"
  others := [("as_of_timestamp", .str "1970-01-02T00:00:00Z"),
    ("fixture_setup", .obj [("inventory", .null), ("demand", .null), ("supplier", .null)]),
    ("notes", .str "Schema fixture."), ("limitations", .arr [.str "Not a genuine record."])]
  caseId_bounds := by decide
  caseVersion_pattern := isCaseVersion_v1
  category_bounds := length_supplierDelay
  consentReference_pattern := by decide
  tenantId_literal := literal_alpha
  escalationAgrees := by decide
  escalatedBare := fun _ => ⟨rfl, rfl, rfl⟩
  provenance := by decide

/-- The hash and the lock key of the source for that case. -/
def importService : ShadowService where
  investigation :=
    { unsignalledIntake.service with
      provenance :=
        { exampleProvenance with
          canonicalJson := fun _ =>
            "e513123e726320ee5a1904bbf2d97f39dd487c3ad66bb9f67b383c9250c915dd" } }
  models := strictModels
  manifestVersion := "m2-shadow-cases-v1-2026-01-01"
  lockKey := fun _ => -4565423986612755933
  uuidText := fun _ => ""
  toFloat := fun _ => .error .assertionError

def importCall : ShadowCall :=
  .importCase ⟨"operator-1", "t_alpha", ["operator"]⟩ genuineCase false

def importInput (uuid : Nat) : Input :=
  ⟨0, uuid, fun _ => .error .assertionError, fun _ => .error .assertionError⟩

/-- Calls of `process` and of `import_case`. -/
def ShadowCall.OfShadow : ShadowCall → Prop
  | .process _ | .importCase _ _ _ => True
  | .intake _ _ | .review _ _ _ _ => False

/-- Every call that crashed was made again and has returned. -/
def Retried (pool : ShadowPool) : Prop :=
  ∀ t call, pool.threads t = .crashed call →
    ∃ u reply, pool.threads u = .running call (.ret (.ok reply))

/-- Whether the repetition of an import that crashed after `count` statements
returns, and the `shadow_intake_imported` events of every intake. -/
def retriedImport (count : Nat) : Option (Bool × List Nat) :=
  match (importService.run 0 importCall).soloUpTo 0 (importInput 5) count ShadowWorld.initial with
  | none => none
  | some state =>
      match (importService.run 0 importCall).solo 1 (importInput 6) (state.crash 0) with
      | none => none
      | some (reply, final) =>
          some (reply.isOk, final.shadow.intakes.map fun row =>
            (final.shadow.intakeEventsOf row.intakeId "shadow_intake_imported").length)

/-- The pool in which that has happened. -/
theorem reaches_retriedImport (Crashes : Tid → ShadowWorld → Prop) (count : Nat)
    (crashes : ∀ state, (importService.run 0 importCall).soloUpTo 0 (importInput 5) count
      ShadowWorld.initial = some state → Crashes 0 state) {counts : List Nat}
    (retried : retriedImport count = some (true, counts)) :
    ∃ pool : ShadowPool, Reaches (shadowClients importService 0 (fun _ call => call.OfShadow)
        (fun _ _ => True) Crashes) (Pool.start ShadowWorld.initial) pool ∧
      pool.Quiescent ∧ Retried pool ∧ (pool.state.shadow.intakes.map fun row =>
        (pool.state.shadow.intakeEventsOf row.intakeId "shadow_intake_imported").length) =
          counts := by
  unfold retriedImport at retried
  split at retried
  case h_1 => cases retried
  case h_2 state crashedRun =>
  split at retried
  case h_1 => cases retried
  case h_2 reply final retriedRun =>
  obtain ⟨returned, counted⟩ := Prod.mk.inj (Option.some.inj retried)
  let system :=
    shadowClients importService 0 (fun _ call => call.OfShadow) (fun _ _ => True) Crashes
  have start : Reaches system (Pool.start ShadowWorld.initial) (Pool.start ShadowWorld.initial) :=
    .refl
  have crashed := start.crash 0 (importInput 5) importCall rfl trivial trivial count crashedRun
    ⟨crashes state crashedRun, rfl⟩
  have ended := crashed.solo 1 (importInput 6) importCall rfl trivial trivial retriedRun
  refine ⟨_, ended, fun t => ?_, fun t call crashedCall => ?_, counted⟩
  · by_cases second : t = 1
    · simp [second, Thread.Rests]
    · by_cases first : t = 0 <;> simp [second, first, Pool.start, Thread.Rests]
  · obtain ⟨value, rfl⟩ : ∃ value, reply = .ok value := by
      cases reply with
      | ok value => exact ⟨value, rfl⟩
      | error exception => cases returned
    refine ⟨1, value, ?_⟩
    by_cases second : t = 1
    · simp [second] at crashedCall
    · by_cases first : t = 0 <;> simp [second, first, Pool.start] at crashedCall
      rw [← crashedCall]
      simp

/-- A crash one statement before the INSERT costs nothing. -/
theorem early_crash_audited : ∃ pool : ShadowPool,
    Retried pool ∧ pool.state.shadow.intakes ≠ [] ∧
      pool.state.shadow.Audited importService.models := by
  have settled : ((importService.run 0 importCall).soloUpTo 0 (importInput 5) 4
      ShadowWorld.initial).all (fun state => state.shadow.unrecorded 0 = none) = true := by
    decide +kernel
  obtain ⟨pool, run, quiescent, retried, counted⟩ := reaches_retriedImport OwesNoEvent 4
    (fun state ran => by simpa [ran, OwesNoEvent] using settled)
    (by decide +kernel : _ = some (true, [1]))
  refine ⟨pool, retried, fun empty => ?_,
    shadow_records_audited importService 0 _ _ pool run quiescent⟩
  simp [empty] at counted

/-- A crash right after the INSERT of an intake: the repeated import finds the
row, and its event is never written. -/
theorem crashed_import_loses_event :
    ¬ ∀ pool : ShadowPool, Reaches (shadowClients importService 0 (fun _ call => call.OfShadow)
        (fun _ _ => True) (fun _ _ => True)) (Pool.start ShadowWorld.initial) pool →
      pool.Quiescent → Retried pool → pool.state.shadow.Audited importService.models := by
  intro audited
  obtain ⟨pool, run, quiescent, retried, counted⟩ :=
    reaches_retriedImport (fun _ _ => True) 5 (fun _ _ => trivial)
      (by decide +kernel : _ = some (true, [0]))
  have once := (audited pool run quiescent retried).imported
  obtain ⟨row, intakes, missing⟩ := List.map_eq_singleton_iff.mp counted
  have found := once row (by simp [intakes])
  omega

end StockoutOps.Shadow
