import StockoutOps.Shadow.RepositoryRules
import StockoutOps.Shadow.Service

/-!
Contract: what the services of shadow processing do for their callers.

Owns: how a proof about the investigation service enters one about shadow
processing, and the rules for `process` and `import_case` on every exit path.

Does not own: what the investigation service does; `Nested` states it.
-/

namespace StockoutOps.Shadow

open StockoutOps.Investigation StockoutOps.Sql StockoutOps.Foundation.Interleaving

section Rules

variable {setting : Setting} {t : Tid} {state later : ShadowWorld} {own : Own} {ρ α : Type}
  {Fact Fact' : ShadowWorld → Prop}

/-- A fact that survives what the others do, and what `t` does to investigations. -/
structure Steady (setting : Setting) (t : Tid) (Fact : ShadowWorld → Prop) : Prop where
  rely : ∀ before after, setting.discipline.Rely t before after → setting.discipline.Inv after →
    Fact before → Fact after
  step : ∀ (whole : ShadowWorld) part, setting.side.inner.Guarantee t whole.world part →
    Fact whole → Fact { whole with world := part }

theorem Steady.and (left : Steady setting t Fact) (right : Steady setting t Fact') :
    Steady setting t (fun state => Fact state ∧ Fact' state) where
  rely := fun before after relied inv facts =>
    ⟨left.rely before after relied inv facts.1, right.rely before after relied inv facts.2⟩
  step := fun whole part owed facts =>
    ⟨left.step whole part owed facts.1, right.step whole part owed facts.2⟩

theorem steady_lasting {Lasts : ShadowView → Prop} (lasting : Lasting Lasts) :
    Steady setting t (fun state => Lasts state.shadow) where
  rely := fun _ _ relied _ fact => lasting _ _ relied.2.extends_ fact
  step := fun _ _ _ fact => fact

theorem linked_step {whole : ShadowWorld} {part : World} {control : ShadowRunControl}
    {runId : RunId} (owed : setting.side.inner.Guarantee t whole.world part)
    (linked : setting.side.Linked whole.world control runId) :
    setting.side.Linked part control runId :=
  setting.side.linked_rely (t + 1) _ _ _ _ (owed.rely (t + 1) (Nat.succ_ne_self t)) owed.inv linked

theorem steady_linked (control : ShadowRunControl) (runId : RunId) :
    Steady setting t (fun state => setting.side.Linked state.world control runId) where
  rely := fun _ _ relied inv linked =>
    setting.side.linked_rely t _ _ _ _ relied.1 inv.1 linked
  step := fun _ _ owed linked => linked_step owed linked

/-- The discipline of the investigation tables within that of the database. -/
theorem embeds (setting : Setting) (own : Own)
    (steady : ∀ t, Steady setting t Fact) :
    Embeds investigations setting.side.inner setting.discipline
      (fun t whole => own.Holds t whole.shadow ∧ Fact whole) where
  inv := fun _ inv => inv.1
  rely := fun _ _ _ relied => relied.1
  allowed := fun _ _ => .rfl
  waits := fun _ _ _ _ waits => .inr waits
  guarantee := by
    intro t whole part inv frame owed
    refine ⟨⟨⟨owed.inv, inv.2.1, fun row member runId link => ?_⟩, fun u other => ?_⟩,
      frame.1, (steady t).step whole part owed frame.2⟩
    · exact linked_step owed (inv.2.2 row member runId link)
    · exact ⟨owed.rely u other, .refl u whole.shadow⟩
  frame := fun t _ _ relied inv frame =>
    ⟨frame.1.rely relied.2, (steady t).rely _ _ relied inv frame.2⟩

/-- A call of the investigation service in the middle of a shadow call. -/
theorem safe_onInvestigations {routine : Routine α} {follow : α → ShadowRoutine ρ}
    {Post : Except Failure ρ → ShadowWorld → Prop} (Inner : Except Failure α → World → Prop)
    (knows : Knows setting t own state) (steady : ∀ t, Steady setting t Fact) (fact : Fact state)
    (serves : ∀ world, setting.side.inner.Inv world → setting.side.Ready t world →
      setting.side.inner.Safe t (show Prog Tid Input World (Except Failure α) from routine)
        (fun result last => setting.side.Ready t last ∧ Inner result last) world)
    (next : ∀ result last, setting.discipline.Inv last → Knows setting t own last →
      Fact last → Inner result last.world → Goes setting t follow Post result last) :
    setting.Safe t (onInvestigations routine >>= follow) Post state := by
  refine Discipline.Safe.of_later fun later relied inv => ?_
  have known := knows.rely relied inv
  have frame : own.Holds t later.shadow ∧ Fact later :=
    ⟨known.own, (steady t).rely _ _ relied inv fact⟩
  refine safe_bind (Discipline.Safe.mono (fun result last inv post => ?_)
    ((embeds setting own steady).safe (serves later.world inv.1 known.ready) frame))
  exact next result last inv ⟨post.2.1, post.1.1⟩ post.2.2 post.1.2

/-! ## `process` -/

variable {service : ShadowService} {arguments : ProcessArguments} {fuel : Nat}

/-- What the investigation service does for the run of a call. -/
structure Nested (setting : Setting) (service : ShadowService) (fuel : Nat)
    (arguments : ProcessArguments) : Prop where
  intake : ∀ t (run : ShadowRunRow) world,
    (service.beginCall arguments 0).Matches run.toShadowRunControl →
    run.payloadHash = service.payloadHash arguments →
    setting.side.inner.Inv world → setting.side.Ready t world →
      setting.side.inner.Safe t
        (show Prog Tid Input World (Except Failure (RunRow × Bool)) from
          service.investigation.intake arguments.principal fuel
            (service.nestedIntake arguments run))
        (fun result last => setting.side.Ready t last ∧
          ∀ investigation created, result = .ok (investigation, created) →
            setting.side.Linked last run.toShadowRunControl investigation.runId) world
  detail : ∀ t runId world, setting.side.inner.Inv world → setting.side.Ready t world →
    setting.side.inner.Safe t
      (show Prog Tid Input World (Except Failure InvestigationService.Detail) from
        service.investigation.detail arguments.principal runId)
      (fun _ last => setting.side.Ready t last ∧ True) world
  audit : ∀ t runId world, setting.side.inner.Inv world → setting.side.Ready t world →
    setting.side.inner.Safe t
      (show Prog Tid Input World (Except Failure InvestigationService.AuditTrail) from
        InvestigationService.audit arguments.principal runId)
      (fun _ last => setting.side.Ready t last ∧ True) world
  reasoning : ∀ t runId world, setting.side.inner.Inv world → setting.side.Ready t world →
    setting.side.inner.Safe t
      (show Prog Tid Input World (Except Failure (Option ToolRow)) from
        getTool arguments.principal runId .reasoning)
      (fun _ last => setting.side.Ready t last ∧ True) world

/-- A terminal run that answers a call of `process`. -/
structure Answered (service : ShadowService) (arguments : ProcessArguments) (row : ShadowRunRow)
    (view : ShadowView) : Prop where
  ended : row.status ≠ .started
  answers : (service.beginCall arguments 0).Answers row view

theorem lasting_answered (service : ShadowService) (arguments : ProcessArguments)
    (row : ShadowRunRow) : Lasting (Answered service arguments row) :=
  fun before after grown answered =>
    ⟨answered.ended, BeginCall.lasting_answers _ row before after grown answered.answers⟩

/-- How a call of `process` leaves its caller: a run it has completed is the one
it answers with, and another run that it answers with is a replay. -/
def ProcessPost (setting : Setting) (service : ShadowService) (t : Tid)
    (arguments : ProcessArguments) (result : Except Failure ShadowResult)
    (last : ShadowWorld) : Prop :=
  ∃ completed, Knows setting t ⟨[], none, none, completed⟩ last ∧
    match completed with
    | some shadowRunId => ∃ row, Answered service arguments row last.shadow ∧
        row.shadowRunId = shadowRunId ∧
          result = resultFromRecord setting.models row.record false
    | none => ∀ value, result = .ok value → ∃ row,
        Answered service arguments row last.shadow ∧
          resultFromRecord setting.models row.record true = .ok value

theorem ProcessPost.rely {result : Except Failure ShadowResult}
    (post : ProcessPost setting service t arguments result state)
    (relied : setting.discipline.Rely t state later) (inv : setting.discipline.Inv later) :
    ProcessPost setting service t arguments result later := by
  obtain ⟨completed, knows, rest⟩ := post
  refine ⟨completed, knows.rely relied inv, ?_⟩
  cases completed with
  | some shadowRunId =>
      obtain ⟨row, answered, same, value⟩ := rest
      exact ⟨row, lasting_answered service arguments row _ _ relied.2.extends_ answered, same,
        value⟩
  | none =>
      intro value ok
      obtain ⟨row, answered, same⟩ := rest value ok
      exact ⟨row, lasting_answered service arguments row _ _ relied.2.extends_ answered, same⟩

/-- A call that ends before it has begun anything. -/
theorem processPost_error {exception : Failure} (knows : Knows setting t .nothing state) :
    ProcessPost setting service t arguments (.error exception) state :=
  ⟨none, knows, fun _ => nofun⟩

/-- What a caller knows of the run it has claimed. -/
abbrev Claimed (setting : Setting) (service : ShadowService) (arguments : ProcessArguments)
    (run : ShadowRunRow) (runId : RunId) (state : ShadowWorld) : Prop :=
  (service.beginCall arguments 0).Answers run state.shadow ∧
    setting.side.Linked state.world run.toShadowRunControl runId

/-- The part of the body that only reads. -/
theorem safe_actual {run : ShadowRunRow} {runId linkedId : RunId}
    {follow : ShadowActualOutcome → ShadowRoutine ρ}
    {Post : Except Failure ρ → ShadowWorld → Prop}
    (nested : Nested setting service fuel arguments) (knows : Knows setting t own state)
    (claimed : Claimed setting service arguments run linkedId state)
    (failed : ∀ exception last, Knows setting t own last → Post (.error exception) last)
    (next : ∀ actual last, Knows setting t own last →
      Claimed setting service arguments run linkedId last →
        setting.Safe t (follow actual) Post last) :
    setting.Safe t (service.actual arguments.principal runId arguments.case >>= follow) Post
      state := by
  have steady : ∀ t, Steady setting t (Claimed setting service arguments run linkedId) :=
    fun _ => (steady_lasting (BeginCall.lasting_answers _ run)).and (steady_linked _ _)
  have raised : ∀ exception last, Knows setting t own last →
      Goes setting t follow Post (.error exception) last :=
    fun exception last known final relied inv => failed exception final (known.rely relied inv)
  refine safe_bind ?_
  refine safe_onInvestigations (fun _ _ => True) knows steady claimed
    (fun world inv ready => nested.detail t runId world inv ready)
    fun result last inv known claimed _ => ?_
  cases result with
  | error exception => exact fun final relied inv => raised exception final (known.rely relied inv)
  | ok detail =>
  refine safe_onInvestigations (fun _ _ => True) known steady claimed
    (fun world inv ready => nested.audit t runId world inv ready)
    fun result last inv known claimed _ => ?_
  cases result with
  | error exception => exact fun final relied inv => raised exception final (known.rely relied inv)
  | ok trail =>
  refine safe_onInvestigations (fun _ _ => True) known steady claimed
    (fun world inv ready => nested.reasoning t runId world inv ready)
    fun result last inv known claimed _ => ?_
  cases result with
  | error exception => exact fun final relied inv => raised exception final (known.rely relied inv)
  | ok reasoning =>
  refine safe_settle fun final relied inv => ?_
  have known := known.rely relied inv
  have claimed := (steady t).rely _ _ relied inv claimed
  cases service.assemble arguments.case ⟨detail, trail, reasoning⟩ with
  | error exception => exact raised exception final known
  | ok actual => exact next actual final known claimed

theorem safe_analyse {run : ShadowRunRow} (models : setting.models = service.models)
    (nested : Nested setting service fuel arguments)
    (knows : Knows setting t own state) (pending : own.completed = none)
    (answers : (service.beginCall arguments 0).Answers run state.shadow)
    {Post : Except Failure ShadowRunRow → ShadowWorld → Prop}
    (failed : ∀ exception last, Knows setting t own last → Post (.error exception) last)
    (ended : ∀ row last, Knows setting t { own with completed := some run.shadowRunId } last →
      (∃ done : ShadowRunRow, row = done.record ∧ done.status ≠ .started ∧
        done.toShadowRunControl = run.toShadowRunControl ∧ Present done last.shadow) →
          Post (.ok row) last) :
    setting.Safe t (service.analyse fuel arguments run) Post state := by
  refine safe_onInvestigations
    (fun result last => ∀ investigation created, result = .ok (investigation, created) →
      setting.side.Linked last run.toShadowRunControl investigation.runId)
    knows (fun _ => steady_lasting (BeginCall.lasting_answers _ run)) answers
    (fun world inv ready => nested.intake t run world answers.identity answers.payload inv ready)
    fun result last inv known answers linked => ?_
  cases result with
  | error exception =>
      exact fun final relied inv => failed exception final (known.rely relied inv)
  | ok intake =>
  obtain ⟨investigation, created⟩ := intake
  refine safe_actual nested known ⟨answers, linked investigation created rfl⟩ failed
    fun actual last known claimed => ?_
  refine safe_settle_bind (fun comparison _ => ?_) fun exception _ final relied inv => ?_
  · refine safe_read (fun input _ => input.now) (fun _ _ => rfl) known
      fun later relied inv known input => ?_
    have kept := (steady_linked run.toShadowRunControl investigation.runId).rely
      _ _ relied inv claimed.2
    have answers := BeginCall.lasting_answers _ run _ _ relied.2.extends_ claimed.1
    rw [← models]
    refine Discipline.Safe.mono (fun result final inv post => ?_)
      (safe_complete known pending answers.present kept)
    cases result with
    | error exception => exact failed exception final post
    | ok row => exact ended row final post.1 post.2
  · exact failed exception final (known.rely relied inv)

/-- What `process` does with what it has begun. -/
theorem safe_finish {now : Timestamp} {keys : List Int} (models : setting.models = service.models)
    (nested : Nested setting service fuel arguments) (begun : Begun)
    (post : BeginPost setting t (service.beginCall arguments now) keys [] (.ok begun) state) :
    setting.Safe t (service.finish fuel arguments begun)
      (ProcessPost setting service t arguments) state := by
  obtain ⟨run, claimed, created⟩ := begun
  cases claimed with
  | none =>
      obtain ⟨knows, row, rfl, ended, answers⟩ := post
      refine safe_settle fun later relied inv => ProcessPost.rely
        ⟨none, knows, fun value ok => ⟨row, ⟨ended, answers.payload, answers.identity,
          answers.present⟩, ?_⟩⟩ relied inv
      rw [models]
      exact ok
  | some locked =>
      obtain ⟨rfl, knows, started, answers⟩ := post
      have held : (service.beginCall arguments 0).Answers run state.shadow :=
        ⟨answers.payload, answers.identity, answers.present⟩
      let Released : Except Failure ShadowRunRow → ShadowWorld → Prop := fun result last =>
        Goes setting t (fun completed => settle (resultFromRecord service.models completed false))
          (ProcessPost setting service t arguments) result last
      have body : setting.Safe t (service.analyse fuel arguments run) (fun result last =>
          ∃ own : Own, ∃ Fact, Lasting Fact ∧ Fact last.shadow ∧ Knows setting t own last ∧
            ∀ later, setting.discipline.Inv later → Fact later.shadow →
              Knows setting t { own with locks := [], claim := none } later →
                Released result later) state := by
        refine safe_analyse models nested knows rfl held (fun exception last known => ?_)
          fun row last known completed => ?_
        · refine ⟨_, _, lasting_true, trivial, known, fun later _ _ known final relied inv => ?_⟩
          exact processPost_error (known.rely relied inv)
        · obtain ⟨done, rfl, ended, control, present⟩ := completed
          refine ⟨_, _, lasting_present done, present, known, fun later _ present known => ?_⟩
          refine safe_settle fun final relied inv => ProcessPost.rely ⟨_, known, ?_⟩ relied inv
          refine ⟨done, ⟨ended, ?_, ?_, present⟩, congrArg (·.shadowRunId) control, by rw [models]⟩
          · exact (congrArg (·.payloadHash) control).trans held.payload
          · rw [control]
            exact held.identity
      refine safe_bind (safe_withShadowClaim body fun result before after relied inv released => ?_)
      cases result with
      | ok completed => exact Discipline.Safe.rely released relied
      | error exception =>
          exact fun final reliedFinal => released final
            (setting.discipline.trans t relied reliedFinal)

/-- A call of `process` releases all it took, on every exit path. -/
theorem safe_process (models : setting.models = service.models)
    (locks : setting.lockKey = service.lockKey)
    (admitted : ∀ now, (service.beginCall arguments now).Admitted setting)
    (nested : Nested setting service fuel arguments) (knows : Knows setting t .nothing state) :
    setting.Safe t (service.process fuel arguments) (ProcessPost setting service t arguments)
      state := by
  refine safe_settle_bind (fun _ _ => ?_) fun exception _ later relied inv =>
    processPost_error (knows.rely relied inv)
  refine safe_read (fun input _ => input.now) (fun _ _ => rfl) knows
    fun later relied inv known input => ?_
  rw [← locks]
  refine safe_bind (Discipline.Safe.mono (fun result last inv post => ?_)
    (safe_beginOrObserve (admitted input.now) known))
  cases result with
  | error exception =>
      exact fun final relied inv => processPost_error (Knows.rely post relied inv)
  | ok begun => exact safe_finish models nested begun post

/-! ## `import_case` -/

/-- A call of `import_case` releases all it took, on every exit path. -/
theorem safe_importCase {principal : Principal} {case : ShadowCase} {execute : Bool}
    (locks : setting.lockKey = service.lockKey) (knows : Knows setting t .nothing state) :
    setting.Safe t (service.importCase principal case execute)
      (fun _ last => Knows setting t .nothing last) state := by
  refine safe_settle_bind (fun _ _ => ?_) fun exception _ later relied inv =>
    knows.rely relied inv
  refine safe_read (fun input _ => input.now) (fun _ _ => rfl) knows
    fun later relied inv known input => ?_
  rw [← locks]
  refine safe_bind (Discipline.Safe.mono (fun result last inv known => ?_)
    (safe_importOrObserve (Provenance.canonicalHash_hex _ _) known))
  cases result with
  | error exception => exact fun final relied inv => known.rely relied inv
  | ok imported =>
      show setting.Safe t (if _ then _ else _) _ last
      split
      · exact safe_raise fun final relied inv => known.rely relied inv
      · exact safe_pure fun final relied inv => known.rely relied inv

end Rules

end StockoutOps.Shadow
