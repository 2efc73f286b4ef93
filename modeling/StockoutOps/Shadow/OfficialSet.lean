import StockoutOps.Shadow.AuditEvents
import StockoutOps.Shadow.Collection
import StockoutOps.Shadow.IntakeMethods

/-!
Contract: the official set of accepted intakes, over every run of the intake methods.

Owns: the soundness of the methods for every reachable pool of callers, and what
follows for the events of an intake, for a repeated exclusion, and for the records
that the collection takes to be official.

Does not own: the methods and the queries.
-/

namespace StockoutOps.Shadow

open StockoutOps.Investigation StockoutOps.Sql StockoutOps.Foundation.Interleaving

/-! ## Soundness -/

section Soundness

variable (service : ShadowService)

/-- How a call ends whose caller was still idle when the tables were `before`. -/
def IntakeCallPost (before : ShadowView) (t : Tid) :
    IntakeCall → Except Failure IntakeReply → IntakeWorld → Prop
  | .importCase _ _ _, _, _ => True
  | .accept _ intakeId _, reply, state => ∃ result : Except Failure ShadowIntakeRow,
      reply = result.map IntakeReply.accepted ∧ AcceptPost before t intakeId result state
  | .exclude principal intakeId reason _, reply, state =>
      ∃ result : Except Failure (ShadowIntakeRow × Bool),
        reply = result.map (fun answer => IntakeReply.excluded answer.1 answer.2) ∧
          ExcludePost before t principal intakeId reason result state

variable {service}

theorem safe_renamed {ρ σ : Type} {t : Tid} {state : IntakeWorld} {routine : ControlRoutine ρ}
    {rename : ρ → σ} {Post : Except Failure σ → IntakeWorld → Prop}
    (safe : service.Safe t routine (fun result => Post (result.map rename)) state) :
    service.Safe t (routine >>= fun value => pure (rename value)) Post state := by
  have rest : (routine >>= fun value => pure (rename value)) =
      Prog.bind routine (fun result => .ret (result.map rename)) := by
    refine congrArg (Prog.bind routine) (funext fun result => ?_)
    cases result <;> rfl
  show (intakeDiscipline service).Safe t _ Post state
  rw [rest]
  exact Discipline.Safe.map safe

/-- An import only performs plain steps. -/
theorem safe_import {t : Tid} {state : IntakeWorld} {principal : Principal} {case : ShadowCase}
    {execute : Bool} (free : state.pending t = none) :
    service.Safe t (Call.within intakeTables (service.importCase principal case execute))
      (fun _ _ => True) state := by
  let Lifted : ActionKind Tid Input IntakeWorld := fun ρ action =>
    ∃ inner : Tid → Input → ShadowWorld → Option (ρ × ShadowWorld), importKind ρ inner ∧
      action = fun t input whole => (inner t input (intakeTables.get whole)).map
        fun answer => (answer.1, intakeTables.set whole answer.2)
  have every : Prog.Every Lifted (Call.within intakeTables
      (service.importCase principal case execute)) :=
    Prog.Every.within intakeTables (every_importCase service principal case execute)
      fun _ inner kind => ⟨inner, kind, rfl⟩
  let Unstaged : Tid → IntakeWorld → Prop := fun t state => state.pending t = none
  have frame : ∀ before after, (intakeDiscipline service).Rely t before after →
      Unstaged t before → Unstaged t after :=
    fun before after relied kept => relied.pending.trans kept
  have steps : ∀ ρ (action : Tid → Input → IntakeWorld → Option (ρ × IntakeWorld)),
      Lifted ρ action → ∀ input state result after, (intakeDiscipline service).Inv state →
        Unstaged t state → action t input state = some (result, after) →
          (intakeDiscipline service).Guarantee t state after ∧ Unstaged t after := by
    rintro ρ _ ⟨inner, kind, rfl⟩ input last result after inv kept answered
    obtain ⟨⟨found, base⟩, acted, same⟩ := Option.map_eq_some_iff.mp answered
    obtain ⟨rfl, rfl⟩ := Prod.mk.inj same
    exact ⟨guarantee_plain inv kept (kind t input last.base found base inv.ids acted), kept⟩
  exact Discipline.Safe.mono (fun _ _ _ _ => trivial)
    (safe_of_every (fun _ => trivial) frame steps every free)

theorem intake_verified (since : Tid → ShadowView) :
    Verified (intakeClients service) (intakeDiscipline service)
      (fun t state => Ready (since t) t state) (fun t => IntakeCallPost (since t) t) where
  allowed := fun _ _ _ => trivial
  fresh := fun _ _ _ relied _ ready => ready.rely relied
  calls := by
    intro t call state _ _ ready
    cases call with
    | importCase principal case execute =>
        exact safe_renamed (Discipline.Safe.mono (fun _ _ _ _ => trivial)
          (safe_import ready.free))
    | accept principal intakeId now =>
        exact safe_renamed (Discipline.Safe.mono (fun result _ _ post => ⟨result, rfl, post⟩)
          (safe_acceptForM205 now ready))
    | exclude principal intakeId reason now =>
        exact safe_renamed (Discipline.Safe.mono (fun result _ _ post => ⟨result, rfl, post⟩)
          (safe_exclude reason now ready))
  crash := by
    rintro t before after rfl inv
    exact guarantee_crash_intake inv
  disturb := fun _ _ => False.elim

theorem intakeInv_initial : IntakeInv service .initial where
  ids := List.nodup_nil
  bound := fun _ => nofun
  once := fun _ _ _ => Nat.zero_le _
  reasons := fun _ => nofun
  staged := fun _ _ => nofun

theorem ready_initial (t : Tid) : Ready ShadowView.empty t .initial :=
  ⟨rfl, fun _ => nofun, List.prefix_refl _, List.prefix_refl _⟩

variable {pool later : IntakePool}

/-- Every reachable pool is safe. -/
theorem intake_reaches (run : Reaches (intakeClients service) (Pool.start .initial) pool) :
    pool.Safe (intakeDiscipline service) (fun t state => Ready ShadowView.empty t state)
      (fun t => IntakeCallPost ShadowView.empty t) :=
  (Pool.safe_start intakeInv_initial ready_initial).reaches (intake_verified _) run

/-- A reachable pool is safe, and its idle callers have seen what is there. -/
theorem intake_safe (run : Reaches (intakeClients service) (Pool.start .initial) pool)
    (since : Tid → ShadowView)
    (idle : ∀ t, pool.threads t = .idle → since t = pool.state.view)
    (busy : ∀ t, pool.threads t ≠ .idle → since t = ShadowView.empty) :
    pool.Safe (intakeDiscipline service) (fun t state => Ready (since t) t state)
      (fun t => IntakeCallPost (since t) t) := by
  have safe := intake_reaches run
  refine ⟨safe.inv, fun t => ?_⟩
  have own := safe.threads t
  cases thread : pool.threads t with
  | idle =>
      rw [thread] at own
      show Ready (since t) t pool.state
      rw [idle t thread]
      exact ⟨own.free, own.silent, List.prefix_refl _, List.prefix_refl _⟩
  | running call program =>
      rw [thread] at own
      show (intakeDiscipline service).Safe t program (IntakeCallPost (since t) t call) pool.state
      rw [busy t (by rw [thread]; nofun)]
      exact own
  | crashed call => trivial

/-- How an exclusion ends that began after `pool`. -/
theorem exclude_ended (run : Reaches (intakeClients service) (Pool.start .initial) pool)
    (further : Reaches (intakeClients service) pool later) {t : Tid} {principal : Principal}
    {intakeId : IntakeId} {reason : String} {now : Timestamp}
    {reply : Except Failure IntakeReply} (idle : pool.threads t = .idle)
    (ended : later.threads t = .running (.exclude principal intakeId reason now) (.ret reply)) :
    ∃ result : Except Failure (ShadowIntakeRow × Bool),
      reply = result.map (fun answer => IntakeReply.excluded answer.1 answer.2) ∧
        ExcludePost pool.state.view t principal intakeId reason result later.state := by
  classical
  have safe := intake_safe run
    (fun u => if pool.threads u = .idle then pool.state.view else ShadowView.empty)
    (fun u unused => if_pos unused) fun u busy => if_neg busy
  obtain ⟨result, same, post⟩ := (safe.reaches (intake_verified _) further).ended ended
  rw [if_pos idle] at post
  exact ⟨result, same, post⟩

/-- Rows and events stay. -/
theorem intake_evolves (run : Reaches (intakeClients service) (Pool.start .initial) pool)
    (further : Reaches (intakeClients service) pool later) :
    pool.state.view.intakes <+: later.state.view.intakes ∧
      pool.state.view.intakeEvents <+: later.state.view.intakeEvents := by
  let Grows : IntakeWorld → IntakeWorld → Prop := fun before after =>
    before.view.intakes <+: after.view.intakes ∧
      before.view.intakeEvents <+: after.view.intakeEvents
  show Grows pool.state later.state
  refine (intake_reaches run).evolves (intake_verified _)
    (fun _ => ⟨List.prefix_refl _, List.prefix_refl _⟩)
    (fun first second => ⟨first.1.trans second.1, first.2.trans second.2⟩)
    (fun t before after guarantee => ?_) (fun before after relied => ?_) further
  · have relied := guarantee.rely (t + 1) (Nat.succ_ne_self t)
    exact ⟨relied.intakes, relied.events⟩
  · exact ⟨(relied 0).intakes, (relied 0).events⟩

end Soundness

/-! ## The official set -/

section Official

variable {view accepting excluding : ShadowView} {intakeId : IntakeId}

theorem mem_intakesWith {kind : String} :
    intakeId ∈ intakesWith kind view ↔ view.HasEvent kind intakeId := by
  simp only [intakesWith, List.mem_dedup, List.mem_map, List.mem_filter, beq_iff_eq,
    ShadowView.HasEvent]
  constructor
  · rintro ⟨event, ⟨member, kind⟩, id⟩
    exact ⟨event, member, id, kind⟩
  · rintro ⟨event, member, id, kind⟩
    exact ⟨event, ⟨member, kind⟩, id⟩

/-- The intakes that have a reason are those with an exclusion. -/
theorem mem_excludedIntakeIds_keys (str : Json → String) :
    intakeId ∈ (excludedIntakeIds str view).map Prod.fst ↔ view.HasEvent excluded intakeId := by
  constructor
  · intro member
    obtain ⟨entry, listed, rfl⟩ := List.mem_map.mp member
    obtain ⟨id, known, found⟩ := List.mem_filterMap.mp listed
    obtain ⟨event, -, rfl⟩ := Option.map_eq_some_iff.mp found
    exact mem_intakesWith.mp ((List.mergeSort_perm _ _).mem_iff.mp known)
  · intro has
    have known : intakeId ∈ (intakesWith excluded view).mergeSort :=
      (List.mergeSort_perm _ _).mem_iff.mpr (mem_intakesWith.mpr has)
    obtain ⟨event, member, id, kind⟩ := has
    have events : event ∈ view.intakeEvents.filter fun event =>
        event.intakeId == intakeId && event.eventType == excluded := by
      simp [member, id, kind]
    obtain ⟨last, found⟩ := Option.isSome_iff_exists.mp
      (List.getLast?_isSome.mpr (List.ne_nil_of_mem events))
    refine List.mem_map.mpr ⟨(intakeId, reasonText str last.payload),
      List.mem_filterMap.mpr ⟨intakeId, known, ?_⟩, rfl⟩
    rw [found]
    rfl

/-- The reason that the query gives is the recorded one. -/
theorem mem_excludedIntakeIds {service : ShadowService} {state : IntakeWorld}
    (inv : IntakeInv service state) (str : Json → String) {reason : String} :
    (intakeId, reason) ∈ excludedIntakeIds str state.view ↔
      state.view.ExcludedFor intakeId reason := by
  have sound : ∀ text, (intakeId, text) ∈ excludedIntakeIds str state.view →
      state.view.ExcludedFor intakeId text := by
    intro text listed
    obtain ⟨id, -, found⟩ := List.mem_filterMap.mp listed
    obtain ⟨event, last, same⟩ := Option.map_eq_some_iff.mp found
    obtain ⟨rfl, rfl⟩ := Prod.mk.inj same
    obtain ⟨member, matches_⟩ := List.mem_filter.mp (List.mem_of_getLast? last)
    simp only [Bool.and_eq_true, beq_iff_eq] at matches_
    obtain ⟨written, -, payload⟩ := inv.reasons event member matches_.2
    exact ⟨event, member, matches_.1, matches_.2, by rw [payload]; rfl⟩
  refine ⟨sound reason, fun recorded => ?_⟩
  obtain ⟨event, member, id, kind, reasonIs⟩ := recorded
  obtain ⟨⟨_, text⟩, listed, rfl⟩ := List.mem_map.mp
    ((mem_excludedIntakeIds_keys str).mpr ⟨event, member, id, kind⟩)
  rwa [excludedFor_unique inv ⟨event, member, id, kind, reasonIs⟩ (sound text listed)]

/-- What the collection takes to be official, each of the three queries from its own
reading of the tables. -/
def officialSet (collate : String × String × String → String × String × String → Bool)
    (str : Json → String) (listing accepting excluding : ShadowView) :
    Except Failure (List ShadowIntakeRow) :=
  officialM205Records (listAll collate listing) (acceptedIntakeIds accepting)
    ((excludedIntakeIds str excluding).map Prod.fst)

/-- The official records, as a set. -/
theorem mem_officialSet (collate : String × String × String → String × String × String → Bool)
    (str : Json → String) (listing accepting excluding : ShadowView) :
    ∃ records, officialSet collate str listing accepting excluding = .ok records ∧
      ((listing.intakes.map (·.intakeId)).Nodup → (records.map (·.intakeId)).Nodup) ∧
      ∀ row, row ∈ records ↔ row ∈ listing.intakes ∧
        row.provenanceLabel = .genuineUatAnalystLabelled ∧
        row.baselineSource = .analystReference ∧
        accepting.HasEvent acceptedForM205 row.intakeId ∧
        ¬ excluding.HasEvent excluded row.intakeId := by
  refine ⟨_, officialM205Records_eq _ _ _, fun ids => ?_, fun row => ?_⟩
  · exact ((((List.mergeSort_perm _ _).map _).nodup_iff.mpr ids).sublist
      (List.filter_sublist.map _))
  · rw [List.mem_filter, officiallyEligible_iff, acceptedIntakeIds, mem_intakesWith,
      mem_excludedIntakeIds_keys, listAll, (List.mergeSort_perm _ _).mem_iff]

end Official

/-! ## Every run -/

/-- What a reachable pool of importers and operators guarantees, now and in every run
that goes on from it. -/
structure ControlSound (service : ShadowService) (pool : IntakePool) : Prop where
  once : ∀ intakeId, (pool.state.view.eventsOfKind acceptedForM205 intakeId).length ≤ 1 ∧
    (pool.state.view.eventsOfKind excluded intakeId).length ≤ 1
  /-- The recorded reason is the one the query gives, for ever. -/
  reason : ∀ (str : Json → String) intakeId recorded,
    (intakeId, recorded) ∈ excludedIntakeIds str pool.state.view →
      ∀ later, Reaches (intakeClients service) pool later → ∀ other,
        (intakeId, other) ∈ excludedIntakeIds str later.state.view ↔ other = recorded
  /-- A later exclusion of an excluded intake has a settled answer and writes nothing. -/
  exclusion : ∀ row ∈ pool.state.view.intakes, ∀ recorded,
    pool.state.view.ExcludedFor row.intakeId recorded →
      ∀ later, Reaches (intakeClients service) pool later → ∀ t principal reason now reply,
        pool.threads t = .idle →
        later.threads t = .running (.exclude principal row.intakeId reason now) (.ret reply) →
          reply = (exclusionReply row principal reason recorded).map
              (fun answer => .excluded answer.1 answer.2) ∧
            ∀ event, (t, event) ∉ later.state.committedBy
  /-- Exclusions that race for an intake: the reason that is recorded in the end decides
  every answer, so a call with another one raises the conflict. -/
  raced : ∀ row ∈ pool.state.view.intakes, ∀ later, Reaches (intakeClients service) pool later →
    ∀ t principal reason now reply, pool.threads t = .idle →
      later.threads t = .running (.exclude principal row.intakeId reason now) (.ret reply) →
        (row.tenantId = principal.tenantId → principal.hasRole "operator" = true →
          reason ∈ exclusionReasonCodes →
            ∃ recorded, later.state.view.ExcludedFor row.intakeId recorded) ∧
          ∀ recorded, later.state.view.ExcludedFor row.intakeId recorded →
            (reply = .ok (.excluded row true) ∧ reason = recorded) ∨
              (reply = (exclusionReply row principal reason recorded).map
                  (fun answer => .excluded answer.1 answer.2) ∧
                ∀ event, (t, event) ∉ later.state.committedBy)
  /-- The official records, whenever acceptances and exclusions are read. -/
  official : ∀ (collate : String × String × String → String × String × String → Bool)
    (str : Json → String) (accepting excluding : IntakePool), ∃ records,
      officialSet collate str pool.state.view accepting.state.view excluding.state.view =
        .ok records ∧
      (records.map (·.intakeId)).Nodup ∧
      ∀ row, row ∈ records ↔ row ∈ pool.state.view.intakes ∧
        row.provenanceLabel = .genuineUatAnalystLabelled ∧
        row.baselineSource = .analystReference ∧
        accepting.state.view.HasEvent acceptedForM205 row.intakeId ∧
        ¬ excluding.state.view.HasEvent excluded row.intakeId
  /-- An excluded intake is never official again. -/
  excludedForGood : ∀ (collate : String × String × String → String × String × String → Bool)
    (str : Json → String) (listing accepting later : IntakePool) intakeId,
      pool.state.view.HasEvent excluded intakeId →
        Reaches (intakeClients service) pool later → ∀ records,
          officialSet collate str listing.state.view accepting.state.view later.state.view =
              .ok records → intakeId ∉ records.map (·.intakeId)

/-- Whatever calls of `import_case`, `accept_for_m2_05` and `exclude` have been made, by
whomever, concurrently, crashed and repeated. -/
theorem intake_control_sound (service : ShadowService) (pool : IntakePool)
    (run : Reaches (intakeClients service) (Pool.start .initial) pool) :
    ControlSound service pool := by
  have invariant : ∀ later, Reaches (intakeClients service) pool later →
      IntakeInv service later.state := fun later further =>
    (intake_reaches (run.trans further)).inv
  have inv := invariant pool .refl
  refine ⟨fun intakeId => ⟨inv.once _ (by decide) intakeId, inv.once _ (by decide) intakeId⟩,
    ?_, ?_, ?_, ?_, ?_⟩
  · intro str intakeId recorded listed later further other
    have kept := ((mem_excludedIntakeIds inv str).mp listed).mono (intake_evolves run further).2
    rw [mem_excludedIntakeIds (invariant later further)]
    exact ⟨fun now => excludedFor_unique (invariant later further) now kept,
      fun same => same ▸ kept⟩
  · intro row member recorded isExcluded later further t principal reason now reply idle ended
    obtain ⟨result, rfl, post⟩ := exclude_ended run further idle ended
    obtain ⟨-, -, fresh⟩ | ⟨rfl, silent⟩ := post.answered row member rfl recorded
      (isExcluded.mono (intake_evolves run further).2)
    · exact absurd isExcluded (fresh recorded)
    · exact ⟨rfl, silent⟩
  · intro row member later further t principal reason now reply idle ended
    obtain ⟨result, rfl, post⟩ := exclude_ended run further idle ended
    refine ⟨post.decided row member rfl, fun recorded isExcluded => ?_⟩
    obtain ⟨rfl, same, -⟩ | ⟨rfl, silent⟩ := post.answered row member rfl recorded isExcluded
    · exact .inl ⟨rfl, same⟩
    · exact .inr ⟨rfl, silent⟩
  · intro collate str accepting excluding
    obtain ⟨records, made, unique, members⟩ := mem_officialSet collate str pool.state.view
      accepting.state.view excluding.state.view
    exact ⟨records, made, unique inv.ids, members⟩
  · intro collate str listing accepting later intakeId isExcluded further records made listed
    obtain ⟨found, made', -, members⟩ := mem_officialSet collate str listing.state.view
      accepting.state.view later.state.view
    obtain rfl := Except.ok.inj (made.symm.trans made')
    obtain ⟨row, official, rfl⟩ := List.mem_map.mp listed
    exact ((members row).mp official).2.2.2.2
      (isExcluded.mono (intake_evolves run further).2)

/-! ### An intake that is excluded, and accepted afterwards -/

/-- The calls of a genuine case that is withdrawn before it is accepted, and that another
exclusion follows for a different reason. -/
def withdrawnCalls : List IntakeCall :=
  let operator : Principal := ⟨"operator-1", "t_alpha", ["operator"]⟩
  [.importCase operator genuineCase false, .exclude operator 5 "participant_withdrawal" 0,
    .exclude operator 5 "owner_data_quality_exclusion" 0, .accept operator 5 0]

/-- Which calls return, and the kinds of the events that they leave. -/
def withdrawnEvents : Option (List Bool × List (IntakeId × String)) :=
  ((intakeClients importService).inTurn (fun _ => importInput 5) 0 withdrawnCalls .initial).map
    fun answer => (answer.1.map (·.isOk), answer.2.view.intakeEvents.map fun event =>
      (event.intakeId, event.eventType))

/-- The other reason is turned away; the case is accepted after its exclusion, and is not
official. -/
theorem withdrawn_control_sound : ∃ pool : IntakePool,
    Reaches (intakeClients importService) (Pool.start .initial) pool ∧
      ControlSound importService pool ∧ pool.state.view.HasEvent acceptedForM205 5 ∧
      pool.state.view.HasEvent excluded 5 := by
  have events : withdrawnEvents = some ([true, true, false, true],
      [(5, "shadow_intake_imported"), (5, "excluded"), (5, "accepted_for_m2_05")]) := by
    decide +kernel
  obtain ⟨⟨replies, final⟩, ran, listed⟩ := Option.map_eq_some_iff.mp events
  have start : Reaches (intakeClients importService) (Pool.start .initial) _ := .refl
  obtain ⟨pool, run, rfl, -⟩ := start.inTurn (fun _ _ => rfl) (fun _ _ _ => trivial)
    (fun _ => trivial) ran
  have has : ∀ kind, (5, kind) ∈ [((5 : IntakeId), "shadow_intake_imported"), (5, "excluded"),
      (5, "accepted_for_m2_05")] → pool.state.view.HasEvent kind 5 := by
    intro kind member
    obtain ⟨event, stored, same⟩ := List.mem_map.mp ((Prod.mk.inj listed).2 ▸ member)
    exact ⟨event, stored, congrArg Prod.fst same, congrArg Prod.snd same⟩
  exact ⟨pool, run, intake_control_sound importService pool run,
    has acceptedForM205 (by decide), has excluded (by decide)⟩

end StockoutOps.Shadow
