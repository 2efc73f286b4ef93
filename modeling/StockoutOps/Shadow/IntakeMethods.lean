import StockoutOps.Shadow.IntakeControlRules

/-!
Contract: what `accept_for_m2_05` and `exclude` do, whoever else is there.

Owns: the rules of a statement and of a transaction, and the postcondition of each
method.

Does not own: what a whole run makes of them.

A postcondition speaks of the tables as they were before the call: what is recorded
there decides the answer.
-/

namespace StockoutOps.Shadow

open StockoutOps.Investigation StockoutOps.Sql StockoutOps.Foundation.Interleaving

/-! ## Rules -/

/-- `Safe` of a routine. -/
abbrev ShadowService.Safe {ρ : Type} (service : ShadowService) (t : Tid)
    (routine : ControlRoutine ρ) (Post : Except Failure ρ → IntakeWorld → Prop)
    (state : IntakeWorld) : Prop :=
  (intakeDiscipline service).Safe t routine Post state

section Rules

variable {service : ShadowService} {t : Tid} {state : IntakeWorld} {ρ σ : Type}

/-- A statement, and what follows its answer. -/
theorem safe_statement {action : ControlAction ρ} {follow : ρ → ControlRoutine σ}
    {Post : Except Failure σ → IntakeWorld → Prop}
    (acts : ∀ later input result after, IntakeRely service t state later →
      IntakeInv service later → action t input later = some (result, after) →
        (intakeDiscipline service).Guarantee t later after ∧
          match result with
          | .ok value => service.Safe t (follow value) Post after
          | .error exception =>
              (intakeDiscipline service).Settled t Post (.error exception) after) :
    service.Safe t (performControl action >>= follow) Post state := by
  intro later relied inv
  refine ⟨.inr trivial, fun input result after _ answered => ?_⟩
  obtain ⟨guarantee, rest⟩ := acts later input result after relied inv answered
  refine ⟨guarantee, ?_⟩
  cases result with
  | ok value => exact rest
  | error exception => exact rest

/-- How a transaction ends after its body. -/
def Concluding (service : ShadowService) (t : Tid)
    (Post : Except Failure ρ → IntakeWorld → Prop) (result : Except Failure ρ)
    (last : IntakeWorld) : Prop :=
  match result with
  | .ok value => (intakeDiscipline service).Settled t Post (.ok value)
      (last.conclude t (last.pending t).toList)
  | .error exception => (intakeDiscipline service).Settled t Post (.error exception)
      (last.conclude t [])

theorem safe_transaction {body : ControlRoutine ρ}
    {Post : Except Failure ρ → IntakeWorld → Prop}
    (safe : service.Safe t body (Concluding service t Post) state) :
    service.Safe t (transaction body) Post state := by
  refine Discipline.Safe.attempt_bind (Discipline.Safe.mono (fun result last _ ends => ?_)
    (Discipline.Safe.settled safe))
  cases result with
  | ok value =>
      refine safe_statement fun later input result after relied inv answered => ?_
      obtain ⟨rfl, rfl⟩ := Prod.mk.inj (Option.some.inj answered)
      refine ⟨guarantee_conclude inv ?_, ends later relied inv⟩
      cases pending : later.pending t with
      | none => exact .inl rfl
      | some event => exact .inr ⟨event, rfl, rfl⟩
  | error exception =>
      refine safe_statement fun later input result after relied inv answered => ?_
      obtain ⟨rfl, rfl⟩ := Prod.mk.inj (Option.some.inj answered)
      exact ⟨guarantee_conclude inv (.inl rfl), ends later relied inv⟩

end Rules

/-! ## Callers -/

/-- A caller that has not written anything, after what stood in the tables before
its call. -/
structure Ready (before : ShadowView) (t : Tid) (state : IntakeWorld) : Prop where
  free : state.pending t = none
  silent : ∀ event, (t, event) ∉ state.committedBy
  intakes : before.intakes <+: state.view.intakes
  events : before.intakeEvents <+: state.view.intakeEvents

/-- The caller holds the lock of an intake of its tenant. -/
structure Holds (service : ShadowService) (before : ShadowView) (tenantId : String)
    (intakeId : IntakeId) (t : Tid) (state : IntakeWorld) : Prop
    extends Ready before t state where
  owned : state.view.Owns tenantId intakeId
  locked : state.view.sessionLocks (service.controlKey tenantId intakeId) = some t

section Callers

variable {service : ShadowService} {before : ShadowView} {t : Tid} {state later : IntakeWorld}
  {tenantId : String} {intakeId : IntakeId}

theorem Ready.rely (ready : Ready before t state) (relied : IntakeRely service t state later) :
    Ready before t later where
  free := relied.pending.trans ready.free
  silent := fun event own => ready.silent event (relied.own event own)
  intakes := ready.intakes.trans relied.intakes
  events := ready.events.trans relied.events

theorem Holds.rely (holds : Holds service before tenantId intakeId t state)
    (relied : IntakeRely service t state later) :
    Holds service before tenantId intakeId t later where
  toReady := holds.toReady.rely relied
  owned := holds.owned.mono relied.intakes
  locked := relied.locks _ holds.locked

/-- Two control events of a kind of an intake are one. -/
theorem eq_of_eventsOfKind (inv : IntakeInv service state) {kind : String}
    (control : kind ∈ controlKinds) {left right : IntakeEventRow}
    (first : left ∈ state.view.eventsOfKind kind intakeId)
    (second : right ∈ state.view.eventsOfKind kind intakeId) : left = right := by
  have once := inv.once kind control intakeId
  cases events : state.view.eventsOfKind kind intakeId with
  | nil => rw [events] at first; cases first
  | cons head rest =>
      cases rest with
      | nil =>
          rw [events] at first second
          exact (List.mem_singleton.mp first).trans (List.mem_singleton.mp second).symm
      | cons next tail => rw [events] at once; simp at once

/-- What the SELECT of a transaction finds. -/
theorem visible_filter (inv : IntakeInv service state) (free : state.pending t = none)
    (owned : state.view.Owns tenantId intakeId) (kind : String) :
    (state.visible t).filter (isEventOf intakeId tenantId kind) =
      state.view.eventsOfKind kind intakeId := by
  rw [IntakeWorld.visible, free, Option.toList_none, List.append_nil]
  refine List.filter_congr fun event member => ?_
  simp only [isEventOf, Bool.and_assoc]
  cases same : event.intakeId == intakeId with
  | false => rfl
  | true =>
      have tenant := (inv.bound event member).tenant_eq inv.ids (beq_iff_eq.mp same ▸ owned)
      simp [tenant]

theorem excludedFor_unique (inv : IntakeInv service state) {left right : String}
    (first : state.view.ExcludedFor intakeId left)
    (second : state.view.ExcludedFor intakeId right) : left = right := by
  obtain ⟨event, member, id, kind, reason⟩ := first
  obtain ⟨other, otherMember, otherId, otherKind, otherReason⟩ := second
  have same := eq_of_eventsOfKind inv (by decide : excluded ∈ controlKinds)
    (ShadowView.mem_eventsOfKind.mpr ⟨member, id, kind⟩)
    (ShadowView.mem_eventsOfKind.mpr ⟨otherMember, otherId, otherKind⟩)
  rw [same, otherReason] at reason
  exact (Json.str.inj (Option.some.inj reason)).symm

theorem ShadowView.HasEvent.mono {first second : ShadowView} {kind : String}
    (grown : first.intakeEvents <+: second.intakeEvents) (has : first.HasEvent kind intakeId) :
    second.HasEvent kind intakeId := by
  obtain ⟨event, member, same⟩ := has
  exact ⟨event, grown.subset member, same⟩

theorem ShadowView.ExcludedFor.mono {first second : ShadowView} {reason : String}
    (grown : first.intakeEvents <+: second.intakeEvents)
    (recorded : first.ExcludedFor intakeId reason) : second.ExcludedFor intakeId reason := by
  obtain ⟨event, member, same⟩ := recorded
  exact ⟨event, grown.subset member, same⟩

end Callers

/-! ## The methods -/

section Methods

variable {service : ShadowService} {before : ShadowView} {t : Tid} {state : IntakeWorld}
  {principal : Principal} {intakeId : IntakeId} {ρ : Type}

/-- `get` finds the row of the principal's tenant, or there is none. -/
theorem safe_getIntake {follow : ShadowIntakeRow → ControlRoutine ρ}
    {Post : Except Failure ρ → IntakeWorld → Prop} (ready : Ready before t state)
    (found : ∀ later row, IntakeInv service later → Ready before t later →
      row ∈ later.view.intakes → row.intakeId = intakeId → row.tenantId = principal.tenantId →
        service.Safe t (follow row) Post later)
    (missing : ∀ later, IntakeInv service later → Ready before t later →
      (∀ row ∈ later.view.intakes, row.intakeId = intakeId →
        row.tenantId ≠ principal.tenantId) →
          (intakeDiscipline service).Settled t Post (.error (.stockoutOps .notFoundError)) later) :
    service.Safe t (getIntake principal intakeId >>= follow) Post state := by
  refine Discipline.Safe.call_bind (safe_statement fun later input result after relied inv
    answered => ?_)
  obtain ⟨rfl, rfl⟩ := Prod.mk.inj (Option.some.inj answered)
  refine ⟨.refl inv, ?_⟩
  have readyLater := ready.rely relied
  cases selected : later.view.intakes.find? (fun row =>
      row.intakeId == intakeId && row.tenantId == principal.tenantId) with
  | none =>
      refine Discipline.Safe.raise fun last reliedLast _ final reliedFinal invFinal => ?_
      refine missing later inv readyLater (fun row member id tenant => ?_) final
        ((intakeDiscipline service).trans t reliedLast reliedFinal) invFinal
      simpa [id, tenant] using List.find?_eq_none.mp selected row member
  | some row =>
      have same := List.find?_some selected
      simp only [Bool.and_eq_true, beq_iff_eq] at same
      exact Discipline.Safe.pure fun last reliedLast invLast =>
        found last row invLast (readyLater.rely reliedLast)
          (reliedLast.intakes.subset (List.mem_of_find?_eq_some selected)) same.1 same.2

/-- The lock, and the SELECT under it. -/
theorem safe_lockAndSelect {kind : String}
    {follow : Option IntakeEventRow → ControlRoutine ρ}
    {Post : Except Failure ρ → IntakeWorld → Prop} (ready : Ready before t state)
    (owned : state.view.Owns principal.tenantId intakeId)
    (existing : ∀ later event, IntakeInv service later →
      Holds service before principal.tenantId intakeId t later →
        event ∈ later.view.eventsOfKind kind intakeId →
          service.Safe t (follow (some event)) Post later)
    (fresh : ∀ later, IntakeInv service later →
      Holds service before principal.tenantId intakeId t later →
        later.view.eventsOfKind kind intakeId = [] →
          service.Safe t (follow none) Post later) :
    service.Safe t (do
      performControl (advisoryXactLock (service.controlKey principal.tenantId intakeId))
      let found ← performControl (selectLastEvent intakeId principal.tenantId kind)
      follow found) Post state := by
  refine safe_statement fun later input result after relied inv answered => ?_
  unfold advisoryXactLock at answered
  split at answered
  case isFalse => cases answered
  case isTrue free =>
  obtain ⟨rfl, rfl⟩ := Prod.mk.inj (Option.some.inj answered)
  have readyLater := ready.rely relied
  refine ⟨guarantee_plain inv readyLater.free
    (plain_locks inv.ids rfl rfl (locks_setLock free)), ?_⟩
  have holds : Holds service before principal.tenantId intakeId t (later.withView
      (later.view.setLock (service.controlKey principal.tenantId intakeId) (some t))) :=
    ⟨⟨readyLater.free, readyLater.silent, readyLater.intakes, readyLater.events⟩,
      owned.mono relied.intakes, Function.update_self _ _ _⟩
  refine safe_statement fun last input result after relied inv answered => ?_
  obtain ⟨rfl, rfl⟩ := Prod.mk.inj (Option.some.inj answered)
  have holdsLast := holds.rely relied
  refine ⟨.refl inv, ?_⟩
  rw [visible_filter inv holdsLast.free holdsLast.owned]
  cases selected : (last.view.eventsOfKind kind intakeId).getLast? with
  | none => exact fresh last inv holdsLast (List.getLast?_eq_none_iff.mp selected)
  | some event => exact existing last event inv holdsLast (List.mem_of_getLast? selected)

/-- A transaction that ends without having written. -/
theorem safe_unwritten {result : Except Failure ρ} {tenantId : String}
    {Post : Except Failure ρ → IntakeWorld → Prop}
    (holds : Holds service before tenantId intakeId t state)
    (post : ∀ last, IntakeInv service last → Ready before t last →
      state.view.intakeEvents <+: last.view.intakeEvents → Post result last) :
    service.Safe t (Prog.ret result) (Concluding service t Post) state := by
  intro last relied _
  have held := holds.rely relied
  have concluded : (intakeDiscipline service).Settled t Post result (last.conclude t []) := by
    intro final reliedFinal invFinal
    have events := (List.prefix_append last.view.intakeEvents []).trans reliedFinal.events
    have free := reliedFinal.pending.trans (Function.update_self _ _ _)
    refine post final invFinal ⟨free, fun event own => ?_,
      held.intakes.trans reliedFinal.intakes, held.events.trans events⟩
      (relied.events.trans events)
    exact held.silent event (by simpa [IntakeWorld.conclude] using reliedFinal.own event own)
  cases result with
  | ok value =>
      show (intakeDiscipline service).Settled t Post _ (last.conclude t (last.pending t).toList)
      rw [held.free]
      exact concluded
  | error exception => exact concluded

/-- The INSERT of a first event, and the commit that follows. -/
theorem safe_insertPending (event : IntakeEventRow) {value : ρ}
    {Post : Except Failure ρ → IntakeWorld → Prop}
    (holds : Holds service before event.tenantId event.intakeId t state)
    (kind : event.eventType ∈ controlKinds)
    (reason : event.eventType = excluded →
      ∃ reason ∈ exclusionReasonCodes, event.payload = exclusionPayload reason)
    (storable : event.payload.storable = true)
    (first : state.view.eventsOfKind event.eventType event.intakeId = [])
    (post : ∀ last, IntakeInv service last → before.intakes <+: last.view.intakes →
      before.intakeEvents <+: last.view.intakeEvents → event ∈ last.view.intakeEvents →
        Post (.ok value) last) :
    service.Safe t (do
      performControl (insertPending event)
      pure value) (Concluding service t Post) state := by
  refine safe_statement fun later input result after relied inv answered => ?_
  have held := holds.rely relied
  have still : later.view.eventsOfKind event.eventType event.intakeId = [] :=
    (relied.guarded _ _ holds.locked holds.owned _ kind).trans first
  have present : later.view.intakeExists event.intakeId event.tenantId = true := by
    obtain ⟨row, member, same⟩ := held.owned
    exact List.any_eq_true.mpr ⟨row, member, by simp [same]⟩
  unfold insertPending at answered
  simp only [require, storable, present, if_true, bind, Except.bind] at answered
  obtain ⟨rfl, rfl⟩ := Prod.mk.inj (Option.some.inj answered)
  refine ⟨guarantee_insertPending inv ⟨kind, reason, held.owned, held.locked, still⟩, ?_⟩
  refine Discipline.Safe.pure fun last reliedLast invLast => ?_
  have pending : last.pending t = some event :=
    reliedLast.pending.trans (Function.update_self _ _ _)
  show (intakeDiscipline service).Settled t Post (.ok value)
    (last.conclude t (last.pending t).toList)
  rw [pending]
  refine fun final reliedFinal invFinal => post final invFinal ?_ ?_ ?_
  · exact (held.intakes.trans reliedLast.intakes).trans reliedFinal.intakes
  · exact ((held.events.trans reliedLast.events).trans (List.prefix_append _ _)).trans
      reliedFinal.events
  · exact reliedFinal.events.subset (List.mem_append_right _ List.mem_cons_self)

/-- How an acceptance ends: the intake has its event, and where it had one before,
nothing is written. -/
structure AcceptPost (before : ShadowView) (t : Tid) (intakeId : IntakeId)
    (reply : Except Failure ShadowIntakeRow) (state : IntakeWorld) : Prop where
  recorded : ∀ row, reply = .ok row → state.view.HasEvent acceptedForM205 intakeId
  replayed : before.HasEvent acceptedForM205 intakeId → ∀ event, (t, event) ∉ state.committedBy

theorem safe_acceptForM205 (now : Timestamp) (ready : Ready before t state) :
    service.Safe t (service.acceptForM205 principal intakeId now)
      (AcceptPost before t intakeId) state := by
  have refused : ∀ (exception : Failure) last, Ready before t last →
      (intakeDiscipline service).Settled t (AcceptPost before t intakeId) (.error exception) last :=
    fun exception last readyLast later relied _ =>
      ⟨fun _ => nofun, fun _ => (readyLast.rely relied).silent⟩
  refine safe_getIntake ready (fun found row inv readyFound member id tenant => ?_)
    fun later _ readyLater _ => refused _ later readyLater
  subst id
  show service.Safe t (if _ then _ else _) _ _
  split
  · exact Discipline.Safe.raise (refused _ found readyFound)
  refine safe_transaction (safe_lockAndSelect readyFound ⟨row, member, rfl, tenant⟩
    (fun later event invLater holds listed => ?_) fun later invLater holds none_ => ?_)
  · obtain ⟨stored, same, kind⟩ := ShadowView.mem_eventsOfKind.mp listed
    exact safe_unwritten holds fun last _ readyLast events =>
      ⟨fun _ _ => ⟨event, events.subset stored, same, kind⟩, fun _ => readyLast.silent⟩
  · have absent : ¬ before.HasEvent acceptedForM205 row.intakeId := by
      intro has
      obtain ⟨event, listed, same, kind⟩ := has.mono holds.events
      have found := ShadowView.mem_eventsOfKind.mpr ⟨listed, same, kind⟩
      rw [none_] at found
      cases found
    exact safe_insertPending (controlEvent principal row acceptedForM205 acceptedPayload now)
      (tenant ▸ holds) (show acceptedForM205 ∈ controlKinds by decide)
      (fun same => absurd same (show acceptedForM205 ≠ excluded by decide)) rfl none_
      fun last _ _ _ written => ⟨fun _ _ => ⟨_, written, rfl, rfl⟩, fun has => absurd has absent⟩

/-- The answer to an exclusion of an intake that is excluded for `recorded`. -/
def exclusionReply (row : ShadowIntakeRow) (principal : Principal) (reason recorded : String) :
    Except Failure (ShadowIntakeRow × Bool) :=
  if row.tenantId ≠ principal.tenantId then .error (.stockoutOps .notFoundError)
  else if principal.hasRole "operator" = false then .error exclusionForbidden
  else if reason ∉ exclusionReasonCodes then .error exclusionReasonInvalid
  else if reason ≠ recorded then .error exclusionConflict
  else .ok (row, false)

/-- How an exclusion ends: the reason that is recorded decides the answer, whoever
recorded it and whenever; only the call that recorded it itself says so. -/
structure ExcludePost (before : ShadowView) (t : Tid) (principal : Principal)
    (intakeId : IntakeId) (reason : String) (reply : Except Failure (ShadowIntakeRow × Bool))
    (state : IntakeWorld) : Prop where
  recorded : ∀ row created, reply = .ok (row, created) → state.view.ExcludedFor intakeId reason
  answered : ∀ row ∈ before.intakes, row.intakeId = intakeId → ∀ first,
    state.view.ExcludedFor intakeId first →
      (reply = .ok (row, true) ∧ reason = first ∧ ∀ other, ¬ before.ExcludedFor intakeId other) ∨
        (reply = exclusionReply row principal reason first ∧
          ∀ event, (t, event) ∉ state.committedBy)
  /-- Whoever may exclude the intake does not end without a reason for it. -/
  decided : ∀ row ∈ before.intakes, row.intakeId = intakeId →
    row.tenantId = principal.tenantId → principal.hasRole "operator" = true →
      reason ∈ exclusionReasonCodes → ∃ first, state.view.ExcludedFor intakeId first

section Exclusion

variable {reason first : String} {row : ShadowIntakeRow}

/-- Whoever may exclude an intake is told its reason. -/
theorem exclusionReply_of_entitled (tenant : row.tenantId = principal.tenantId)
    (operator : principal.hasRole "operator" = true) (listed : reason ∈ exclusionReasonCodes) :
    exclusionReply row principal reason first =
      if reason ≠ first then .error exclusionConflict else .ok (row, false) := by
  rw [exclusionReply, if_neg (not_not.mpr tenant), if_neg (by simp [operator]),
    if_neg (not_not.mpr listed)]

/-- Only the recorded reason is confirmed. -/
theorem eq_of_exclusionReply {answer : ShadowIntakeRow × Bool}
    (confirmed : exclusionReply row principal reason first = .ok answer) : reason = first := by
  by_contra different
  rw [exclusionReply, if_pos different] at confirmed
  split_ifs at confirmed

/-- A call that is turned away before it looks for the recorded reason. -/
theorem ExcludePost.refused {exception : Failure} (ready : Ready before t state)
    (refuses : ∀ row ∈ before.intakes, row.intakeId = intakeId → ∀ first,
      .error exception = exclusionReply row principal reason first) :
    ExcludePost before t principal intakeId reason (.error exception) state where
  recorded := fun _ _ => nofun
  answered := fun row member id first _ => .inr ⟨refuses row member id first, ready.silent⟩
  decided := by
    intro row member id tenant operator listed
    have confirmed := refuses row member id reason
    rw [exclusionReply_of_entitled tenant operator listed, if_neg (not_not.mpr rfl)] at confirmed
    cases confirmed

/-- A call that found the reason recorded. -/
theorem ExcludePost.observed {reply : Except Failure (ShadowIntakeRow × Bool)}
    (inv : IntakeInv service state) (ready : Ready before t state)
    (known : state.view.ExcludedFor intakeId first)
    (told : reply = exclusionReply row principal reason first)
    (sole : ∀ other ∈ before.intakes, other.intakeId = intakeId → other = row) :
    ExcludePost before t principal intakeId reason reply state where
  recorded := fun _ _ confirmed =>
    eq_of_exclusionReply (told.symm.trans confirmed) ▸ known
  answered := fun other member id last isLast => by
    rw [sole other member id, excludedFor_unique inv isLast known]
    exact .inr ⟨told, ready.silent⟩
  decided := fun _ _ _ _ _ _ => ⟨first, known⟩

/-- A call that recorded its reason. -/
theorem ExcludePost.created (inv : IntakeInv service state)
    (known : state.view.ExcludedFor intakeId reason)
    (fresh : ∀ other, ¬ before.ExcludedFor intakeId other)
    (sole : ∀ other ∈ before.intakes, other.intakeId = intakeId → other = row) :
    ExcludePost before t principal intakeId reason (.ok (row, true)) state where
  recorded := fun _ _ _ => known
  answered := fun other member id last isLast => by
    rw [sole other member id]
    exact .inl ⟨rfl, excludedFor_unique inv known isLast, fresh⟩
  decided := fun _ _ _ _ _ _ => ⟨reason, known⟩

/-- The transaction of a call that may exclude the intake. -/
theorem safe_excludeOwned (now : Timestamp) (ready : Ready before t state)
    (inv : IntakeInv service state) (member : row ∈ state.view.intakes)
    (tenant : row.tenantId = principal.tenantId)
    (operator : principal.hasRole "operator" = true) (listed : reason ∈ exclusionReasonCodes) :
    service.Safe t (transaction do
      performControl (advisoryXactLock (service.controlKey principal.tenantId row.intakeId))
      match ← performControl (selectLastEvent row.intakeId principal.tenantId excluded) with
      | some existing =>
          if reasonOf existing.payload ≠ some (.str reason) then Call.raise exclusionConflict
          else pure (row, false)
      | none => do
          performControl
            (insertPending (controlEvent principal row excluded (exclusionPayload reason) now))
          pure (row, true))
      (ExcludePost before t principal row.intakeId reason) state := by
  have sole : ∀ other ∈ before.intakes, other.intakeId = row.intakeId → other = row :=
    fun other earlier same => List.inj_on_of_nodup_map inv.ids
      (ready.intakes.subset earlier) member same
  refine safe_transaction (safe_lockAndSelect ready ⟨row, member, rfl, tenant⟩
    (fun later event invLater holds found => ?_) fun later invLater holds none_ => ?_)
  · obtain ⟨stored, same, kind⟩ := ShadowView.mem_eventsOfKind.mp found
    obtain ⟨first, -, payload⟩ := invLater.reasons event stored kind
    have known : later.view.ExcludedFor row.intakeId first :=
      ⟨event, stored, same, kind, by rw [payload, reasonOf_exclusionPayload]⟩
    have observed : ∀ reply : Except Failure (ShadowIntakeRow × Bool),
        reply = (if reason ≠ first then .error exclusionConflict else .ok (row, false)) →
          ∀ last, IntakeInv service last → Ready before t last →
            later.view.intakeEvents <+: last.view.intakeEvents →
              ExcludePost before t principal row.intakeId reason reply last :=
      fun reply told last invLast readyLast events =>
        .observed invLast readyLast (known.mono events)
          (told.trans (exclusionReply_of_entitled tenant operator listed).symm) sole
    show service.Safe t (if _ then _ else _) _ _
    rw [payload, reasonOf_exclusionPayload]
    split
    case isTrue different =>
      have other : reason ≠ first := fun equal => different (by rw [equal])
      exact safe_unwritten holds (observed _ (if_pos other).symm)
    case isFalse agrees =>
      have equal : reason = first :=
        (Json.str.inj (Option.some.inj (not_not.mp agrees))).symm
      exact safe_unwritten holds (observed _ (if_neg (not_not.mpr equal)).symm)
  · have fresh : ∀ other, ¬ before.ExcludedFor row.intakeId other := by
      intro other known
      obtain ⟨event, stored, same, kind, -⟩ := known.mono holds.events
      have found := ShadowView.mem_eventsOfKind.mpr ⟨stored, same, kind⟩
      rw [none_] at found
      cases found
    have storable : (exclusionPayload reason).storable = true := by
      simp only [exclusionReasonCodes, List.mem_cons, List.not_mem_nil, or_false] at listed
      rcases listed with rfl | rfl <;> decide
    exact safe_insertPending (controlEvent principal row excluded (exclusionPayload reason) now)
      (tenant ▸ holds) (show excluded ∈ controlKinds by decide)
      (fun _ => ⟨reason, listed, rfl⟩) storable none_
      fun last invLast _ _ written =>
        .created invLast ⟨_, written, rfl, rfl, reasonOf_exclusionPayload reason⟩ fresh sole

theorem safe_exclude (reason : String) (now : Timestamp) (ready : Ready before t state) :
    service.Safe t (service.exclude principal intakeId reason now)
      (ExcludePost before t principal intakeId reason) state := by
  have refused : ∀ (exception : Failure) last, Ready before t last →
      (∀ row ∈ before.intakes, row.intakeId = intakeId → ∀ first,
        .error exception = exclusionReply row principal reason first) →
      (intakeDiscipline service).Settled t (ExcludePost before t principal intakeId reason)
        (.error exception) last :=
    fun exception last readyLast refuses later relied _ =>
      .refused (readyLast.rely relied) refuses
  refine safe_getIntake ready (fun found row inv readyFound member id tenant => ?_)
    fun later _ readyLater missing => refused _ later readyLater fun row member id _ => ?_
  case refine_2 =>
    rw [exclusionReply, if_pos (missing row (readyLater.intakes.subset member) id)]
  subst id
  have owned : ∀ other ∈ before.intakes, other.intakeId = row.intakeId →
      ¬ other.tenantId ≠ principal.tenantId := fun other earlier same => by
    rw [List.inj_on_of_nodup_map inv.ids (readyFound.intakes.subset earlier) member same]
    exact not_not.mpr tenant
  show service.Safe t (if _ then _ else if _ then _ else _) _ _
  split
  case isTrue forbidden =>
    refine Discipline.Safe.raise (refused _ found readyFound fun other earlier same _ => ?_)
    rw [exclusionReply, if_neg (owned other earlier same), if_pos forbidden]
  case isFalse operator =>
  split
  case isTrue invalid =>
    refine Discipline.Safe.raise (refused _ found readyFound fun other earlier same _ => ?_)
    rw [exclusionReply, if_neg (owned other earlier same), if_neg operator, if_pos invalid]
  case isFalse listed =>
  exact safe_excludeOwned now readyFound inv member tenant (Bool.eq_true_of_not_eq_false operator)
    (not_not.mp listed)

end Exclusion

end Methods

end StockoutOps.Shadow
