import StockoutOps.Investigation.Fixtures
import StockoutOps.Shadow.Rules

/-!
Contract: what each method of the shadow repositories does for its caller.

Owns: one rule for locking and unlocking, for `begin_or_observe`, for `complete`
and for `import_or_observe`, on every exit path.

Does not own: the services that call them.
-/

namespace StockoutOps.Shadow

open StockoutOps.Investigation StockoutOps.Sql StockoutOps.Foundation.Interleaving

/-! ## Keys and identities -/

theorem mem_sortedKeys {keys : List Int} {key : Int} : key ∈ sortedKeys keys ↔ key ∈ keys := by
  simp [sortedKeys]

theorem sortedKeys_increasing (keys : List Int) : (sortedKeys keys).Pairwise (· < ·) := by
  have sorted : (sortedKeys keys).Pairwise (· ≤ ·) := by
    have ordered := @List.pairwise_mergeSort Int (fun left right => decide (left ≤ right))
      (fun _ _ _ => by simpa using Int.le_trans) (fun left right => by simpa using Int.le_total _ _)
      keys.dedup
    exact ordered.imp fun le => by simpa using le
  have distinct : (sortedKeys keys).Pairwise (· ≠ ·) :=
    (List.mergeSort_perm keys.dedup _).nodup_iff.mpr (List.nodup_dedup keys)
  exact (sorted.and distinct).imp fun pair => lt_of_le_of_ne pair.1 pair.2

/-- A run that an identity resolves to. -/
def BeginCall.Matches (call : BeginCall) (row : ShadowRunControl) : Prop :=
  row.tenantId = call.principal.tenantId ∧
    (row.idempotencyKey = call.idempotencyKey ∨
      row.caseId = call.caseId ∧ row.caseVersion = call.caseVersion ∧
        row.processorVersion = call.processorVersion)

theorem mem_resolve {view : ShadowView} {call : BeginCall} {row : ShadowRunRow} :
    row ∈ view.resolve call.principal.tenantId call.idempotencyKey call.caseId call.caseVersion
      call.processorVersion ↔ row ∈ view.runs ∧ call.Matches row.toShadowRunControl := by
  simp [ShadowView.resolve, BeginCall.Matches]

theorem runExists_of_mem {view : ShadowView} {row : ShadowRunRow} (member : row ∈ view.runs) :
    view.runExists row.shadowRunId row.tenantId = true :=
  List.any_eq_true.mpr ⟨row, member, by simp⟩

theorem mem_runIds_of_runExists {view : ShadowView} {id : ShadowRunId} {tenantId : String}
    (present : view.runExists id tenantId = true) : id ∈ view.runIds := by
  obtain ⟨row, member, same⟩ := List.any_eq_true.mp present
  simp only [Bool.and_eq_true, beq_iff_eq] at same
  exact List.mem_map.mpr ⟨row, member, same.1⟩

section Rules

variable {setting : Setting} {t : Tid} {state later : ShadowWorld} {own : Own} {ρ : Type}
  {Fact : ShadowView → Prop}

/-- A fact about the runs that survives whatever anybody does. -/
def Lasting (Fact : ShadowView → Prop) : Prop :=
  ∀ before after : ShadowView, before.Extends after → Fact before → Fact after

theorem lasting_true : Lasting (fun _ => True) := fun _ _ _ _ => trivial

theorem lasting_present (row : ShadowRunRow) : Lasting (Present row) := by
  rintro before after grown ⟨middle, member, control, terminal⟩
  obtain ⟨next, nextMember, nextControl, nextTerminal⟩ := grown.1 middle member
  refine ⟨next, nextMember, nextControl.trans control, fun ended => ?_⟩
  obtain rfl := terminal ended
  exact nextTerminal ended

/-! ## Locks -/

theorem safe_lockAll {keys : List Int} {Post : Except Failure Unit → ShadowWorld → Prop}
    (knows : Knows setting t own state) (released : own.claim = none)
    (increasing : keys.Pairwise (· < ·)) (behind : ∀ held ∈ own.locks, ∀ key ∈ keys, held < key)
    (post : ∀ later, setting.discipline.Inv later →
      Knows setting t { own with locks := keys.reverse ++ own.locks } later →
        Post (.ok ()) later) :
    setting.Safe t (lockAll keys) Post state := by
  induction keys generalizing own state with
  | nil => exact safe_pure fun later relied inv => post later inv (knows.rely relied inv)
  | cons key rest inductionHypothesis =>
      obtain ⟨first, others⟩ := List.pairwise_cons.mp increasing
      refine safe_perform knows (fun later known input => ?_)
        fun later relied inv known input result after answered => ?_
      · unfold ShadowAction.advisoryLock
        split
        case isTrue => exact .inl ⟨_, rfl⟩
        case isFalse taken =>
          refine .inr ?_
          cases holder : later.shadow.sessionLocks key with
          | none => simp [available, holder] at taken
          | some u =>
              refine ⟨key, u, ?_, holder, fun held mine => ?_⟩
              · rintro rfl
                simp [available, holder] at taken
              · exact behind held ((known.own.locks held).mp mine) key List.mem_cons_self
      · obtain ⟨free, rfl, rfl⟩ := advisoryLock_cases answered
        have before : later.shadow.sessionLocks key = none ∨
            later.shadow.sessionLocks key = some t := by
          simpa [available] using free
        refine ⟨guarantee_shadow inv (ShadowView.inv_lock inv.2.1 free) inv.2.2
          fun u other => ShadowView.rely_setLock other before (.inr rfl), ?_⟩
        have more : Knows setting t { own with locks := key :: own.locks }
            (later.withShadow (later.shadow.setLock key (some t))) := by
          refine ⟨⟨fun held => ?_, known.own.claim, known.own.unrecorded, known.own.completed⟩,
            known.ready⟩
          by_cases same : held = key
          · simp [ShadowView.setLock, same]
          · simpa [ShadowView.setLock, Function.update_of_ne same, same] using
              known.own.locks held
        refine inductionHypothesis more released others ?_ fun last inv known => post last inv ?_
        · intro held member other later
          rcases List.mem_cons.mp member with rfl | old
          · exact first other later
          · exact behind held old other (List.mem_cons_of_mem _ later)
        · simpa [List.reverse_cons, List.append_assoc] using known

theorem safe_unlockAll {keys : List Int} {Post : Except Failure Unit → ShadowWorld → Prop}
    (knows : Knows setting t own state) (released : own.claim = none) (lasting : Lasting Fact)
    (fact : Fact state.shadow)
    (post : ∀ later locks, setting.discipline.Inv later → Fact later.shadow →
      Knows setting t { own with locks := locks } later → Post (.ok ()) later) :
    setting.Safe t (unlockAll keys) Post state := by
  induction keys generalizing own state with
  | nil =>
      exact safe_pure fun later relied inv =>
        post later own.locks inv (lasting _ _ relied.2.extends_ fact) (knows.rely relied inv)
  | cons key rest inductionHypothesis =>
      refine safe_perform knows (fun later known input => .inl ?_)
        fun later relied inv known input result after answered => ?_
      · unfold ShadowAction.advisoryUnlock
        split <;> exact ⟨_, rfl⟩
      · have kept := lasting _ _ relied.2.extends_ fact
        unfold ShadowAction.advisoryUnlock at answered
        split at answered
        case isTrue held =>
          obtain ⟨rfl, rfl⟩ := Prod.mk.inj (Option.some.inj answered)
          refine ⟨guarantee_shadow inv
            (ShadowView.inv_unlock inv.2.1 held (known.own.claim.trans released)) inv.2.2
            fun u other => ShadowView.rely_setLock other (.inr held) (.inl rfl), ?_⟩
          have less : Knows setting t { own with locks := own.locks.filter (· ≠ key) }
              (later.withShadow (later.shadow.setLock key none)) := by
            refine ⟨⟨fun other => ?_, known.own.claim, known.own.unrecorded,
              known.own.completed⟩, known.ready⟩
            by_cases same : other = key
            · simp [ShadowView.setLock, same]
            · simpa [ShadowView.setLock, Function.update_of_ne same, same] using
                known.own.locks other
          exact inductionHypothesis less released
            (lasting later.shadow _ (ShadowView.Extends.refl later.shadow) kept)
            fun last locks inv fact known => post last locks inv fact known
        case isFalse =>
          obtain ⟨rfl, rfl⟩ := Prod.mk.inj (Option.some.inj answered)
          exact ⟨.refl inv, inductionHypothesis known released kept post⟩

/-- The locks are given back and the session ends. -/
theorem safe_unlockAndClose {keys : List Int}
    {Post : Except Failure Unit → ShadowWorld → Prop} (knows : Knows setting t own state)
    (released : own.claim = none) (lasting : Lasting Fact) (fact : Fact state.shadow)
    (post : ∀ later, setting.discipline.Inv later → Fact later.shadow →
      Knows setting t { own with locks := [] } later → Post (.ok ()) later) :
    setting.Safe t (unlockAndClose keys) Post state := by
  refine safe_bind (safe_unlockAll knows released lasting fact
    fun later locks inv fact known => ?_)
  show setting.Safe t (Call.exec ShadowAction.close) Post later
  refine Discipline.Safe.exec fun last relied inv => ⟨.inl ?_, ?_⟩
  · obtain ⟨input, allowed⟩ := setting.side.input t
    exact ⟨input, _, allowed, rfl⟩
  · intro input result after _ answered
    obtain ⟨rfl, rfl⟩ := Prod.mk.inj (Option.some.inj answered)
    have known := known.rely relied inv
    have kept := lasting _ _ relied.2.extends_ fact
    have guarantee : setting.discipline.Guarantee t last
        (last.withShadow (last.shadow.closeSession t)) :=
      guarantee_shadow inv (ShadowView.inv_closeSession inv.2.1) inv.2.2
        fun u other => ShadowView.rely_closeSession other
    refine ⟨guarantee, fun final relied inv => post final inv ?_ (Knows.rely ?_ relied inv)⟩
    · exact lasting last.shadow _ relied.2.extends_ kept
    · refine ⟨⟨fun key => ?_, ?_, known.own.unrecorded, known.own.completed⟩, known.ready⟩
      · simp [ShadowView.closeSession]
      · simp [ShadowView.closeSession, released]

/-- `with claim:` around a body that keeps the claim to its end. -/
theorem safe_withShadowClaim {keys : List Int} {body : ShadowRoutine ρ}
    {Post : Except Failure ρ → ShadowWorld → Prop}
    (safe : setting.Safe t body (fun result last => ∃ own : Own, ∃ Fact, Lasting Fact ∧
      Fact last.shadow ∧ Knows setting t own last ∧
        ∀ later, setting.discipline.Inv later → Fact later.shadow →
          Knows setting t { own with locks := [], claim := none } later →
            Post result later) state)
    (stable : ∀ result, ∀ before after, setting.discipline.Rely t before after →
      setting.discipline.Inv after → Post result before → Post result after) :
    setting.Safe t (withShadowClaim keys body) Post state := by
  refine Discipline.Safe.attempt_bind (Discipline.Safe.mono (fun result last inv held => ?_) safe)
  obtain ⟨own, Fact, lasting, fact, knows, post⟩ := held
  refine safe_bind ?_
  refine safe_perform knows (fun later known input => .inl ⟨_, rfl⟩)
    fun later relied inv known input answer after answered => ?_
  obtain ⟨rfl, rfl⟩ := Prod.mk.inj (Option.some.inj answered)
  have kept := lasting _ _ relied.2.extends_ fact
  refine ⟨guarantee_shadow inv (ShadowView.inv_release inv.2.1) inv.2.2
    fun u other => ShadowView.rely_setClaim other, ?_⟩
  have free : Knows setting t { own with claim := none }
      (later.withShadow (later.shadow.setClaim t none)) :=
    ⟨⟨known.own.locks, Function.update_self _ _ _, known.own.unrecorded, known.own.completed⟩,
      known.ready⟩
  refine safe_unlockAndClose free rfl lasting
    (lasting later.shadow _ (ShadowView.Extends.refl later.shadow) kept)
    fun final inv fact known => ?_
  exact safe_settle fun end_ relied invEnd =>
    stable result final end_ relied invEnd (post final inv fact known)

/-! ## `begin_or_observe` -/

/-- What an admitted call brings: its run is one that may be there, and a run of
its payload is one of its case. -/
structure BeginCall.Admitted (setting : Setting) (call : BeginCall) : Prop where
  origin : ∀ id, setting.Origin (call.startedRow id).toShadowRunControl
  sameCase : setting.exclusive → ∀ control, setting.Origin control →
    control.tenantId = call.principal.tenantId → control.payloadHash = call.payloadHash →
      control.caseLockName = call.caseLockName

/-- A run that answers a call. -/
structure BeginCall.Answers (call : BeginCall) (row : ShadowRunRow) (view : ShadowView) : Prop where
  payload : row.payloadHash = call.payloadHash
  identity : call.Matches row.toShadowRunControl
  present : Present row view

theorem BeginCall.lasting_answers (call : BeginCall) (row : ShadowRunRow) :
    Lasting (call.Answers row) :=
  fun before after grown answers =>
    ⟨answers.payload, answers.identity, lasting_present row before after grown answers.present⟩

/-- A caller that has begun holds the claim of a started run, or knows a run that
has ended; a caller that has failed holds nothing but `locks`. -/
def BeginPost (setting : Setting) (t : Tid) (call : BeginCall) (keys locks : List Int) :
    Except Failure Begun → ShadowWorld → Prop
  | .ok (run, some claimed, _), last => claimed = keys ∧
      Knows setting t ⟨keys.reverse, some run.shadowRunId, none, none⟩ last ∧
        run.status = .started ∧ call.Answers run last.shadow
  | .ok (run, none, _), last => Knows setting t .nothing last ∧
      ∃ row : ShadowRunRow, run = row.record ∧ row.status ≠ .started ∧ call.Answers row last.shadow
  | .error _, last => Knows setting t ⟨locks, none, none, none⟩ last

theorem BeginPost.rely {call : BeginCall} {keys locks : List Int}
    (result : Except Failure Begun) (post : BeginPost setting t call keys locks result state)
    (relied : setting.discipline.Rely t state later) (inv : setting.discipline.Inv later) :
    BeginPost setting t call keys locks result later := by
  rcases result with exception | ⟨run, claimed, created⟩
  · exact Knows.rely post relied inv
  · cases claimed with
    | none =>
        obtain ⟨knows, row, record, ended, answers⟩ := post
        exact ⟨knows.rely relied inv, row, record, ended,
          call.lasting_answers row _ _ relied.2.extends_ answers⟩
    | some locked =>
        obtain ⟨same, knows, started, answers⟩ := post
        exact ⟨same, knows.rely relied inv, started,
          call.lasting_answers run _ _ relied.2.extends_ answers⟩

section Begin

variable {call : BeginCall} {keys : List Int}

/-- The claim of a run whose case lock is held. -/
theorem safe_openClaim (row : ShadowRunRow) {follow : Unit → ShadowRoutine ρ}
    {Post : Except Failure ρ → ShadowWorld → Prop} (knows : Knows setting t own state)
    (answers : call.Answers row state.shadow)
    (lock : setting.exclusive → setting.lockKey row.caseLockName ∈ own.locks)
    (next : ∀ later, Knows setting t { own with claim := some row.shadowRunId } later →
      call.Answers row later.shadow → setting.Safe t (follow ()) Post later) :
    setting.Safe t (perform (ShadowAction.openClaim row.shadowRunId) >>= follow) Post state := by
  refine safe_perform knows (fun later known input => .inl ⟨_, rfl⟩)
    fun later relied inv known input result after answered => ?_
  obtain ⟨rfl, rfl⟩ := Prod.mk.inj (Option.some.inj answered)
  have found := call.lasting_answers row _ _ relied.2.extends_ answers
  obtain ⟨held, member, control, -⟩ := found.present
  have opened := ShadowView.inv_openClaim inv.2.1 member
    fun sole => (known.own.locks _).mpr (by rw [control]; exact lock sole)
  rw [control] at opened
  refine ⟨guarantee_shadow inv opened inv.2.2 fun u other => ShadowView.rely_setClaim other, ?_⟩
  exact next _ ⟨⟨known.own.locks, Function.update_self _ _ _, known.own.unrecorded,
    known.own.completed⟩, known.ready⟩
    (call.lasting_answers row later.shadow _ (ShadowView.Extends.refl later.shadow) found)

theorem safe_observeRun {row : ShadowRunRow} (admitted : call.Admitted setting)
    (keysOf : keys = call.keys setting.lockKey)
    (knows : Knows setting t ⟨keys.reverse, none, none, none⟩ state)
    (origin : setting.Origin row.toShadowRunControl)
    (identity : call.Matches row.toShadowRunControl) (present : Present row state.shadow) :
    setting.Safe t (observeRun call keys row)
      (BeginPost setting t call keys keys.reverse) state := by
  unfold observeRun
  split
  case isTrue other =>
    refine safe_perform knows (fun later known input => .inl (answerOf_isSome _ _))
      fun later relied inv known input result after answered => ?_
    rcases insertShadowEvent_cases answered with
      ⟨rfl, rfl, exists_⟩ | ⟨⟨error, rfl⟩, rfl, -⟩
    · refine ⟨guarantee_shadow inv (ShadowView.inv_otherEvent inv.2.1 known.own.unrecorded
        (mem_runIds_of_runExists exists_) (by simp [BeginCall.rejectedEvent, BeginCall.event])
        (by simp [BeginCall.rejectedEvent, BeginCall.event])) inv.2.2
        fun u other => ShadowView.rely_addEvent other, ?_⟩
      refine safe_raise fun last relied inv => Knows.rely ?_ relied inv
      exact ⟨⟨known.own.locks, known.own.claim, Function.update_self _ _ _,
        known.own.completed⟩, known.ready⟩
    · exact ⟨.refl inv, fun last relied inv => known.rely relied inv⟩
  case isFalse same =>
    have answers : call.Answers row state.shadow := ⟨not_not.mp same, identity, present⟩
    split
    case isTrue ended =>
      refine safe_bind (safe_unlockAndClose knows rfl (call.lasting_answers row) answers
        fun later inv answers known => ?_)
      exact safe_pure fun last relied inv => BeginPost.rely (.ok (_, none, false))
        ⟨known, row, rfl, ended, answers⟩ relied inv
    case isFalse open_ =>
      have isStarted : row.status = .started := not_not.mp open_
      refine safe_openClaim row knows answers (fun sole => ?_) fun later known answers => ?_
      · have name := admitted.sameCase sole _ origin identity.1 answers.payload
        rw [name]
        simp [keysOf, BeginCall.keys, mem_sortedKeys]
      · refine safe_pure fun last relied inv => BeginPost.rely (.ok (_, some keys, false))
          ⟨rfl, known, isStarted, answers.payload, answers.identity, ?_⟩ relied inv
        obtain ⟨held, member, control, -⟩ := answers.present
        exact ⟨held, member, control, fun ended => absurd isStarted ended⟩

theorem startedEvent_storable (call : BeginCall) (run : ShadowRunRow) :
    (call.startedEvent run).payload.storable = true := by
  show Json.storable (.obj _) = true
  decide

theorem safe_startRun (admitted : call.Admitted setting)
    (keysOf : keys = call.keys setting.lockKey)
    (knows : Knows setting t ⟨keys.reverse, none, none, none⟩ state) :
    setting.Safe t (startRun call keys) (BeginPost setting t call keys keys.reverse) state := by
  refine safe_read (fun input _ => input.uuid) (fun _ _ => rfl) knows
    fun later relied inv known input => ?_
  refine safe_perform known (fun later known input => .inl (answerOf_isSome _ _))
    fun later relied inv known input' result after answered => ?_
  rcases insertStarted_cases answered with ⟨rfl, rfl, id, key, case⟩ | ⟨error, rfl, rfl⟩
  · have inserted := ShadowView.inv_addRun inv.2.1 known.own.unrecorded
      (admitted.origin input.uuid) rfl rfl id key case
    refine ⟨guarantee_shadow inv inserted ?_ fun u other => ShadowView.rely_addRun other, ?_⟩
    · intro row member runId linked
      rcases List.mem_append.mp member with old | new
      · exact inv.2.2 row old runId linked
      · obtain rfl := List.mem_singleton.mp new
        cases linked
    · have owes : Knows setting t ⟨keys.reverse, none, some (.run input.uuid), none⟩
          (later.withShadow (later.shadow.addRun t (call.startedRow input.uuid))) :=
        ⟨⟨known.own.locks, known.own.claim, Function.update_self _ _ _, known.own.completed⟩,
          known.ready⟩
      have present : Present (call.startedRow input.uuid)
          (later.shadow.addRun t (call.startedRow input.uuid)) :=
        present_of_mem (List.mem_append_right _ (List.mem_singleton_self _))
      refine safe_perform owes (fun later known input => .inl (answerOf_isSome _ _))
        fun last relied inv known input' result after answered => ?_
      have found := lasting_present _ _ _ relied.2.extends_ present
      rcases insertShadowEvent_cases answered with
        ⟨rfl, rfl, -⟩ | ⟨⟨error, rfl⟩, rfl, refused⟩
      · refine ⟨guarantee_shadow inv (ShadowView.inv_startedEvent inv.2.1 known.own.unrecorded rfl)
          inv.2.2 fun u other => ShadowView.rely_addEvent other, ?_⟩
        have recorded : Knows setting t ⟨keys.reverse, none, none, none⟩
            (last.withShadow (last.shadow.addEvent t
              (call.startedEvent (call.startedRow input.uuid).record))) :=
          ⟨⟨known.own.locks, known.own.claim, Function.update_self _ _ _, known.own.completed⟩,
            known.ready⟩
        have answers : call.Answers (call.startedRow input.uuid) (last.shadow.addEvent t
            (call.startedEvent (call.startedRow input.uuid).record)) :=
          ⟨rfl, ⟨rfl, .inl rfl⟩, found⟩
        refine safe_openClaim (call.startedRow input.uuid) recorded answers (fun _ => ?_)
          fun end_ known answers => ?_
        · have name : (call.startedRow input.uuid).caseLockName = call.caseLockName := rfl
          rw [name]
          simp [keysOf, BeginCall.keys, mem_sortedKeys]
        · refine safe_pure fun final relied inv => BeginPost.rely (.ok (_, some keys, true))
            ⟨rfl, known, rfl, rfl, ⟨rfl, .inl rfl⟩, ?_⟩ relied inv
          obtain ⟨held, member, control, -⟩ := answers.present
          exact ⟨held, member, control, fun ended => absurd rfl ended⟩
      · refine absurd ⟨startedEvent_storable _ _, ?_⟩ refused
        obtain ⟨held, member, control, -⟩ := found
        have exists_ := runExists_of_mem member
        rwa [show held.shadowRunId = input.uuid from congrArg (·.shadowRunId) control,
          show held.tenantId = call.principal.tenantId from congrArg (·.tenantId) control]
          at exists_
  · exact ⟨.refl inv, fun last relied inv => known.rely relied inv⟩

theorem safe_observeOrStart (admitted : call.Admitted setting)
    (knows : Knows setting t .nothing state) :
    setting.Safe t (observeOrStart call (call.keys setting.lockKey))
      (BeginPost setting t call (call.keys setting.lockKey) (call.keys setting.lockKey).reverse)
      state := by
  refine safe_bind (safe_lockAll knows rfl (sortedKeys_increasing _) (fun _ => nofun)
    fun later inv known => ?_)
  have held : Knows setting t ⟨(call.keys setting.lockKey).reverse, none, none, none⟩ later := by
    simpa [Own.nothing] using known
  refine safe_read (fun _ state => (state.shadow.resolve call.principal.tenantId
    call.idempotencyKey call.caseId call.caseVersion call.processorVersion).mergeSort
      (fun left right => left.shadowRunId ≤ right.shadowRunId)) (fun _ _ => rfl) held
    fun last relied inv known input => ?_
  split
  case h_1 => exact safe_startRun admitted rfl known
  case h_2 row only =>
    have found : row ∈ last.shadow.resolve call.principal.tenantId call.idempotencyKey
        call.caseId call.caseVersion call.processorVersion := by
      rw [← List.mem_mergeSort, only]
      exact List.mem_singleton_self row
    obtain ⟨member, identity⟩ := mem_resolve.mp found
    exact safe_observeRun admitted rfl known (inv.2.1.identified.origin row member) identity
      (present_of_mem member)
  case h_3 => exact safe_raise fun end_ relied inv => known.rely relied inv

theorem safe_beginOrObserve (admitted : call.Admitted setting)
    (knows : Knows setting t .nothing state) :
    setting.Safe t (beginOrObserve setting.lockKey call)
      (BeginPost setting t call (call.keys setting.lockKey) []) state := by
  refine Discipline.Safe.attempt_bind (Discipline.Safe.mono (fun result last inv post => ?_)
    (safe_observeOrStart admitted knows))
  cases result with
  | ok begun =>
      obtain ⟨run, claimed, created⟩ := begun
      refine safe_pure fun later relied inv => ?_
      have kept := BeginPost.rely _ post relied inv
      cases claimed with
      | none => exact kept
      | some locked => exact kept
  | error exception =>
      refine safe_bind (safe_unlockAndClose post rfl lasting_true trivial
        fun later inv _ known => ?_)
      exact safe_raise fun final relied inv => known.rely relied inv

end Begin

/-! ## `complete` -/

/-- A completed run stays, and its caller remembers; a refusal changes nothing. -/
def CompletePost (setting : Setting) (t : Tid) (own : Own) (call : CompleteCall) :
    Except Failure ShadowRunRow → ShadowWorld → Prop
  | .ok row, last => Knows setting t { own with completed := some call.run.shadowRunId } last ∧
      ∃ done : ShadowRunRow, row = done.record ∧ done.status ≠ .started ∧
        done.toShadowRunControl = call.run.toShadowRunControl ∧ Present done last.shadow
  | .error _, last => Knows setting t own last

theorem CompletePost.rely {call : CompleteCall} (result : Except Failure ShadowRunRow)
    (post : CompletePost setting t own call result state)
    (relied : setting.discipline.Rely t state later) (inv : setting.discipline.Inv later) :
    CompletePost setting t own call result later := by
  cases result with
  | error exception => exact Knows.rely post relied inv
  | ok row =>
      obtain ⟨knows, done, record, ended, control, present⟩ := post
      exact ⟨knows.rely relied inv, done, record, ended, control,
        lasting_present done _ _ relied.2.extends_ present⟩

theorem safe_complete {call : CompleteCall} (knows : Knows setting t own state)
    (pending : own.completed = none) (present : Present call.run state.shadow)
    (linked : setting.side.Linked state.world call.run.toShadowRunControl
      call.investigationRunId) :
    setting.Safe t (complete setting.models call) (CompletePost setting t own call) state := by
  refine safe_perform knows (fun later known input => .inl (answerOf_isSome _ _))
    fun later relied inv known input result after answered => ?_
  rcases completeShadowRun_cases answered with
    ⟨rfl, rfl | ⟨error, rfl⟩⟩ | ⟨row, member, started, rfl, completed, rfl⟩
  · exact ⟨.refl inv, safe_raise fun last relied inv => known.rely relied inv⟩
  · exact ⟨.refl inv, fun last relied inv => known.rely relied inv⟩
  · have kept := setting.side.linked_rely t _ _ _ _ relied.1 inv.1 linked
    have control : row.toShadowRunControl = call.run.toShadowRunControl := by
      obtain ⟨held, heldMember, same, -⟩ := lasting_present _ _ _ relied.2.extends_ present
      have id : held.shadowRunId = call.run.shadowRunId := congrArg (·.shadowRunId) same
      obtain rfl := ShadowView.row_eq_of_id inv.2.1.runs heldMember member
        (id.trans (isStarted_iff.mp started).1.symm)
      exact same
    refine ⟨guarantee_shadow inv (ShadowView.inv_afterCompletion inv.2.1 member started) ?_
      fun u other => ShadowView.rely_afterCompletion other inv.2.1.outcomes member started
        inv.2.1.runs, ?_⟩
    · intro next nextMember runId link
      rcases ShadowView.mem_completedRuns.mp nextMember with ⟨old, -⟩ | ⟨old, oldMember, same, rfl⟩
      · exact inv.2.2 next old runId link
      · obtain rfl := ShadowView.row_eq_of_id inv.2.1.runs oldMember member
          ((isStarted_iff.mp same).1.trans (isStarted_iff.mp started).1.symm)
        obtain rfl := Option.some.inj link
        rw [ShadowRunRow.withOutcome_control, control]
        exact kept
    · have post : CompletePost setting t own call
          (.ok (row.withOutcome (call.outcome setting.models)).record)
          (later.withShadow (ShadowView.afterCompletion setting.models later.shadow t call)) := by
        refine ⟨⟨⟨known.own.locks, known.own.claim, known.own.unrecorded, fun id => ?_⟩,
          known.ready⟩, row.withOutcome (call.outcome setting.models), rfl, completed.terminal,
          control, present_of_mem ?_⟩
        · by_cases same : id = call.run.shadowRunId
          · simp [ShadowView.addCompletion, same]
          · simpa [ShadowView.addCompletion, Function.update_of_ne same, Ne.symm same, pending]
              using known.own.completed id
        · exact ShadowView.mem_completedRuns.mpr (.inr ⟨row, member, started, rfl⟩)
      exact safe_pure fun last relied inv => CompletePost.rely _ post relied inv

/-! ## `import_or_observe` -/

section Import

variable {call : ImportCall} {locks : List Int}

/-- An event about an intake that is there already. -/
theorem safe_otherIntakeEvent {event : IntakeEventRow} {follow : Unit → ShadowRoutine ρ}
    {Post : Except Failure ρ → ShadowWorld → Prop}
    (knows : Knows setting t ⟨locks, none, none, none⟩ state)
    (kind : event.eventType ≠ "shadow_intake_imported")
    (next : ∀ later, Knows setting t ⟨locks, none, none, none⟩ later →
      setting.Safe t (follow ()) Post later)
    (refused : ∀ exception later, Knows setting t ⟨locks, none, none, none⟩ later →
      Post (.error exception) later) :
    setting.Safe t (perform (ShadowAction.insertIntakeEvent event) >>= follow) Post state := by
  refine safe_perform knows (fun later known input => .inl (answerOf_isSome _ _))
    fun later relied inv known input result after answered => ?_
  rcases insertIntakeEvent_cases answered with ⟨rfl, rfl, -⟩ | ⟨⟨error, rfl⟩, rfl, -⟩
  · refine ⟨guarantee_shadow inv (ShadowView.inv_otherIntakeEvent inv.2.1 known.own.unrecorded kind)
      inv.2.2 fun u other => ShadowView.rely_addIntakeEvent other, next _ ?_⟩
    exact ⟨⟨known.own.locks, known.own.claim, Function.update_self _ _ _, known.own.completed⟩,
      known.ready⟩
  · exact ⟨.refl inv, fun last relied inv => refused _ last (known.rely relied inv)⟩

/-- The payload hash of an import is a digest, which has no NUL character. -/
theorem importedEvent_storable (hex : isHex64 call.payloadHash = true) (row : ShadowIntakeRow) :
    (call.importedEvent row).payload.storable = true := by
  have text : storableText call.payloadHash = true := storableText_of_isHex64 hex
  have plain : storableText "execute" = true ∧ storableText "external_action_count" = true ∧
      storableText "payload_hash" = true ∧ storableText "accepted_for_m2_05" = true := by decide
  simp [ImportCall.importedEvent, ImportCall.event, Json.storable, Json.storableMembers, text,
    plain]

theorem safe_observeOrImport (admitted : isHex64 call.payloadHash = true)
    (knows : Knows setting t ⟨locks, none, none, none⟩ state) :
    setting.Safe t (observeOrImport call)
      (fun _ last => Knows setting t ⟨locks, none, none, none⟩ last) state := by
  refine safe_read (fun _ state => state.shadow.intakes.find? fun row =>
    row.caseIdentity == (call.principal.tenantId, call.case.caseId, call.case.caseVersion))
    (fun _ _ => rfl) knows fun later relied inv known input => ?_
  split
  case h_1 row _ =>
    split
    case isTrue =>
      exact safe_otherIntakeEvent known (by simp [ImportCall.rejectedEvent, ImportCall.event])
        (fun last known => safe_raise fun end_ relied inv => known.rely relied inv)
        fun _ _ known => known
    case isFalse =>
      exact safe_otherIntakeEvent known (by simp [ImportCall.replayedEvent, ImportCall.event])
        (fun last known => safe_pure fun end_ relied inv => known.rely relied inv)
        fun _ _ known => known
  case h_2 =>
    refine safe_read (fun input _ => input.uuid) (fun _ _ => rfl) known
      fun later relied inv known input => ?_
    refine safe_perform known (fun later known input => .inl (answerOf_isSome _ _))
      fun later relied inv known input' result after answered => ?_
    rcases insertIntake_cases answered with ⟨rfl, rfl, fresh⟩ | ⟨error, rfl, rfl⟩
    · refine ⟨guarantee_shadow inv (ShadowView.inv_addIntake inv.2.1 known.own.unrecorded fresh)
        inv.2.2 fun u other => ShadowView.rely_addIntake other, ?_⟩
      have owes : Knows setting t ⟨locks, none, some (.intake input.uuid), none⟩
          (later.withShadow (later.shadow.addIntake t (call.intakeRow input.uuid))) :=
        ⟨⟨known.own.locks, known.own.claim, Function.update_self _ _ _, known.own.completed⟩,
          known.ready⟩
      have stored : call.intakeRow input.uuid ∈
          (later.shadow.addIntake t (call.intakeRow input.uuid)).intakes :=
        List.mem_append_right _ (List.mem_singleton_self _)
      refine safe_perform owes (fun later known input => .inl (answerOf_isSome _ _))
        fun last relied inv known input' result after answered => ?_
      rcases insertIntakeEvent_cases answered with ⟨rfl, rfl, -⟩ | ⟨⟨error, rfl⟩, rfl, refused⟩
      · refine ⟨guarantee_shadow inv
          (ShadowView.inv_importedEvent inv.2.1 known.own.unrecorded rfl)
          inv.2.2 fun u other => ShadowView.rely_addIntakeEvent other, ?_⟩
        refine safe_pure fun end_ relied inv => Knows.rely ?_ relied inv
        exact ⟨⟨known.own.locks, known.own.claim, Function.update_self _ _ _,
          known.own.completed⟩, known.ready⟩
      · refine absurd ⟨?_, ?_⟩ refused
        · exact importedEvent_storable admitted _
        · exact List.any_eq_true.mpr ⟨_, relied.2.extends_.2 _ stored, by
            simp [ImportCall.importedEvent, ImportCall.event, ImportCall.intakeRow]⟩
    · exact ⟨.refl inv, fun last relied inv => known.rely relied inv⟩

theorem safe_importOrObserve (admitted : isHex64 call.payloadHash = true)
    (knows : Knows setting t .nothing state) :
    setting.Safe t (importOrObserve setting.lockKey call)
      (fun _ last => Knows setting t .nothing last) state := by
  have body : setting.Safe t (lockAll (sortedKeys [setting.lockKey call.lockName]) >>=
      fun _ => observeOrImport call) (fun _ last => Knows setting t
        ⟨(sortedKeys [setting.lockKey call.lockName]).reverse, none, none, none⟩ last) state := by
    refine safe_bind (safe_lockAll knows rfl (sortedKeys_increasing _) (fun _ => nofun)
      fun later inv known => safe_observeOrImport admitted ?_)
    simpa [Own.nothing] using known
  refine Discipline.Safe.attempt_bind (Discipline.Safe.mono (fun result last inv known => ?_) body)
  refine safe_bind (safe_unlockAndClose known rfl lasting_true trivial
    fun later inv _ known => ?_)
  exact safe_settle fun final relied inv => known.rely relied inv

end Import

end Rules

end StockoutOps.Shadow
