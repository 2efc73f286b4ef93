import StockoutOps.Shadow.Discipline

/-!
Contract: reasoning about the callers of the shadow repositories.

Owns: the discipline over the whole database, what a caller knows of itself,
one rule for each statement, and one for each repository method.

Does not own: the discipline of the investigation tables (`InvestigationSide`),
and the services.
-/

namespace StockoutOps.Shadow

open StockoutOps.Investigation StockoutOps.Sql StockoutOps.Foundation.Interleaving

/-- What shadow processing uses of the proofs about investigations: a discipline,
what a caller knows when it calls nothing there, and what binds a shadow run to
the investigation it refers to. -/
structure InvestigationSide where
  inner : Discipline Tid Input World
  Ready : Tid → World → Prop
  Linked : World → ShadowRunControl → RunId → Prop
  ready_rely : ∀ t before after, inner.Rely t before after → inner.Inv after →
    Ready t before → Ready t after
  linked_rely : ∀ t before after control runId, inner.Rely t before after → inner.Inv after →
    Linked before control runId → Linked after control runId
  input : ∀ t, ∃ input, inner.Allowed t input

/-- What the whole discipline depends on. -/
structure Setting where
  side : InvestigationSide
  lockKey : String → Int
  models : ShadowModels
  Origin : ShadowRunControl → Prop
  exclusive : Prop

namespace Setting

/-- Every run refers to an investigation that is linked to it. -/
def Links (setting : Setting) (state : ShadowWorld) : Prop :=
  ∀ row ∈ state.shadow.runs, ∀ runId, row.investigationRunId = some runId →
    setting.side.Linked state.world row.toShadowRunControl runId

def discipline (setting : Setting) : Discipline Tid Input ShadowWorld where
  Inv := fun state => setting.side.inner.Inv state.world ∧
    state.shadow.Inv setting.exclusive setting.lockKey setting.models setting.Origin ∧
      setting.Links state
  Rely := fun t before after => setting.side.inner.Rely t before.world after.world ∧
    before.shadow.Rely t after.shadow
  Allowed := setting.side.inner.Allowed
  Waits := fun t state => state.shadow.Waits t ∨ setting.side.inner.Waits t state.world
  refl := fun t state => ⟨setting.side.inner.refl t state.world, .refl t state.shadow⟩
  trans := fun t _ _ _ left right =>
    ⟨setting.side.inner.trans t left.1 right.1, left.2.trans right.2⟩

/-- The judgement about a call of shadow processing. -/
abbrev Safe {ρ : Type} (setting : Setting) (t : Tid) (routine : ShadowRoutine ρ)
    (Post : Except Failure ρ → ShadowWorld → Prop) (state : ShadowWorld) : Prop :=
  setting.discipline.Safe t routine Post state

end Setting

/-- What a caller holds and owes. -/
structure Own where
  locks : List Int
  claim : Option ShadowRunId
  unrecorded : Option Unrecorded
  completed : Option ShadowRunId

/-- A caller before its first statement, and after its last. -/
def Own.nothing : Own := ⟨[], none, none, none⟩

structure Own.Holds (own : Own) (t : Tid) (view : ShadowView) : Prop where
  locks : ∀ key, view.sessionLocks key = some t ↔ key ∈ own.locks
  claim : view.claims t = own.claim
  unrecorded : view.unrecorded t = own.unrecorded
  completed : ∀ shadowRunId, view.completedBy shadowRunId = some t ↔
    own.completed = some shadowRunId

theorem Own.Holds.rely {own : Own} {t : Tid} {before after : ShadowView}
    (holds : own.Holds t before) (relied : before.Rely t after) : own.Holds t after where
  locks := fun key => (relied.locks key).trans (holds.locks key)
  claim := relied.claim.trans holds.claim
  unrecorded := relied.unrecorded.trans holds.unrecorded
  completed := fun id => (relied.completedBy id).trans (holds.completed id)

/-- A row that stays, if it is terminal as it is. -/
def Present (row : ShadowRunRow) (view : ShadowView) : Prop :=
  ∃ next ∈ view.runs, next.toShadowRunControl = row.toShadowRunControl ∧
    (row.status ≠ .started → next = row)

theorem present_of_mem {row : ShadowRunRow} {view : ShadowView} (member : row ∈ view.runs) :
    Present row view := ⟨row, member, rfl, fun _ => rfl⟩

section Rules

variable {setting : Setting} {t : Tid} {state later : ShadowWorld} {own : Own} {ρ α : Type}

/-- What a caller knows between two statements of its own. -/
structure Knows (setting : Setting) (t : Tid) (own : Own) (state : ShadowWorld) : Prop where
  own : own.Holds t state.shadow
  ready : setting.side.Ready t state.world

theorem Knows.rely (knows : Knows setting t own state)
    (relied : setting.discipline.Rely t state later) (inv : setting.discipline.Inv later) :
    Knows setting t own later :=
  ⟨knows.own.rely relied.2, setting.side.ready_rely t _ _ relied.1 inv.1 knows.ready⟩

/-- A statement on the shadow tables keeps the discipline. -/
theorem guarantee_shadow {shadow : ShadowView} (inv : setting.discipline.Inv state)
    (kept : shadow.Inv setting.exclusive setting.lockKey setting.models setting.Origin)
    (links : setting.Links (state.withShadow shadow))
    (others : ∀ u, u ≠ t → state.shadow.Rely u shadow) :
    setting.discipline.Guarantee t state (state.withShadow shadow) :=
  ⟨⟨inv.1, kept, links⟩, fun u other => ⟨setting.side.inner.refl u state.world, others u other⟩⟩

/-- What sequencing asks of the first result. -/
def Goes (setting : Setting) (t : Tid) (follow : α → ShadowRoutine ρ)
    (Post : Except Failure ρ → ShadowWorld → Prop) (result : Except Failure α)
    (state : ShadowWorld) : Prop :=
  match result with
  | .ok value => setting.Safe t (follow value) Post state
  | .error exception => setting.discipline.Settled t Post (.error exception) state

variable {follow : α → ShadowRoutine ρ} {Post : Except Failure ρ → ShadowWorld → Prop}

theorem safe_bind {first : ShadowRoutine α}
    (safe : setting.Safe t first (Goes setting t follow Post) state) :
    setting.Safe t (first >>= follow) Post state := by
  refine Discipline.Safe.call_bind (Discipline.Safe.mono (fun result last _ goes => ?_) safe)
  cases result with
  | ok value => exact goes
  | error exception => exact goes

theorem safe_pure {value : ρ}
    (post : ∀ later, setting.discipline.Rely t state later → setting.discipline.Inv later →
      Post (.ok value) later) :
    setting.Safe t (pure value : ShadowRoutine ρ) Post state := post

theorem safe_raise {exception : Failure}
    (post : ∀ later, setting.discipline.Rely t state later → setting.discipline.Inv later →
      Post (.error exception) later) :
    setting.Safe t (Call.raise exception : ShadowRoutine ρ) Post state := post

theorem safe_settle {result : Except Failure ρ}
    (post : ∀ later, setting.discipline.Rely t state later → setting.discipline.Inv later →
      Post result later) :
    setting.Safe t (settle result) Post state := by
  cases result with
  | ok value => exact post
  | error exception => exact post

theorem safe_settle_bind {result : Except Failure α}
    (ok : ∀ value, result = .ok value → setting.Safe t (follow value) Post state)
    (error : ∀ exception, result = .error exception →
      ∀ later, setting.discipline.Rely t state later → setting.discipline.Inv later →
        Post (.error exception) later) :
    setting.Safe t (settle result >>= follow) Post state := by
  cases result with
  | ok value => exact ok value rfl
  | error exception => exact error exception rfl

/-- One statement: it answers or waits, and its answer keeps the discipline. -/
theorem safe_perform {action : ShadowAction α} (knows : Knows setting t own state)
    (ready : ∀ later, Knows setting t own later → ∀ input,
      (∃ answer, action t input later = some answer) ∨ later.shadow.Waits t)
    (answers : ∀ later, setting.discipline.Rely t state later → setting.discipline.Inv later →
      Knows setting t own later → ∀ input result after,
        action t input later = some (result, after) →
          setting.discipline.Guarantee t later after ∧ Goes setting t follow Post result after) :
    setting.Safe t (perform action >>= follow) Post state := by
  refine safe_bind (Discipline.Safe.exec fun later relied inv => ?_)
  have known := knows.rely relied inv
  refine ⟨?_, fun input result after _ answered => ?_⟩
  · obtain ⟨input, allowed⟩ := setting.side.input t
    rcases ready later known input with ⟨answer, answered⟩ | waits
    · exact .inl ⟨input, answer, allowed, answered⟩
    · exact .inr (.inl waits)
  · obtain ⟨guarantee, goes⟩ := answers later relied inv known input result after answered
    refine ⟨guarantee, ?_⟩
    cases result with
    | ok value => exact fun last relied inv => Discipline.Safe.rely goes relied
    | error exception =>
        exact fun last relied _ next reliedNext =>
          goes next (setting.discipline.trans t relied reliedNext)

/-- A statement that changes nothing. -/
theorem safe_read {action : ShadowAction α} (answer : Input → ShadowWorld → α)
    (reads : ∀ input later, action t input later = some (.ok (answer input later), later))
    (knows : Knows setting t own state)
    (next : ∀ later, setting.discipline.Rely t state later → setting.discipline.Inv later →
      Knows setting t own later → ∀ input,
        setting.Safe t (follow (answer input later)) Post later) :
    setting.Safe t (perform action >>= follow) Post state := by
  refine safe_perform knows (fun later _ input => .inl ⟨_, reads input later⟩) ?_
  intro later relied inv known input result after answered
  rw [reads input later] at answered
  obtain ⟨rfl, rfl⟩ := Prod.mk.inj (Option.some.inj answered)
  exact ⟨.refl inv, next later relied inv known input⟩

end Rules

end StockoutOps.Shadow
