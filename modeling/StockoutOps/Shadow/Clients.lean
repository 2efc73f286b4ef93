import StockoutOps.Investigation.Clients
import StockoutOps.Shadow.ServiceRules

/-!
Contract: any number of callers of shadow processing, some of which may die.

Owns: the calls, the system they form with its crashes, and the soundness of
the discipline for every reachable pool of calls.

Does not own: the discipline of the investigation tables; `Serves` states what
each call needs of it.
-/

namespace StockoutOps.Shadow

open StockoutOps.Investigation StockoutOps.Sql StockoutOps.Foundation.Interleaving

inductive ShadowCall where
  | process (arguments : ProcessArguments)
  | importCase (principal : Principal) (case : ShadowCase) (execute : Bool)
  | intake (principal : Principal) (arguments : IntakeArguments)
  | review (principal : Principal) (runId : RunId) (request : ReviewRequest)
      (idempotencyKey : String)

inductive ShadowReply where
  | result (value : ShadowResult)
  | imported (record : ShadowIntakeRow) (created : Bool)
  | taken (run : RunRow) (created : Bool)
  | reviewed (run : RunRow)

namespace ShadowService

variable (service : ShadowService) (fuel : Nat)

/-- The method a call names. -/
def run : ShadowCall → ShadowRoutine ShadowReply
  | .process arguments => do
      let value ← service.process fuel arguments
      pure (.result value)
  | .importCase principal case execute => do
      let (record, created) ← service.importCase principal case execute
      pure (.imported record created)
  | .intake principal arguments => do
      let (run, created) ← onInvestigations
        (service.investigation.intake principal fuel arguments)
      pure (.taken run created)
  | .review principal runId request idempotencyKey => do
      let run ← onInvestigations
        (service.investigation.review principal runId request idempotencyKey)
      pure (.reviewed run)

end ShadowService

/-- Calls in any order; a caller may crash between any two statements where
`Crashes` says so. -/
def shadowClients (service : ShadowService) (fuel : Nat) (Starts : Tid → ShadowCall → Prop)
    (Allowed : Tid → Input → Prop) (Crashes : Tid → ShadowWorld → Prop) :
    System ShadowCall Tid Input ShadowWorld (Except Failure ShadowReply) where
  body := service.run fuel
  Starts := Starts
  Allowed := Allowed
  Crash := fun t before after => Crashes t before ∧ after = before.crash t
  Disturb := fun _ _ => False

abbrev ShadowPool := Pool ShadowCall Tid Input ShadowWorld (Except Failure ShadowReply)

/-- The database after the migrations, with nobody connected. -/
def ShadowWorld.initial : ShadowWorld := ⟨World.initial, ShadowView.empty⟩

section Soundness

variable {setting : Setting} {service : ShadowService} {fuel : Nat} {t : Tid}
  {state : ShadowWorld}

/-- What each call needs of the investigation side; `Direct` is what a call of the
investigation service is left with. -/
def Serves (setting : Setting) (service : ShadowService) (fuel : Nat)
    (Direct : ShadowCall → Except Failure RunRow → World → Prop) : ShadowCall → Prop
  | .process arguments =>
      (∀ now, (service.beginCall arguments now).Admitted setting) ∧
        Nested setting service fuel arguments
  | .importCase _ _ _ => True
  | .intake principal arguments => ∀ t world, setting.side.inner.Inv world →
      setting.side.Ready t world → setting.side.inner.Safe t
        (show Prog Tid Input World (Except Failure (RunRow × Bool)) from
          service.investigation.intake principal fuel arguments)
        (fun result last => setting.side.Ready t last ∧
          Direct (.intake principal arguments) (result.map Prod.fst) last) world
  | .review principal runId request idempotencyKey => ∀ t world,
      setting.side.inner.Inv world → setting.side.Ready t world → setting.side.inner.Safe t
        (show Prog Tid Input World (Except Failure RunRow) from
          service.investigation.review principal runId request idempotencyKey)
        (fun result last => setting.side.Ready t last ∧
          Direct (.review principal runId request idempotencyKey) result last) world

/-- How a call leaves its caller. -/
def CallPost (setting : Setting) (service : ShadowService)
    (Direct : ShadowCall → Except Failure RunRow → World → Prop) (t : Tid) :
    ShadowCall → Except Failure ShadowReply → ShadowWorld → Prop
  | .process arguments, reply, last => ∃ result : Except Failure ShadowResult,
      reply = result.map ShadowReply.result ∧ ProcessPost setting service t arguments result last
  | .importCase _ _ _, _, last => Knows setting t .nothing last
  | .intake principal arguments, reply, last => Knows setting t .nothing last ∧
      ∃ result : Except Failure (RunRow × Bool),
        reply = result.map (fun taken => ShadowReply.taken taken.1 taken.2) ∧
          Direct (.intake principal arguments) (result.map Prod.fst) last.world
  | .review principal runId request idempotencyKey, reply, last => Knows setting t .nothing last ∧
      ∃ result : Except Failure RunRow, reply = result.map ShadowReply.reviewed ∧
        Direct (.review principal runId request idempotencyKey) result last.world

/-- Whatever a call was, its caller holds no lock and owes nothing. -/
theorem CallPost.free {Direct : ShadowCall → Except Failure RunRow → World → Prop}
    {call : ShadowCall} {reply : Except Failure ShadowReply}
    (post : CallPost setting service Direct t call reply state) :
    ∃ completed, Knows setting t ⟨[], none, none, completed⟩ state := by
  cases call with
  | process arguments =>
      obtain ⟨result, -, completed, knows, -⟩ := post
      exact ⟨completed, knows⟩
  | importCase principal case execute => exact ⟨none, post⟩
  | intake principal arguments => exact ⟨none, post.1⟩
  | review principal runId request idempotencyKey => exact ⟨none, post.1⟩

/-- A call whose value is only renamed. -/
theorem safe_rename {ρ σ : Type} {routine : ShadowRoutine ρ} {rename : ρ → σ}
    {Post : Except Failure σ → ShadowWorld → Prop}
    (safe : setting.Safe t routine (fun result => Post (result.map rename)) state) :
    setting.Safe t (routine >>= fun value => pure (rename value)) Post state := by
  have rest : (routine >>= fun value => pure (rename value)) =
      Prog.bind routine (fun result => .ret (result.map rename)) := by
    refine congrArg (Prog.bind routine) (funext fun result => ?_)
    cases result <;> rfl
  show setting.discipline.Safe t _ Post state
  rw [rest]
  exact Discipline.Safe.map safe

theorem safe_run {Direct : ShadowCall → Except Failure RunRow → World → Prop}
    (models : setting.models = service.models) (locks : setting.lockKey = service.lockKey)
    (call : ShadowCall) (serves : Serves setting service fuel Direct call)
    (inv : setting.discipline.Inv state) (knows : Knows setting t .nothing state) :
    setting.Safe t (service.run fuel call) (CallPost setting service Direct t call) state := by
  cases call with
  | process arguments =>
      exact safe_rename (Discipline.Safe.mono (fun result last _ post => ⟨result, rfl, post⟩)
        (safe_process models locks serves.1 serves.2 knows))
  | importCase principal case execute =>
      exact safe_rename (Discipline.Safe.mono (fun _ _ _ post => post)
        (safe_importCase locks knows))
  | intake principal arguments =>
      have served := (embeds setting .nothing fun _ => steady_lasting lasting_true).safe
        (serves t state.world inv.1 knows.ready) ⟨knows.own, trivial⟩
      refine safe_rename (Discipline.Safe.mono (fun result last _ post => ?_) served)
      exact ⟨⟨post.2.1, post.1.1⟩, result, rfl, post.1.2⟩
  | review principal runId request idempotencyKey =>
      have served := (embeds setting .nothing fun _ => steady_lasting lasting_true).safe
        (serves t state.world inv.1 knows.ready) ⟨knows.own, trivial⟩
      refine safe_rename (Discipline.Safe.mono (fun result last _ post => ?_) served)
      exact ⟨⟨post.2.1, post.1.1⟩, result, rfl, post.1.2⟩

/-- A crash gives up the locks and the claim of its caller. -/
theorem guarantee_crash (inv : setting.discipline.Inv state)
    (crash : setting.side.inner.Guarantee t state.world (state.world.crash t)) :
    setting.discipline.Guarantee t state (state.crash t) := by
  refine ⟨⟨crash.inv, ShadowView.inv_closeSession inv.2.1, fun row member runId link => ?_⟩,
    fun u other => ⟨crash.rely u other, ShadowView.rely_closeSession other⟩⟩
  exact linked_step crash (inv.2.2 row member runId link)

variable {Starts : Tid → ShadowCall → Prop} {Allowed : Tid → Input → Prop}
  {Crashes : Tid → ShadowWorld → Prop}
  {Direct : ShadowCall → Except Failure RunRow → World → Prop}

/-- What makes the calls of a system keep the discipline. -/
structure Sound (setting : Setting) (service : ShadowService) (fuel : Nat)
    (Starts : Tid → ShadowCall → Prop) (Allowed : Tid → Input → Prop)
    (Crashes : Tid → ShadowWorld → Prop)
    (Direct : ShadowCall → Except Failure RunRow → World → Prop) : Prop where
  models : setting.models = service.models
  locks : setting.lockKey = service.lockKey
  allowed : ∀ t input, Allowed t input → setting.side.inner.Allowed t input
  direct : ∀ call result t before after, setting.side.inner.Rely t before after →
    setting.side.inner.Inv after → Direct call result before → Direct call result after
  serves : ∀ t call, Starts t call → Serves setting service fuel Direct call
  crash : ∀ t (state : ShadowWorld), Crashes t state → setting.side.inner.Inv state.world →
    setting.side.inner.Guarantee t state.world (state.world.crash t)
  inv : setting.side.inner.Inv World.initial
  ready : ∀ t, setting.side.Ready t World.initial

namespace Sound

variable (sound : Sound setting service fuel Starts Allowed Crashes Direct)

include sound

theorem verified : Verified (shadowClients service fuel Starts Allowed Crashes) setting.discipline
    (fun t state => Knows setting t .nothing state) (CallPost setting service Direct) where
  allowed := sound.allowed
  fresh := fun t before after relied inv knows => Knows.rely knows relied inv
  calls := fun t call state starts inv knows =>
    safe_run sound.models sound.locks call (sound.serves t call starts) inv knows
  crash := by
    rintro t before after ⟨crashes, rfl⟩ inv
    exact guarantee_crash inv (sound.crash t before crashes inv.1)
  disturb := fun _ _ => False.elim

theorem inv_initial : setting.discipline.Inv ShadowWorld.initial :=
  ⟨sound.inv, ShadowView.inv_empty, fun _ => nofun⟩

theorem knows_initial (t : Tid) : Knows setting t .nothing ShadowWorld.initial :=
  ⟨⟨by simp [ShadowWorld.initial, ShadowView.empty, Own.nothing], rfl, rfl,
    by simp [ShadowWorld.initial, ShadowView.empty, Own.nothing]⟩, sound.ready t⟩

/-- Every pool of calls reachable from the migrated database is safe. -/
theorem reaches {pool : ShadowPool}
    (run : Reaches (shadowClients service fuel Starts Allowed Crashes)
      (Pool.start ShadowWorld.initial) pool) :
    pool.Safe setting.discipline (fun t state => Knows setting t .nothing state)
      (CallPost setting service Direct) :=
  Pool.Safe.reaches sound.verified
    (Pool.safe_start sound.inv_initial sound.knows_initial) run

end Sound

end Soundness

/-! ## Callers that leave the investigations alone -/

/-- Nothing is asked of the investigation side. -/
def freeSide : InvestigationSide where
  inner := Discipline.free Tid Input World (fun _ _ => True)
  Ready := fun _ _ => True
  Linked := fun _ _ _ => True
  ready_rely := fun _ _ _ _ _ _ => trivial
  linked_rely := fun _ _ _ _ _ _ _ _ => trivial
  input := fun _ => ⟨⟨0, 0, fun _ => .error .assertionError, fun _ => .error .assertionError⟩,
    trivial⟩

theorem nested_free {setting : Setting} (free : setting.side = freeSide) (service : ShadowService)
    (fuel : Nat) (arguments : ProcessArguments) : Nested setting service fuel arguments := by
  constructor <;> rw [free]
  · intro t run world _ _ _ _
    exact Discipline.Safe.mono (fun _ _ _ _ => ⟨trivial, fun _ _ _ => trivial⟩)
      (Discipline.safe_free _ world)
  all_goals
    intro t runId world _ _
    exact Discipline.Safe.mono (fun _ _ _ _ => ⟨trivial, trivial⟩)
      (Discipline.safe_free _ world)

end StockoutOps.Shadow
