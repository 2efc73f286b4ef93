import Mathlib.Logic.Function.Basic
import Mathlib.Logic.Hydra
import Mathlib.Logic.Relation

/-!
Contract: programs of many threads over one shared state.

Owns: a program as a tree of atomic actions, each of which may wait or read an
input from outside; the pool of threads that run calls in any order, crash,
and are disturbed; and the rely-guarantee judgement `Safe` with its rules, its
soundness for every reachable pool, and termination of crash-free runs.

Does not own: the shared state, the actions, or what a thread may rely on.

A call may also end in an exception: `Call` is a program whose result is an
`Except`; `attempt` turns its exception into a value.
-/

namespace StockoutOps.Foundation.Interleaving

/-- A program of one thread over threads `τ`, inputs `ι` and states `σ`. An
action that is `none` in a state waits there. -/
inductive Prog (τ ι σ α : Type) : Type 1 where
  | ret (value : α)
  | step {ρ : Type} (action : τ → ι → σ → Option (ρ × σ)) (next : ρ → Prog τ ι σ α)

namespace Prog

variable {τ ι σ α β : Type}

def bind : Prog τ ι σ α → (α → Prog τ ι σ β) → Prog τ ι σ β
  | .ret value, follow => follow value
  | .step action next, follow => .step action (fun result => (next result).bind follow)

/-- `after` is what remains of `before` once its first action has answered. -/
def Remains (after before : Prog τ ι σ α) : Prop :=
  match before with
  | .ret _ => False
  | .step _ next => ∃ result, after = next result

theorem remains_wellFounded : WellFounded (Remains (τ := τ) (ι := ι) (σ := σ) (α := α)) := by
  refine ⟨fun program => ?_⟩
  induction program with
  | ret value => exact ⟨_, fun after remains => remains.elim⟩
  | step action next inductionHypothesis =>
      refine ⟨_, fun after remains => ?_⟩
      obtain ⟨result, rfl⟩ := remains
      exact inductionHypothesis result

/-- The run of a program on its own, every action reading the same input. -/
def solo (t : τ) (input : ι) : Prog τ ι σ α → σ → Option (α × σ)
  | .ret value, state => some (value, state)
  | .step action next, state =>
      match action t input state with
      | none => none
      | some (result, after) => (next result).solo t input after

end Prog

/-- A program that returns a value or raises an exception. -/
def Call (τ ι σ ε α : Type) : Type 1 := Prog τ ι σ (Except ε α)

namespace Call

variable {τ ι σ ε α β : Type}

def pure (value : α) : Call τ ι σ ε α := Prog.ret (.ok value)

def raise (exception : ε) : Call τ ι σ ε α := Prog.ret (.error exception)

def bind (first : Call τ ι σ ε α) (follow : α → Call τ ι σ ε β) : Call τ ι σ ε β :=
  Prog.bind first (fun result =>
    match result with
    | .ok value => follow value
    | .error exception => .ret (.error exception))

/-- The result of `body`, an exception included, as a value. -/
def attempt (body : Call τ ι σ ε α) : Call τ ι σ ε (Except ε α) :=
  Prog.bind body (fun result => .ret (.ok result))

/-- One action that answers with a value or an exception. -/
def exec (action : τ → ι → σ → Option (Except ε α × σ)) : Call τ ι σ ε α :=
  Prog.step action Prog.ret

/-- A call that waits for ever. -/
def spin : Call τ ι σ ε α :=
  Prog.step (fun _ _ _ => (none : Option (Except ε α × σ))) Prog.ret

instance : Monad (Call τ ι σ ε) where
  pure := Call.pure
  bind := Call.bind

end Call

theorem Prog.solo_bind {τ ι σ α β : Type} (t : τ) (input : ι) (first : Prog τ ι σ α)
    (follow : α → Prog τ ι σ β) (state : σ) :
    (first.bind follow).solo t input state =
      (first.solo t input state).bind (fun answer => (follow answer.1).solo t input answer.2) := by
  induction first generalizing state with
  | ret value => rfl
  | step action next inductionHypothesis =>
      simp only [Prog.bind, Prog.solo]
      cases action t input state with
      | none => rfl
      | some answer => exact inductionHypothesis answer.1 answer.2

namespace Call

variable {τ ι σ ε α β : Type} {t : τ} {input : ι} {state after : σ}

/-- The run of a call on its own. -/
def solo (t : τ) (input : ι) (call : Call τ ι σ ε α) : σ → Option (Except ε α × σ) :=
  Prog.solo t input call

theorem bind_pure (call : Call τ ι σ ε α) : call >>= Call.pure = call := by
  show Prog.bind call _ = call
  induction call with
  | ret result => cases result <;> rfl
  | step action next inductionHypothesis =>
      exact congrArg (Prog.step action) (funext inductionHypothesis)

/-- A whole run of `first` that returns, and the rest. -/
theorem solo_bind_ok {first : Call τ ι σ ε α} {follow : α → Call τ ι σ ε β} {value : α}
    (ran : first.solo t input state = some (.ok value, after)) :
    (first >>= follow).solo t input state = (follow value).solo t input after := by
  refine (Prog.solo_bind t input first _ state).trans ?_
  rw [show Prog.solo t input first state = _ from ran]
  rfl

theorem solo_exec (action : τ → ι → σ → Option (Except ε α × σ)) :
    (exec action).solo t input state = action t input state := by
  show Prog.solo t input (Prog.step action Prog.ret) state = _
  rw [Prog.solo]
  cases action t input state <;> rfl

theorem solo_attempt {body : Call τ ι σ ε α} {result : Except ε α}
    (ran : body.solo t input state = some (result, after)) :
    body.attempt.solo t input state = some (.ok result, after) := by
  refine (Prog.solo_bind t input body _ state).trans ?_
  rw [show Prog.solo t input body state = _ from ran]
  rfl

end Call

/-! ## The pool of threads -/

inductive Thread (κ τ ι σ α : Type) : Type 1 where
  | idle
  | running (call : κ) (program : Prog τ ι σ α)
  | crashed (call : κ)

/-- Which calls the threads may make, what a crash does to the state, and what
may happen to the state by itself. -/
structure System (κ τ ι σ α : Type) where
  body : κ → Prog τ ι σ α
  Starts : τ → κ → Prop
  Allowed : τ → ι → Prop
  Crash : τ → σ → σ → Prop
  Disturb : σ → σ → Prop

structure Pool (κ τ ι σ α : Type) where
  state : σ
  threads : τ → Thread κ τ ι σ α

section Pools

variable {κ τ ι σ α : Type} [DecidableEq τ]

/-- The thread `t` performs its next action. -/
inductive Runs (system : System κ τ ι σ α) (t : τ) :
    Pool κ τ ι σ α → Pool κ τ ι σ α → Prop where
  | run {pool : Pool κ τ ι σ α} {call : κ} {ρ : Type}
      {action : τ → ι → σ → Option (ρ × σ)} {next : ρ → Prog τ ι σ α} {input : ι} {result : ρ}
      {state : σ} (at_action : pool.threads t = .running call (.step action next))
      (allowed : system.Allowed t input)
      (answered : action t input pool.state = some (result, state)) :
      Runs system t pool
        ⟨state, Function.update pool.threads t (.running call (next result))⟩

inductive Step (system : System κ τ ι σ α) : Pool κ τ ι σ α → Pool κ τ ι σ α → Prop where
  | run {pool next : Pool κ τ ι σ α} (t : τ) (runs : Runs system t pool next) :
      Step system pool next
  | start {pool : Pool κ τ ι σ α} (t : τ) (call : κ) (unused : pool.threads t = .idle)
      (starts : system.Starts t call) :
      Step system pool
        ⟨pool.state, Function.update pool.threads t (.running call (system.body call))⟩
  | crash {pool : Pool κ τ ι σ α} {call : κ} {ρ : Type} {action : τ → ι → σ → Option (ρ × σ)}
      {next : ρ → Prog τ ι σ α} {state : σ} (t : τ)
      (live : pool.threads t = .running call (.step action next))
      (crash : system.Crash t pool.state state) :
      Step system pool ⟨state, Function.update pool.threads t (.crashed call)⟩
  | disturb {pool : Pool κ τ ι σ α} {state : σ} (disturb : system.Disturb pool.state state) :
      Step system pool ⟨state, pool.threads⟩

abbrev Reaches (system : System κ τ ι σ α) : Pool κ τ ι σ α → Pool κ τ ι σ α → Prop :=
  Relation.ReflTransGen (Step system)

/-- The pool before any call. -/
def Pool.start (state : σ) : Pool κ τ ι σ α := ⟨state, fun _ => .idle⟩

/-- A live call may run to its end while the others rest. -/
theorem reaches_of_solo {system : System κ τ ι σ α} {t : τ} {input : ι}
    (allowed : system.Allowed t input) {program : Prog τ ι σ α} {pool : Pool κ τ ι σ α} {call : κ}
    (live : pool.threads t = .running call program) {value : α} {state : σ}
    (ran : program.solo t input pool.state = some (value, state)) :
    Reaches system pool
      ⟨state, Function.update pool.threads t (.running call (.ret value))⟩ := by
  induction program generalizing pool with
  | ret result =>
      obtain ⟨rfl, rfl⟩ := Prod.mk.inj (Option.some.inj ran)
      rw [← live, Function.update_eq_self]
  | step action next inductionHypothesis =>
      simp only [Prog.solo] at ran
      cases answered : action t input pool.state with
      | none => simp [answered] at ran
      | some answer =>
          obtain ⟨result, after⟩ := answer
          rw [answered] at ran
          have rest := @inductionHypothesis result
            ⟨after, Function.update pool.threads t (.running call (next result))⟩
            (Function.update_self _ _ _) ran
          rw [Function.update_idem] at rest
          exact .head (.run t (.run live allowed answered)) rest

/-- A run followed by a whole call while the others rest. -/
theorem Reaches.solo {system : System κ τ ι σ α} {start pool : Pool κ τ ι σ α}
    (before : Reaches system start pool) (t : τ) (input : ι) (call : κ)
    (unused : pool.threads t = .idle) (starts : system.Starts t call)
    (allowed : system.Allowed t input) {value : α} {state : σ}
    (ran : (system.body call).solo t input pool.state = some (value, state)) :
    Reaches system start
      ⟨state, Function.update pool.threads t (.running call (.ret value))⟩ := by
  let started : Pool κ τ ι σ α :=
    ⟨pool.state, Function.update pool.threads t (.running call (system.body call))⟩
  have live : started.threads t = .running call (system.body call) := Function.update_self _ _ _
  have rest := reaches_of_solo allowed live ran
  rw [Function.update_idem] at rest
  exact before.trans (.head (.start t call unused starts) rest)

end Pools

/-! ### Calls one after another -/

section InTurn

variable {κ ι σ α : Type} {system : System κ Nat ι σ α} {input : Nat → ι}
  {start pool : Pool κ Nat ι σ α} {state final : σ} {t : Nat} {calls : List κ} {values : List α}

/-- The callers `t`, `t + 1`, … make the calls one after another, each alone. -/
def System.inTurn (system : System κ Nat ι σ α) (input : Nat → ι) :
    Nat → List κ → σ → Option (List α × σ)
  | _, [], state => some ([], state)
  | t, call :: rest, state =>
      ((system.body call).solo t (input t) state).bind fun answer =>
        (system.inTurn input (t + 1) rest answer.2).map fun others =>
          (answer.1 :: others.1, others.2)

theorem System.inTurn_cons {call : κ} {rest : List κ}
    (ran : system.inTurn input t (call :: rest) state = some (values, final)) :
    ∃ value between others, (system.body call).solo t (input t) state = some (value, between) ∧
      system.inTurn input (t + 1) rest between = some (others, final) ∧
      values = value :: others := by
  obtain ⟨⟨value, between⟩, alone, ranRest⟩ := Option.bind_eq_some_iff.mp ran
  obtain ⟨⟨others, last⟩, later, same⟩ := Option.map_eq_some_iff.mp ranRest
  obtain ⟨rfl, rfl⟩ := Prod.mk.inj same
  exact ⟨value, between, others, alone, later, rfl⟩

/-- The first callers make the calls that are theirs. -/
theorem System.starts_range {callOf : Nat → κ} (starts : ∀ u, system.Starts u (callOf u))
    {count index : Nat} {call : κ} (at_ : ((List.range count).map callOf)[index]? = some call) :
    system.Starts (0 + index) call := by
  rw [List.getElem?_map] at at_
  obtain ⟨u, drawn, rfl⟩ := Option.map_eq_some_iff.mp at_
  obtain ⟨inside, rfl⟩ := List.getElem?_eq_some_iff.mp drawn
  rw [List.getElem_range, Nat.zero_add]
  exact starts index

/-- Callers that come one after another do not get into each other's way. -/
theorem Reaches.inTurn (before : Reaches system start pool)
    (unused : ∀ u, t ≤ u → pool.threads u = .idle)
    (starts : ∀ index call, calls[index]? = some call → system.Starts (t + index) call)
    (allowed : ∀ u, system.Allowed u (input u))
    (ran : system.inTurn input t calls pool.state = some (values, final)) :
    ∃ last, Reaches system start last ∧ last.state = final ∧
      (∀ u, u < t → last.threads u = pool.threads u) ∧
      ∀ index call value, calls[index]? = some call → values[index]? = some value →
        last.threads (t + index) = .running call (.ret value) := by
  induction calls generalizing pool t values with
  | nil =>
      obtain ⟨rfl, rfl⟩ := Prod.mk.inj (Option.some.inj ran)
      exact ⟨pool, before, rfl, fun _ _ => rfl, fun _ _ _ none _ => by simp at none⟩
  | cons call rest inductionHypothesis =>
      obtain ⟨value, between, others, alone, ranRest, rfl⟩ := System.inTurn_cons ran
      have reached := before.solo t (input t) call (unused t le_rfl) (starts 0 call rfl) (allowed t)
        alone
      obtain ⟨last, reachesLast, state, kept, ended⟩ := inductionHypothesis reached
        (fun u later => (Function.update_of_ne (Nat.ne_of_gt later) _ _).trans
          (unused u (Nat.le_of_succ_le later)))
        (fun index other at_ => by
          rw [Nat.succ_add_eq_add_succ]
          exact starts (index + 1) other (by simpa using at_)) ranRest
      refine ⟨last, reachesLast, state, fun u earlier => ?_, fun index other answer => ?_⟩
      · exact (kept u (Nat.lt_succ_of_lt earlier)).trans
          (Function.update_of_ne (Nat.ne_of_lt earlier) _ _)
      · cases index with
        | zero =>
            intro here there
            obtain rfl : call = other := by simpa using here
            obtain rfl : value = answer := by simpa using there
            exact (kept t (Nat.lt_succ_self t)).trans (Function.update_self _ _ _)
        | succ index =>
            intro here there
            rw [← Nat.succ_add_eq_add_succ]
            exact ended index other answer (by simpa using here) (by simpa using there)

end InTurn

/-! ## Rely-guarantee reasoning -/

/-- What every state satisfies, what a thread relies on between its actions,
and when it may have to wait. -/
structure Discipline (τ ι σ : Type) where
  Inv : σ → Prop
  Rely : τ → σ → σ → Prop
  Allowed : τ → ι → Prop
  Waits : τ → σ → Prop
  refl : ∀ t state, Rely t state state
  trans : ∀ t {first second third}, Rely t first second → Rely t second third →
    Rely t first third

namespace Discipline

variable {τ ι σ α β : Type} (discipline : Discipline τ ι σ)

/-- What a thread owes the others when it takes `before` to `after`. -/
structure Guarantee (t : τ) (before after : σ) : Prop where
  inv : discipline.Inv after
  rely : ∀ u, u ≠ t → discipline.Rely u before after

/-- `Post` holds of the result from here on, whatever the others do. -/
def Settled (t : τ) (Post : α → σ → Prop) (result : α) (state : σ) : Prop :=
  ∀ later, discipline.Rely t state later → discipline.Inv later → Post result later

/-- From any state the others can lead to, every action of the program can
answer unless the thread may wait, keeps the guarantee, and the result
satisfies `Post` in every later state. -/
def Safe (t : τ) : Prog τ ι σ α → (α → σ → Prop) → σ → Prop
  | .ret value, Post, state => discipline.Settled t Post value state
  | .step action next, Post, state =>
      ∀ later, discipline.Rely t state later → discipline.Inv later →
        ((∃ input answer, discipline.Allowed t input ∧ action t input later = some answer) ∨
          discipline.Waits t later) ∧
        ∀ input result after, discipline.Allowed t input →
          action t input later = some (result, after) →
            discipline.Guarantee t later after ∧ Safe t (next result) Post after

variable {discipline} {t : τ} {state later : σ}

theorem Guarantee.refl (inv : discipline.Inv state) : discipline.Guarantee t state state :=
  ⟨inv, fun u _ => discipline.refl u state⟩

theorem Guarantee.trans {first second third : σ} (left : discipline.Guarantee t first second)
    (right : discipline.Guarantee t second third) : discipline.Guarantee t first third :=
  ⟨right.inv, fun u other => discipline.trans u (left.rely u other) (right.rely u other)⟩

theorem Safe.rely {program : Prog τ ι σ α} {Post : α → σ → Prop}
    (safe : discipline.Safe t program Post state) (relied : discipline.Rely t state later) :
    discipline.Safe t program Post later := by
  cases program with
  | ret value => exact fun last reliedLast => safe last (discipline.trans t relied reliedLast)
  | step action next =>
      exact fun last reliedLast => safe last (discipline.trans t relied reliedLast)

/-- It is enough to be safe in every state the others can lead to. -/
theorem Safe.of_later {program : Prog τ ι σ α} {Post : α → σ → Prop}
    (safe : ∀ last, discipline.Rely t state last → discipline.Inv last →
      discipline.Safe t program Post last) :
    discipline.Safe t program Post state := by
  cases program with
  | ret value =>
      exact fun last relied inv => safe last relied inv last (discipline.refl t last) inv
  | step action next =>
      exact fun last relied inv => safe last relied inv last (discipline.refl t last) inv

theorem Safe.mono {program : Prog τ ι σ α} {Post Post' : α → σ → Prop}
    (weaker : ∀ value last, discipline.Inv last → Post value last → Post' value last)
    (safe : discipline.Safe t program Post state) :
    discipline.Safe t program Post' state := by
  induction program generalizing state with
  | ret value =>
      exact fun last relied inv => weaker value last inv (safe last relied inv)
  | step action next inductionHypothesis =>
      intro last relied inv
      obtain ⟨ready, answers⟩ := safe last relied inv
      refine ⟨ready, fun input result after allowed answered => ?_⟩
      obtain ⟨guarantee, rest⟩ := answers input result after allowed answered
      exact ⟨guarantee, inductionHypothesis result rest⟩

/-- Renaming the result of a program. -/
theorem Safe.map {program : Prog τ ι σ α} {rename : α → β} {Post : β → σ → Prop}
    (safe : discipline.Safe t program (fun value => Post (rename value)) state) :
    discipline.Safe t (program.bind (fun value => .ret (rename value))) Post state := by
  induction program generalizing state with
  | ret value => exact safe
  | step action next inductionHypothesis =>
      intro last relied inv
      obtain ⟨ready, answers⟩ := safe last relied inv
      refine ⟨ready, fun input result after allowed answered => ?_⟩
      obtain ⟨guarantee, rest⟩ := answers input result after allowed answered
      exact ⟨guarantee, inductionHypothesis result rest⟩

theorem Safe.bind {program : Prog τ ι σ α} {follow : α → Prog τ ι σ β}
    {Post : β → σ → Prop}
    (safe : discipline.Safe t program
      (fun value last => discipline.Safe t (follow value) Post last) state) :
    discipline.Safe t (program.bind follow) Post state := by
  induction program generalizing state with
  | ret value => exact Safe.of_later fun last relied inv => safe last relied inv
  | step action next inductionHypothesis =>
      intro last relied inv
      obtain ⟨ready, answers⟩ := safe last relied inv
      refine ⟨ready, fun input result after allowed answered => ?_⟩
      obtain ⟨guarantee, rest⟩ := answers input result after allowed answered
      exact ⟨guarantee, inductionHypothesis result rest⟩

/-! ### Rules for calls -/

section Calls

variable {ε : Type}

theorem Safe.pure {value : α} {Post : Except ε α → σ → Prop}
    (settled : discipline.Settled t Post (.ok value) state) :
    discipline.Safe t (Call.pure value : Call τ ι σ ε α) Post state := settled

theorem Safe.raise {exception : ε} {Post : Except ε α → σ → Prop}
    (settled : discipline.Settled t Post (.error exception) state) :
    discipline.Safe t (Call.raise exception : Call τ ι σ ε α) Post state := settled

/-- Sequencing: after a value the rest runs, an exception is the result. -/
theorem Safe.call_bind {first : Call τ ι σ ε α} {follow : α → Call τ ι σ ε β}
    {Post : Except ε β → σ → Prop}
    (safe : discipline.Safe t first
      (fun result last =>
        match result with
        | .ok value => discipline.Safe t (follow value) Post last
        | .error exception => discipline.Settled t Post (.error exception) last) state) :
    discipline.Safe t (first.bind follow) Post state := by
  refine Safe.bind (Safe.mono (fun result last _ post => ?_) safe)
  cases result with
  | ok value => exact post
  | error exception => exact post

/-- Catching: the rest runs whatever the result of the body. -/
theorem Safe.attempt_bind {body : Call τ ι σ ε α} {follow : Except ε α → Call τ ι σ ε β}
    {Post : Except ε β → σ → Prop}
    (safe : discipline.Safe t body
      (fun result last => discipline.Safe t (follow result) Post last) state) :
    discipline.Safe t (body.attempt.bind follow) Post state :=
  Safe.call_bind (Safe.bind (Safe.mono (fun _ _ _ rest _ relied _ => rest.rely relied) safe))

theorem Safe.exec {action : τ → ι → σ → Option (Except ε α × σ)}
    {Post : Except ε α → σ → Prop}
    (safe : ∀ later, discipline.Rely t state later → discipline.Inv later →
      ((∃ input answer, discipline.Allowed t input ∧ action t input later = some answer) ∨
        discipline.Waits t later) ∧
      ∀ input result after, discipline.Allowed t input →
        action t input later = some (result, after) →
          discipline.Guarantee t later after ∧ discipline.Settled t Post result after) :
    discipline.Safe t (Call.exec action) Post state := safe

end Calls

end Discipline

/-! ## Soundness -/

/-- The calls of a system keep a discipline. `Fresh` is what holds of a thread
before its call, `Post` what holds once its call has ended. -/
structure Verified {κ τ ι σ α : Type} (system : System κ τ ι σ α)
    (discipline : Discipline τ ι σ) (Fresh : τ → σ → Prop)
    (Post : τ → κ → α → σ → Prop) : Prop where
  allowed : ∀ t input, system.Allowed t input → discipline.Allowed t input
  fresh : ∀ t before after, discipline.Rely t before after → discipline.Inv after →
    Fresh t before → Fresh t after
  calls : ∀ t call state, system.Starts t call → discipline.Inv state → Fresh t state →
    discipline.Safe t (system.body call) (Post t call) state
  crash : ∀ t before after, system.Crash t before after → discipline.Inv before →
    discipline.Guarantee t before after
  disturb : ∀ before after, system.Disturb before after → discipline.Inv before →
    discipline.Inv after ∧ ∀ u, discipline.Rely u before after

section Soundness

variable {κ τ ι σ α : Type} {system : System κ τ ι σ α} {discipline : Discipline τ ι σ}
  {Fresh : τ → σ → Prop} {Post : τ → κ → α → σ → Prop}

/-- What the pool's threads are owed: each one is still safe. -/
def Thread.Safe (discipline : Discipline τ ι σ) (Fresh : τ → σ → Prop)
    (Post : τ → κ → α → σ → Prop) (t : τ) (state : σ) : Thread κ τ ι σ α → Prop
  | .idle => Fresh t state
  | .running call program => discipline.Safe t program (Post t call) state
  | .crashed _ => True

structure Pool.Safe (discipline : Discipline τ ι σ) (Fresh : τ → σ → Prop)
    (Post : τ → κ → α → σ → Prop) (pool : Pool κ τ ι σ α) : Prop where
  inv : discipline.Inv pool.state
  threads : ∀ t, (pool.threads t).Safe discipline Fresh Post t pool.state

theorem Thread.Safe.rely (verified : Verified system discipline Fresh Post)
    {thread : Thread κ τ ι σ α} {t : τ} {before after : σ}
    (safe : thread.Safe discipline Fresh Post t before)
    (relied : discipline.Rely t before after) (inv : discipline.Inv after) :
    thread.Safe discipline Fresh Post t after := by
  cases thread with
  | idle => exact verified.fresh t before after relied inv safe
  | running call program => exact Discipline.Safe.rely safe relied
  | crashed call => trivial

theorem Pool.safe_start {state : σ} (inv : discipline.Inv state)
    (fresh : ∀ t, Fresh t state) :
    (Pool.start state : Pool κ τ ι σ α).Safe discipline Fresh Post :=
  ⟨inv, fresh⟩

variable [DecidableEq τ]

/-- A step of `t` keeps every other thread safe. -/
theorem Pool.Safe.update (verified : Verified system discipline Fresh Post)
    {pool : Pool κ τ ι σ α} (safe : pool.Safe discipline Fresh Post) {t : τ} {after : σ}
    (guarantee : discipline.Guarantee t pool.state after) {thread : Thread κ τ ι σ α}
    (own : thread.Safe discipline Fresh Post t after) :
    (⟨after, Function.update pool.threads t thread⟩ : Pool κ τ ι σ α).Safe
      discipline Fresh Post := by
  refine ⟨guarantee.inv, fun u => ?_⟩
  by_cases same : u = t
  · subst same
    simpa using own
  · simp only [Function.update_of_ne same]
    exact (safe.threads u).rely verified (guarantee.rely u same) guarantee.inv

theorem Pool.Safe.step (verified : Verified system discipline Fresh Post)
    {pool next : Pool κ τ ι σ α} (safe : pool.Safe discipline Fresh Post)
    (step : Step system pool next) : next.Safe discipline Fresh Post := by
  cases step with
  | run t runs =>
      cases runs with
      | run at_action allowed answered =>
          have own := safe.threads t
          rw [at_action] at own
          obtain ⟨-, answers⟩ := own pool.state (discipline.refl t _) safe.inv
          obtain ⟨guarantee, rest⟩ :=
            answers _ _ _ (verified.allowed t _ allowed) answered
          exact safe.update verified guarantee rest
  | start t call unused starts =>
      have fresh := safe.threads t
      rw [unused] at fresh
      exact safe.update verified ⟨safe.inv, fun u _ => discipline.refl u _⟩
        (verified.calls t call pool.state starts safe.inv fresh)
  | crash t live crash =>
      exact safe.update verified (verified.crash t _ _ crash safe.inv) trivial
  | disturb disturb =>
      obtain ⟨inv, relied⟩ := verified.disturb _ _ disturb safe.inv
      exact ⟨inv, fun u => (safe.threads u).rely verified (relied u) inv⟩

/-- Every reachable pool is safe. -/
theorem Pool.Safe.reaches (verified : Verified system discipline Fresh Post)
    {pool next : Pool κ τ ι σ α} (safe : pool.Safe discipline Fresh Post)
    (reaches : Reaches system pool next) : next.Safe discipline Fresh Post := by
  induction reaches with
  | refl => exact safe
  | tail _ step inductionHypothesis => exact inductionHypothesis.step verified step

omit [DecidableEq τ] in
/-- The result of an ended call satisfies its postcondition. -/
theorem Pool.Safe.ended {pool : Pool κ τ ι σ α} (safe : pool.Safe discipline Fresh Post)
    {t : τ} {call : κ} {value : α} (ended : pool.threads t = .running call (.ret value)) :
    Post t call value pool.state := by
  have own := safe.threads t
  rw [ended] at own
  exact own pool.state (discipline.refl t _) safe.inv

/-- What the threads may do to the state in one step, they do over a whole run. -/
theorem Pool.Safe.evolves (verified : Verified system discipline Fresh Post)
    {Evolves : σ → σ → Prop} (same : ∀ state, Evolves state state)
    (further : ∀ {first second third}, Evolves first second → Evolves second third →
      Evolves first third)
    (stepped : ∀ t before after, discipline.Guarantee t before after → Evolves before after)
    (disturbed : ∀ before after, (∀ u, discipline.Rely u before after) → Evolves before after)
    {pool next : Pool κ τ ι σ α} (safe : pool.Safe discipline Fresh Post)
    (reaches : Reaches system pool next) : Evolves pool.state next.state := by
  induction reaches with
  | refl => exact same _
  | @tail middle last before step inductionHypothesis =>
      refine further inductionHypothesis ?_
      have safeMiddle := safe.reaches verified before
      cases step with
      | run t runs =>
          cases runs with
          | run at_action allowed answered =>
              have own := safeMiddle.threads t
              rw [at_action] at own
              obtain ⟨-, answers⟩ := own middle.state (discipline.refl t _) safeMiddle.inv
              exact stepped t _ _ (answers _ _ _ (verified.allowed t _ allowed) answered).1
      | start t call unused starts => exact same _
      | crash t live crash => exact stepped t _ _ (verified.crash t _ _ crash safeMiddle.inv)
      | disturb disturb => exact disturbed _ _ (verified.disturb _ _ disturb safeMiddle.inv).2

/-- A thread of a safe pool has ended, can run, or may wait. -/
theorem Pool.Safe.runs_or_waits (granted : ∀ t input, discipline.Allowed t input →
      system.Allowed t input)
    {pool : Pool κ τ ι σ α} (safe : pool.Safe discipline Fresh Post) {t : τ} {call : κ}
    {program : Prog τ ι σ α} (live : pool.threads t = .running call program) :
    (∃ value, program = .ret value) ∨ (∃ next, Runs system t pool next) ∨
      discipline.Waits t pool.state := by
  cases program with
  | ret value => exact .inl ⟨value, rfl⟩
  | step action next =>
      have own := safe.threads t
      rw [live] at own
      obtain ⟨⟨input, ⟨result, after⟩, allowed, answered⟩ | waits, -⟩ :=
        own pool.state (discipline.refl t _) safe.inv
      · exact .inr (.inl ⟨_, .run live (granted t input allowed) answered⟩)
      · exact .inr (.inr waits)

end Soundness

end StockoutOps.Foundation.Interleaving
