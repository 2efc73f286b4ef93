import StockoutOps.Foundation.Interleaving

/-!
Contract: pools in which no call is in progress.

Owns: what a crashed thread has left behind, that in a quiescent pool every
thread is free of what it may only hold during a call, and the run of a call
that crashes on its way.

Does not own: what a call may hold.
-/

namespace StockoutOps.Foundation.Interleaving

/-! ## A call that crashes on its way -/

namespace Prog

variable {τ ι σ α : Type}

/-- The state after `count` actions of a program on its own that has not ended there. -/
def soloUpTo (t : τ) (input : ι) : Nat → Prog τ ι σ α → σ → Option σ
  | _, .ret _, _ => none
  | 0, .step _ _, state => some state
  | count + 1, .step action next, state =>
      match action t input state with
      | none => none
      | some (result, after) => (next result).soloUpTo t input count after

end Prog

section Crash

variable {κ τ ι σ α : Type} [DecidableEq τ] {system : System κ τ ι σ α} {t : τ} {input : ι}

/-- A live call may run some actions while the others rest, and crash. -/
theorem reaches_of_crash (allowed : system.Allowed t input) {count : Nat}
    {program : Prog τ ι σ α} {pool : Pool κ τ ι σ α} {call : κ}
    (live : pool.threads t = .running call program) {state after : σ}
    (ran : program.soloUpTo t input count pool.state = some state)
    (crash : system.Crash t state after) :
    Reaches system pool ⟨after, Function.update pool.threads t (.crashed call)⟩ := by
  induction count generalizing program pool with
  | zero =>
      cases program with
      | ret value => cases ran
      | step action next =>
          obtain rfl := Option.some.inj ran
          exact .single (.crash t live crash)
  | succ count inductionHypothesis =>
      cases program with
      | ret value => cases ran
      | step action next =>
          simp only [Prog.soloUpTo] at ran
          cases answered : action t input pool.state with
          | none => simp [answered] at ran
          | some answer =>
              obtain ⟨result, between⟩ := answer
              rw [answered] at ran
              let moved : Pool κ τ ι σ α :=
                ⟨between, Function.update pool.threads t (.running call (next result))⟩
              have there : moved.threads t = .running call (next result) :=
                Function.update_self _ _ _
              have rest := inductionHypothesis there ran
              rw [Function.update_idem] at rest
              exact .head (.run t (.run live allowed answered)) rest

/-- A run followed by a call that crashes while the others rest. -/
theorem Reaches.crash {start pool : Pool κ τ ι σ α} (before : Reaches system start pool) (t : τ)
    (input : ι) (call : κ) (unused : pool.threads t = .idle) (starts : system.Starts t call)
    (allowed : system.Allowed t input) (count : Nat) {state after : σ}
    (ran : (system.body call).soloUpTo t input count pool.state = some state)
    (crash : system.Crash t state after) :
    Reaches system start ⟨after, Function.update pool.threads t (.crashed call)⟩ := by
  let started : Pool κ τ ι σ α :=
    ⟨pool.state, Function.update pool.threads t (.running call (system.body call))⟩
  have live : started.threads t = .running call (system.body call) := Function.update_self _ _ _
  have rest := reaches_of_crash allowed live ran crash
  rw [Function.update_idem] at rest
  exact before.trans (.head (.start t call unused starts) rest)

end Crash

/-! ## Threads that are not in a call -/

section Gone

variable {κ τ ι σ α : Type} [DecidableEq τ] {system : System κ τ ι σ α}
  {discipline : Discipline τ ι σ} {Fresh : τ → σ → Prop} {Post : τ → κ → α → σ → Prop}
  {Free : τ → σ → Prop}

/-- The thread is not in a call: it has ended, crashed, or not begun. -/
def Thread.Rests : Thread κ τ ι σ α → Prop
  | .idle | .crashed _ | .running _ (.ret _) => True
  | .running _ (.step _ _) => False

/-- No call is in progress. -/
def Pool.Quiescent (pool : Pool κ τ ι σ α) : Prop := ∀ t, (pool.threads t).Rests

/-- What a crash leaves its thread free of, the thread is free of from then on. -/
structure Leaves (system : System κ τ ι σ α) (discipline : Discipline τ ι σ)
    (Free : τ → σ → Prop) : Prop where
  crash : ∀ t before after, system.Crash t before after → discipline.Inv before → Free t after
  rely : ∀ t before after, discipline.Rely t before after → Free t before → Free t after

/-- Every crashed thread of the pool is free. -/
def Pool.Left (pool : Pool κ τ ι σ α) (Free : τ → σ → Prop) : Prop :=
  ∀ t call, pool.threads t = .crashed call → Free t pool.state

theorem Leaves.step (verified : Verified system discipline Fresh Post)
    (leaves : Leaves system discipline Free) {pool next : Pool κ τ ι σ α}
    (safe : pool.Safe discipline Fresh Post) (left : pool.Left Free)
    (step : Step system pool next) : next.Left Free := by
  -- Whoever acted, the other crashed threads rely on its guarantee.
  have others : ∀ t after (thread : Thread κ τ ι σ α),
      discipline.Guarantee t pool.state after →
      (∀ call, thread = .crashed call → Free t after) →
        (⟨after, Function.update pool.threads t thread⟩ : Pool κ τ ι σ α).Left Free := by
    intro t after thread guarantee own u call crashed
    by_cases same : u = t
    · subst same
      exact own call (by simpa using crashed)
    · simp only [Function.update_of_ne same] at crashed
      exact leaves.rely u _ _ (guarantee.rely u same) (left u call crashed)
  cases step with
  | run t runs =>
      cases runs with
      | run at_action allowed answered =>
          have own := safe.threads t
          rw [at_action] at own
          obtain ⟨-, answers⟩ := own pool.state (discipline.refl t _) safe.inv
          exact others t _ _ (answers _ _ _ (verified.allowed t _ allowed) answered).1
            fun _ => nofun
  | start t call unused starts =>
      exact others t _ _ (.refl safe.inv) fun _ => nofun
  | crash t live crash =>
      exact others t _ _ (verified.crash t _ _ crash safe.inv)
        fun _ _ => leaves.crash t _ _ crash safe.inv
  | disturb disturb =>
      intro u call crashed
      exact leaves.rely u _ _ ((verified.disturb _ _ disturb safe.inv).2 u) (left u call crashed)

theorem Leaves.reaches (verified : Verified system discipline Fresh Post)
    (leaves : Leaves system discipline Free) {pool next : Pool κ τ ι σ α}
    (safe : pool.Safe discipline Fresh Post) (left : pool.Left Free)
    (reaches : Reaches system pool next) : next.Left Free := by
  induction reaches with
  | refl => exact left
  | tail before step inductionHypothesis =>
      exact leaves.step verified (safe.reaches verified before) inductionHypothesis step

/-- In a quiescent pool every thread is free of what no thread holds before its
call, after its call, or after its crash. -/
theorem Leaves.quiescent (verified : Verified system discipline Fresh Post)
    (leaves : Leaves system discipline Free) (before : ∀ t state, Fresh t state → Free t state)
    (ended : ∀ t call value state, Post t call value state → Free t state)
    {start : σ} (inv : discipline.Inv start) (fresh : ∀ t, Fresh t start)
    {pool : Pool κ τ ι σ α} (reaches : Reaches system (Pool.start start) pool)
    (quiescent : pool.Quiescent) (t : τ) : Free t pool.state := by
  have safe := (Pool.safe_start inv fresh).reaches verified reaches
  have own := safe.threads t
  have rests := quiescent t
  cases thread : pool.threads t with
  | idle =>
      rw [thread] at own
      exact before t _ own
  | crashed call =>
      exact leaves.reaches verified (Pool.safe_start inv fresh) (fun _ _ => nofun) reaches t call
        thread
  | running call program =>
      cases program with
      | ret value => exact ended t call value _ (safe.ended thread)
      | step action next =>
          rw [thread] at rests
          exact rests.elim

end Gone

end StockoutOps.Foundation.Interleaving
