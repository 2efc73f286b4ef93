import StockoutOps.Foundation.Quiescence
import Mathlib.Data.Multiset.MapFold

/-!
Contract: pools whose calls come to an end.

Owns: that the actions of the calls under way come to an end if no further call is
started, that a pool in which nobody waits for nobody can go on, and that every
reachable pool therefore comes to rest.

Does not own: who waits for whom.
-/

namespace StockoutOps.Foundation.Interleaving

variable {κ τ ι σ α : Type}

/-! ## Actions come to an end -/

/-- `after` is the thread `before` once its next action has answered. -/
def Thread.Falls (after before : Thread κ τ ι σ α) : Prop :=
  ∃ call rest program, after = .running call rest ∧ before = .running call program ∧
    rest.Remains program

theorem Thread.falls_wellFounded : WellFounded (Thread.Falls (κ := κ) (τ := τ) (ι := ι) (σ := σ)
    (α := α)) := by
  have running : ∀ program : Prog τ ι σ α, ∀ call : κ,
      Acc Thread.Falls (Thread.running call program) := by
    intro program
    induction program using Prog.remains_wellFounded.induction with
    | _ program inductionHypothesis =>
        refine fun call => ⟨_, fun after falls => ?_⟩
        obtain ⟨other, rest, whole, rfl, same, remains⟩ := falls
        obtain ⟨rfl, rfl⟩ : call = other ∧ program = whole := by simpa using same
        exact inductionHypothesis rest remains call
  have resting : ∀ thread : Thread κ τ ι σ α, (∀ call program, thread ≠ .running call program) →
      Acc Thread.Falls thread := by
    refine fun thread other => ⟨_, fun after falls => ?_⟩
    obtain ⟨call, rest, program, -, same, -⟩ := falls
    exact absurd same (other call program)
  refine ⟨fun thread => ?_⟩
  cases thread with
  | idle => exact resting .idle (by simp)
  | crashed call => exact resting (.crashed call) (by simp)
  | running call program => exact running program call

section Pools

variable [DecidableEq τ] {system : System κ τ ι σ α} {pool next : Pool κ τ ι σ α} {t : τ}

/-- Some call under way performs its next action. -/
def Goes (system : System κ τ ι σ α) (pool next : Pool κ τ ι σ α) : Prop :=
  ∃ t, Runs system t pool next

theorem Goes.reaches (goes : Goes system pool next) : Reaches system pool next := by
  obtain ⟨t, runs⟩ := goes
  exact .single (.run t runs)

theorem reaches_of_goes {last : Pool κ τ ι σ α}
    (steps : Relation.ReflTransGen (Goes system) pool last) : Reaches system pool last := by
  induction steps with
  | refl => exact .refl
  | tail _ goes inductionHypothesis => exact inductionHypothesis.trans goes.reaches

theorem Runs.falls (runs : Runs system t pool next) :
    (next.threads t).Falls (pool.threads t) ∧ ∀ u, u ≠ t → next.threads u = pool.threads u := by
  cases runs with
  | run at_action allowed answered =>
      refine ⟨?_, fun u other => Function.update_of_ne other _ _⟩
      simp only [Function.update_self, at_action]
      exact ⟨_, _, _, rfl, rfl, _, rfl⟩

/-- Only these threads are in a call. -/
def Pool.Within (pool : Pool κ τ ι σ α) (threads : Finset τ) : Prop :=
  ∀ t, t ∉ threads → pool.threads t = .idle

theorem Runs.member {threads : Finset τ} (runs : Runs system t pool next)
    (within : pool.Within threads) : t ∈ threads := by
  by_contra outside
  cases runs with
  | run at_action allowed answered => simp [within t outside] at at_action

theorem Runs.within {threads : Finset τ} (runs : Runs system t pool next)
    (within : pool.Within threads) : next.Within threads := by
  intro u outside
  have other : u ≠ t := fun same => outside (same ▸ runs.member within)
  rw [runs.falls.2 u other, within u outside]

/-- A step of one of them replaces its thread by one that is left with less. -/
theorem Runs.cutExpand {threads : Finset τ} (runs : Runs system t pool next)
    (within : pool.Within threads) :
    Relation.CutExpand Thread.Falls (threads.val.map next.threads)
      (threads.val.map pool.threads) := by
  obtain ⟨falls, others⟩ := runs.falls
  have split : threads.val = t ::ₘ threads.val.erase t :=
    (Multiset.cons_erase (runs.member within)).symm
  have rest : (threads.val.erase t).map next.threads = (threads.val.erase t).map pool.threads := by
    refine Multiset.map_congr rfl fun u member => others u fun same => ?_
    subst same
    exact (Multiset.Nodup.notMem_erase threads.nodup) member
  rw [split, Multiset.map_cons, Multiset.map_cons, rest, ← Multiset.singleton_add,
    ← Multiset.singleton_add]
  exact Relation.cutExpand_single_add falls _

/-- Without further calls the calls under way take finitely many steps. -/
theorem acc_of_within {threads : Finset τ} (within : pool.Within threads) :
    Acc (fun after before => Goes system before after) pool := by
  have wellFounded := (Thread.falls_wellFounded (κ := κ) (τ := τ) (ι := ι) (σ := σ)
    (α := α)).cutExpand
  generalize same : threads.val.map pool.threads = programs
  induction programs using wellFounded.induction generalizing pool with
  | _ programs inductionHypothesis =>
      subst same
      refine ⟨_, fun next goes => ?_⟩
      obtain ⟨t, runs⟩ := goes
      exact inductionHypothesis _ (runs.cutExpand within) (runs.within within) rfl

/-- Finitely many calls have been started. -/
theorem within_of_reaches {state : σ} (reaches : Reaches system (Pool.start state) pool) :
    ∃ threads : Finset τ, pool.Within threads := by
  induction reaches with
  | refl => exact ⟨∅, fun _ _ => rfl⟩
  | @tail middle last before step inductionHypothesis =>
      obtain ⟨threads, within⟩ := inductionHypothesis
      cases step with
      | run t runs => exact ⟨threads, runs.within within⟩
      | start t call unused starts =>
          refine ⟨insert t threads, fun u outside => ?_⟩
          have outside := (not_or.mp (Finset.mem_insert.not.mp outside))
          exact (Function.update_of_ne outside.1 _ _).trans (within u outside.2)
      | crash t live crash =>
          refine ⟨insert t threads, fun u outside => ?_⟩
          have outside := (not_or.mp (Finset.mem_insert.not.mp outside))
          exact (Function.update_of_ne outside.1 _ _).trans (within u outside.2)
      | disturb disturb => exact ⟨threads, within⟩

/-! ## Somebody can go on -/

variable {discipline : Discipline τ ι σ} {Fresh : τ → σ → Prop} {Post : τ → κ → α → σ → Prop}

omit [DecidableEq τ] in
/-- A thread that does not rest is before an action of its call. -/
theorem Thread.step_of_not_rests {thread : Thread κ τ ι σ α} (busy : ¬ thread.Rests) :
    ∃ (call : κ) (ρ : Type) (action : τ → ι → σ → Option (ρ × σ)) (next : ρ → Prog τ ι σ α),
      thread = .running call (.step action next) := by
  cases thread with
  | idle => exact absurd trivial busy
  | crashed call => exact absurd trivial busy
  | running call program =>
      cases program with
      | ret value => exact absurd trivial busy
      | step action next => exact ⟨call, _, action, next, rfl⟩

/-- A call under way goes on or waits. -/
theorem Pool.Safe.goes_or_waits (granted : ∀ t input, discipline.Allowed t input →
      system.Allowed t input)
    (safe : pool.Safe discipline Fresh Post) (busy : ¬ (pool.threads t).Rests) :
    (∃ next, Goes system pool next) ∨ discipline.Waits t pool.state := by
  obtain ⟨call, ρ, action, next, live⟩ := Thread.step_of_not_rests busy
  rcases safe.runs_or_waits granted live with ⟨value, ended⟩ | ⟨later, runs⟩ | waits
  · cases ended
  · exact .inl ⟨later, t, runs⟩
  · exact .inr waits

/-- If whoever waits, waits in the end for a thread that does neither rest nor wait,
then a pool with a call under way goes on. -/
theorem Pool.Safe.goes (granted : ∀ t input, discipline.Allowed t input →
      system.Allowed t input)
    (safe : pool.Safe discipline Fresh Post)
    (awaited : ∀ t, discipline.Waits t pool.state →
      ∃ u, ¬ (pool.threads u).Rests ∧ ¬ discipline.Waits u pool.state)
    (active : ¬ pool.Quiescent) : ∃ next, Goes system pool next := by
  obtain ⟨t, busy⟩ := not_forall.mp active
  rcases safe.goes_or_waits granted busy with goes | waits
  · exact goes
  · obtain ⟨u, busy, ready⟩ := awaited t waits
    exact (safe.goes_or_waits granted busy).resolve_right ready

/-- If that is so in every pool that can be reached, the calls under way all come to
their ends. -/
theorem comes_to_rest {state : σ} (reaches : Reaches system (Pool.start state) pool)
    (goes : ∀ last, Reaches system (Pool.start state) last → ¬ last.Quiescent →
      ∃ next, Goes system last next) :
    ∃ last, Relation.ReflTransGen (Goes system) pool last ∧ last.Quiescent := by
  obtain ⟨threads, within⟩ := within_of_reaches reaches
  have acc : Acc (fun after before => Goes system before after) pool := acc_of_within within
  clear within
  induction acc with
  | intro pool _ inductionHypothesis =>
      by_cases quiescent : pool.Quiescent
      · exact ⟨pool, .refl, quiescent⟩
      · obtain ⟨next, step⟩ := goes pool reaches quiescent
        obtain ⟨last, steps, quiescent⟩ :=
          inductionHypothesis next step (reaches.trans step.reaches)
        exact ⟨last, .head step steps, quiescent⟩

end Pools

end StockoutOps.Foundation.Interleaving
