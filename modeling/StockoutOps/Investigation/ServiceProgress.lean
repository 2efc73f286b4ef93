import StockoutOps.Foundation.Progress
import StockoutOps.Investigation.ServiceRuns

/-!
Contract: every call of the investigation service comes to an end.

Owns: that whoever has ended or crashed holds no lock, that somebody among those who
wait for each other can go on, and that the calls under way all return.

Does not own: what they return.
-/

namespace StockoutOps.Investigation

open StockoutOps.Sql StockoutOps.Foundation.Interleaving

/-! ## Locks -/

/-- Whoever waits, waits for a caller that holds a lock and does not wait. -/
theorem World.Waits.awaited {world : World} {t : Tid} (waits : world.Waits t) :
    ∃ u, world.HoldsAny u ∧ ¬ world.Waits u := by
  have contended : ∀ u, world.HoldsContended u → ¬ world.Waits u := by
    rintro u holds (⟨free, -⟩ | ⟨free, -⟩)
    · exact free holds
    · exact free holds.any
  rcases waits with ⟨-, u, -, holds⟩ | ⟨-, u, -, holds⟩
  · exact ⟨u, holds.any, contended u holds⟩
  · by_cases ready : world.Waits u
    · rcases ready with ⟨-, v, -, holdsMore⟩ | ⟨free, -⟩
      · exact ⟨v, holdsMore.any, contended v holdsMore⟩
      · exact absurd holds free
    · exact ⟨u, holds, ready⟩

/-- A caller between two of its transactions that has claimed nothing. -/
def World.Free (t : Tid) (world : World) : Prop :=
  world.Idle t ∧ Protocol.View.Unclaimed world.view t

theorem World.idle_crash (world : World) (t : Tid) : (world.crash t).Idle t where
  tx := by simp [World.crash, Statement.rolledBack]
  runs := by simp [World.crash, Statement.rolledBack, release]
  keys := by simp [World.crash, Statement.rolledBack, release]

/-- A crash takes every lock away, and nobody gives one back to the dead. -/
theorem leaves_free {κ ρ : Type} (protocol : Protocol) {body : κ → Routine ρ}
    {Starts : Tid → κ → Prop} {Allowed : Tid → Input → Prop} {faulty : Prop} :
    Leaves (clients body Starts Allowed faulty) protocol.discipline World.Free where
  crash := by
    rintro t before after ⟨-, rfl⟩ -
    exact ⟨before.idle_crash t, ServiceSetup.unclaimed_endClaim before.view t⟩
  rely := fun t before after relied free =>
    ⟨World.InTx.rely free.1 relied.1, free.2.later relied.1.view⟩

/-! ## Calls that must end -/

/-- An intake is given turns enough for the longest way of a run. -/
def ServiceCall.Fueled : ServiceCall → Prop
  | .intake _ fuel _ => 9 < fuel
  | .review .. | .detail .. | .audit .. => True

namespace ServiceSetup

/-- Any calls, where no tool and no adapter raises what `_resume` takes for a lost
transition. -/
def liveCalls (service : InvestigationService) : ServiceSetup where
  service := service
  Modes := fun _ _ _ => True
  Allowed := fun _ input => input.Plain
  input := fun _ =>
    ⟨⟨0, 0, fun _ => .error .assertionError, fun _ => .error .assertionError⟩,
      fun _ _ same lost => by
        obtain ⟨message, rfl⟩ := lost
        simp [Failure.conflict] at same,
      fun _ _ same lost => by
        obtain ⟨message, rfl⟩ := lost
        simp [Failure.conflict] at same⟩
  live := True
  plain := fun _ _ _ plain => plain

end ServiceSetup

/-- Callers of the service that may crash and lose sessions anywhere. -/
abbrev liveClients (service : InvestigationService) :
    System ServiceCall Tid Input World (Except Failure ServiceReply) :=
  clients (runService service) (fun _ call => call.Fueled) (fun _ input => input.Plain) True

section Runs

variable {service : InvestigationService} {pool : Clients ServiceCall ServiceReply}

theorem accepts_liveCalls (service : InvestigationService) :
    (ServiceSetup.liveCalls service).protocol.Accepts (runService service)
      (fun _ call => call.Fueled) (fun _ input => input.Plain) True ServiceSetup.Bare
      (ServiceSetup.liveCalls service).Ends := by
  refine (ServiceSetup.liveCalls service).accepts fun t call fueled => ?_
  cases call with
  | intake => exact ⟨trivial, fun _ => fueled⟩
  | _ => trivial

/-- How a call ends, it ends without a claim. -/
theorem unclaimed_of_ends {setup : ServiceSetup} {t : Tid} {call : ServiceCall}
    {result : Except Failure ServiceReply} {view : View} (ends : setup.Ends t call result view) :
    Protocol.View.Unclaimed view t := by
  cases call with
  | intake principal fuel arguments =>
      obtain ⟨outcome, -, intaken⟩ := ends
      cases outcome with
      | ok answer =>
          obtain ⟨reviewer, now, -, calm, -⟩ := intaken
          exact calm.unclaimed
      | error exception => exact intaken
  | review principal runId request idempotencyKey =>
      obtain ⟨outcome, -, reviewed⟩ := ends
      cases outcome with
      | ok run => exact reviewed.2.1
      | error exception => exact reviewed.1.unclaimed
  | detail principal runId =>
      obtain ⟨outcome, -, detailed⟩ := ends
      cases outcome with
      | ok detail => exact detailed.1.unclaimed
      | error exception => exact ServiceSetup.Bare.unclaimed detailed
  | audit principal runId =>
      obtain ⟨outcome, -, audited⟩ := ends
      cases outcome with
      | ok trail => exact audited.1.unclaimed
      | error exception => exact ServiceSetup.Bare.unclaimed audited

/-- Whoever is not in a call holds nothing. -/
theorem free_of_rests
    (reaches : Reaches (liveClients service) (Pool.start World.initial) pool) {t : Tid}
    (rests : (pool.threads t).Rests) : World.Free t pool.state := by
  have accepted := accepts_liveCalls service
  have safe := accepted.reaches (ServiceInv.empty _) ServiceSetup.bare_empty reaches
  have own := safe.threads t
  have start : (ServiceSetup.liveCalls service).protocol.discipline.Inv World.initial :=
    ⟨World.locked_initial, ServiceInv.empty _⟩
  cases thread : pool.threads t with
  | idle =>
      rw [thread] at own
      exact ⟨own.1, own.2.unclaimed⟩
  | crashed call =>
      exact Leaves.reaches accepted.verified (leaves_free _)
        (Pool.safe_start start fun t => ⟨World.idle_initial t, ServiceSetup.bare_empty t⟩)
        (fun _ _ idle => by simp [Pool.start] at idle) reaches t call thread
  | running call program =>
      cases program with
      | ret value =>
          have ended := safe.ended thread
          exact ⟨ended.1, unclaimed_of_ends ended.2⟩
      | step action next =>
          rw [thread] at rests
          exact rests.elim

/-- As long as a call is under way, some call can take its next step. -/
theorem goes_of_active
    (reaches : Reaches (liveClients service) (Pool.start World.initial) pool)
    (active : ¬ pool.Quiescent) : ∃ next, Goes (liveClients service) pool next := by
  have safe := (accepts_liveCalls service).reaches (ServiceInv.empty _) ServiceSetup.bare_empty
    reaches
  refine safe.goes (fun _ _ plain => plain) (fun t waits => ?_) active
  obtain ⟨u, holds, ready⟩ := (waits trivial).awaited
  refine ⟨u, fun rests => ?_, fun waiting => ready (waiting trivial)⟩
  have free := free_of_rests reaches rests
  exact free.1.not_holdsAny safe.inv.1 free.2 holds

/-- From every reachable state, with any callers crashed and any sessions lost, the
calls under way come to their ends if no other call is started: they can neither go on
for ever nor wait for each other, and every caller that has not crashed returns. -/
theorem calls_come_to_rest
    (reaches : Reaches (liveClients service) (Pool.start World.initial) pool) :
    Acc (fun after before => Goes (liveClients service) before after) pool ∧
    (∀ last, Relation.ReflTransGen (Goes (liveClients service)) pool last →
      (∀ next, ¬ Goes (liveClients service) last next) → last.Quiescent) ∧
    ∃ last, Relation.ReflTransGen (Goes (liveClients service)) pool last ∧ last.Quiescent := by
  obtain ⟨threads, within⟩ := within_of_reaches reaches
  refine ⟨acc_of_within within, fun last steps stuck => ?_,
    comes_to_rest reaches fun last reached active => goes_of_active reached active⟩
  by_contra active
  obtain ⟨next, goes⟩ := goes_of_active (reaches.trans (reaches_of_goes steps)) active
  exact stuck next goes

/-- An intake that has been started, and a detail that has crashed before it. -/
theorem shelf_calls_come_to_rest : ∃ pool last : Clients ServiceCall ServiceReply,
    Reaches (liveClients shelfService) (Pool.start World.initial) pool ∧ ¬ pool.Quiescent ∧
      Relation.ReflTransGen (Goes (liveClients shelfService)) pool last ∧ last.Quiescent := by
  let looking : ServiceCall := .detail shelfPlanner 7
  let asking : ServiceCall := .intake shelfPlanner 12 shelfArguments
  let first : Clients ServiceCall ServiceReply :=
    ⟨World.initial, Function.update (fun _ => .idle) 0
      (.running looking (runService shelfService looking))⟩
  let second : Clients ServiceCall ServiceReply :=
    ⟨World.initial.crash 0, Function.update first.threads 0 (.crashed looking)⟩
  let third : Clients ServiceCall ServiceReply :=
    ⟨World.initial.crash 0, Function.update second.threads 1
      (.running asking (runService shelfService asking))⟩
  have started : Step (liveClients shelfService) (Pool.start World.initial) first :=
    .start 0 looking rfl trivial
  have crashed : Step (liveClients shelfService) first second := .crash 0 rfl ⟨trivial, rfl⟩
  have asked : Step (liveClients shelfService) second third :=
    .start 1 asking rfl (show 9 < 12 by decide)
  have reached := Relation.ReflTransGen.tail (.tail (.single started) crashed) asked
  obtain ⟨-, -, last, steps, rests⟩ := calls_come_to_rest reached
  exact ⟨third, last, reached, fun quiescent => quiescent 1, steps, rests⟩

end Runs

end StockoutOps.Investigation
