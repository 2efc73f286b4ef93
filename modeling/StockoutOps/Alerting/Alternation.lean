import StockoutOps.Alerting.IntentPerEvent

/-!
Contract: the lifecycle of every alert, over all interleavings of `record`.

Owns: the law of the event histories in every reachable pool, and a breach of
an unmeasured assessment, which does not fire.

Does not own: the law itself, and the reduction of pools to atomic calls.
-/

namespace StockoutOps.Alerting

open StockoutOps.Sql StockoutOps.Foundation.Interleaving

/-- A policy that was not measured and yet claims a breach. -/
def unmeasuredBreach : RecordRequest :=
  { quietRequest "window-3" "key-1" (by decide) with
    assessment :=
      { (quietRequest "window-3" "key-1" (by decide)).assessment with
        measurementStatus := .unmeasured
        observedValue := none
        breached := some true
        evaluated_iff := by decide } }

theorem unmeasuredBreach_storable : unmeasuredBreach.Storable where
  tenantId := rfl
  actorId := (by decide : 0 < "operator-1".length)
  policyId := (by decide : 0 < "shadow-external-action-safety".length)
  policyVersion := (by decide : 0 < "m2-alert-policy-v1".length)
  window := (by decide : 0 < "one tenant-scoped shadow report batch".length)
  idempotencyKey := by decide
  unmeasured := fun _ => rfl

/-- Every caller reports a request, to a repository that does not enqueue. -/
def reportOnly (request : RecordRequest) : Caller → Submission :=
  fun _ => ⟨⟨none⟩, request⟩

/-- The first report of a storable request. -/
theorem reportOnly_reaches {platform : EvaluationPlatform} {request : RecordRequest}
    (storable : request.Storable) :
    ∃ pool, RecordPool.Reachable platform (reportOnly request) pool ∧
      pool.state.db.evaluations = [AlertDb.empty.newEvent platform request ⟨1, 1⟩] ∧
      pool.state.log = [(0, AlertDb.empty.newEvent platform request ⟨1, 1⟩)] := by
  obtain ⟨world, ran, db, log⟩ := @solo_stores platform (reportOnly request 0) 0 _ []
    storable.tenantId (storable.checks platform _ _) rfl (.silent (.inl rfl))
    (fun _ member => absurd member List.not_mem_nil)
  have start : Reaches (recordSystem platform (reportOnly request)) RecordPool.start _ := .refl
  refine ⟨_, start.solo 0 ⟨none, false⟩ (reportOnly request 0) rfl rfl trivial ran, ?_, log⟩
  show world.db.evaluations = _
  rw [db]
  rfl

theorem firing_is_not_breach : ¬ ∀ (calls : Caller → Submission) (pool : RecordPool),
    RecordPool.Reachable localPlatform calls pool →
      ∀ t event, (t, event) ∈ pool.state.log →
        (event.state = some .firing ↔ (calls t).request.assessment.breached = some true) := by
  intro fires
  obtain ⟨pool, reachable, -, log⟩ := @reportOnly_reaches localPlatform _ unmeasuredBreach_storable
  have logged : _ ∈ pool.state.log := log ▸ List.mem_singleton.mpr rfl
  have firing := (fires _ pool reachable 0 _ logged).mpr rfl
  cases firing

/-- In every reachable pool, every alert's events obey the law of the lifecycle. -/
theorem lifecycle_of_every_alert {platform : EvaluationPlatform} {calls : Caller → Submission}
    {pool : RecordPool} (reachable : RecordPool.Reachable platform calls pool)
    (tenantId fingerprint : String) :
    LifecycleLaw platform calls pool.state.log (pool.state.db.events tenantId fingerprint) :=
  reachable.consistent.history.invariant.lifecycleLaw

/-! ### An alert that fires, is once not measured, and is resolved -/

def resolvedRequest : Caller → RecordRequest
  | 0 => firingRequest
  | 1 => { unmeasuredBreach with idempotencyKey := "key-3" }
  | _ => quietRequest "window-2" "key-2" length_secondWindow

def resolvedCalls (caller : Caller) : Submission := ⟨⟨none⟩, resolvedRequest caller⟩

theorem resolvedCalls_transitions :
    ((recordSystem firingPlatform resolvedCalls).inTurn (fun _ => ⟨none, false⟩) 0
        ((List.range 3).map resolvedCalls) RecordWorld.initial).map (fun answer =>
      (answer.2.db.events "demo" (firingRequest.fingerprint firingPlatform)).map
        (·.transition)) = some [.fired, .unmeasured, .resolved] := by
  decide +kernel

theorem lifecycle_of_resolved_alert : ∃ pool,
    RecordPool.Reachable firingPlatform resolvedCalls pool ∧
    (pool.state.db.events "demo" (firingRequest.fingerprint firingPlatform)).map (·.transition) =
      [.fired, .unmeasured, .resolved] ∧
    LifecycleLaw firingPlatform resolvedCalls pool.state.log
      (pool.state.db.events "demo" (firingRequest.fingerprint firingPlatform)) := by
  obtain ⟨⟨results, world⟩, ran, transitions⟩ :=
    Option.map_eq_some_iff.mp resolvedCalls_transitions
  have start : Reaches (recordSystem firingPlatform resolvedCalls) RecordPool.start _ := .refl
  obtain ⟨pool, reachable, rfl, -, -⟩ := start.inTurn (fun _ _ => rfl)
    (fun _ _ => System.starts_range fun _ => rfl) (fun _ => trivial) ran
  exact ⟨pool, reachable, transitions, lifecycle_of_every_alert reachable _ _⟩

end StockoutOps.Alerting
