import Mathlib.Data.Finset.Card
import Mathlib.Data.Int.Interval
import StockoutOps.Alerting.CounterBounds
import StockoutOps.Alerting.DeliveryRuns
import StockoutOps.Alerting.LeaseFencing
import StockoutOps.Foundation.Custody
import StockoutOps.Foundation.Delimiters

/-!
Contract: what a receiver may rely on to tell deliveries apart.

Owns: the idempotency key as a function of the row, one to one on rows, and the
bound of the number of POSTs by the attempt counter of the row.

Does not own: what a receiver does with a key it has seen.

A worker spends the attempts it was handed; a crash or a takeover loses them,
and no other worker can spend them again.
-/

namespace StockoutOps.Alerting

open StockoutOps.Foundation StockoutOps.Foundation.Delimiters StockoutOps.Sql

/-! ## The key -/

theorem separator_notMem_toString (id : Int) : ':' ∉ (toString id).toList := by
  intro member
  rcases mem_intText member with digit | sign
  · exact absurd digit (by decide)
  · exact absurd sign (by decide)

theorem separator_notMem_text (transition : Transition) : ':' ∉ transition.text.toList := by
  cases transition <;> decide

/-- Tenants may contain the separator; ids and transitions do not. -/
theorem deliveryIdempotencyKey_inj {tenantId other : String} {evaluationId otherId : Int}
    {transition next : Transition}
    (same : deliveryIdempotencyKey tenantId evaluationId transition =
      deliveryIdempotencyKey other otherId next) : tenantId = other ∧ evaluationId = otherId := by
  have lists : (tenantId.toList ++ ':' :: (toString evaluationId).toList) ++
        ':' :: transition.text.toList =
      (other.toList ++ ':' :: (toString otherId).toList) ++ ':' :: next.text.toList := by
    simpa [deliveryIdempotencyKey] using congrArg String.toList same
  obtain ⟨fronts, -⟩ := split_last lists (separator_notMem_text transition)
    (separator_notMem_text next)
  obtain ⟨tenants, ids⟩ := split_last fronts (separator_notMem_toString evaluationId)
    (separator_notMem_toString otherId)
  exact ⟨String.toList_inj.mp tenants, intText_inj ids⟩

/-! ## The rows -/

/-- The key is a function of columns that no statement changes. -/
def OutboxIdentity.Keyed (row : OutboxIdentity) : Prop :=
  row.idempotencyKey = deliveryIdempotencyKey row.tenantId row.evaluationId row.transition

def AlertDb.Keyed (db : AlertDb) : Prop :=
  ∀ row ∈ db.outbox, row.toOutboxIdentity.Keyed

theorem keyed_step {state next : OutboxSystem} {op : OutboxOp} (invariant : OutboxInvariant state)
    (keyed : state.db.Keyed) (step : OutboxStep state op next) : next.db.Keyed := by
  intro row member
  obtain ⟨move, outbox, rows⟩ | ⟨request, _, id, -, outbox⟩ := step.rows invariant
  · rw [outbox] at member
    obtain ⟨old, oldMember, rfl⟩ := List.mem_map.mp member
    rw [(rows old oldMember).identity]
    exact keyed old oldMember
  · rw [outbox] at member
    rcases List.mem_append.mp member with old | new
    · exact keyed row old
    · rw [List.mem_singleton.mp new]
      rfl

theorem keyed_run {state : OutboxSystem} (ops : List OutboxOp) (invariant : OutboxInvariant state)
    (keyed : state.db.Keyed) : (state.run ops).db.Keyed := by
  induction ops generalizing state with
  | nil => exact keyed
  | cons op rest inductionHypothesis =>
      have step := outboxStep_step state op
      exact inductionHypothesis (outboxInvariant_step invariant step)
        (keyed_step invariant keyed step)

/-! ## The attempts -/

/-- The deliveries that the worker may still post. -/
def WorkerPhase.unposted : WorkerPhase → List LeasedDelivery
  | .serving batch | .posting _ _ batch | .answered _ _ _ batch => batch

/-- A lease issues attempts to a worker, and each POST spends one. -/
def DeliverySystem.custody (state : DeliverySystem) : Custody.State Nat (Int × Int) where
  issued := state.outbox.handedOut.map LeasedDelivery.ticket
  held := fun worker => (state.phase worker).unposted.map LeasedDelivery.ticket
  spent := state.posts.map (·.leased.ticket)

section Attempts

variable {platform : EvaluationPlatform} {calls : Nat → Submission}
  {workers : Nat → AlertOutboxWorker} {state next : DeliverySystem} {op : DeliveryOp}

/-- Only a lease hands out attempts. -/
theorem OutboxStep.handedOut {outbox after : OutboxSystem} {outboxOp : OutboxOp}
    (step : OutboxStep outbox outboxOp after)
    (other : ∀ request locked, outboxOp ≠ .lease request locked) :
    after.handedOut = outbox.handedOut := by
  cases step with
  | lease => exact absurd rfl (other _ _)
  | rejected | appendEvaluation | enqueue | record | redrive => rfl

/-- What the workers hold after one enters a phase. -/
theorem custody_enter (state : DeliverySystem) (worker : Nat) (phase : WorkerPhase) :
    (state.enter worker phase).custody =
      { state.custody with
        held := Function.update state.custody.held worker
          (phase.unposted.map LeasedDelivery.ticket) } := by
  unfold DeliverySystem.custody DeliverySystem.enter
  congr 1
  funext other
  exact Function.apply_update (fun _ phase => phase.unposted.map LeasedDelivery.ticket)
    state.phase worker phase other

/-- A worker that enters a phase with the same unposted deliveries. -/
theorem custody_keep {worker : Nat} {phase : WorkerPhase}
    (same : phase.unposted = (state.phase worker).unposted) :
    (state.enter worker phase).custody = state.custody := by
  rw [custody_enter, same]
  exact congrArg (fun held => { state.custody with held := held })
    (Function.update_eq_self worker state.custody.held)

/-- The workers simulate the custody protocol. -/
theorem custody_step (step : DeliveryStep platform calls workers state op next)
    (fresh : next.custody.issued.Nodup) :
    Relation.ReflTransGen Custody.Step state.custody next.custody := by
  have unissued (outboxOp : OutboxOp)
      (other : ∀ request locked, outboxOp ≠ .lease request locked) :
      (state.outbox.step outboxOp).handedOut = state.outbox.handedOut :=
    (outboxStep_step state.outbox outboxOp).handedOut other
  cases step with
  | idle | recorded => exact .refl
  | @redriven request =>
      unfold DeliverySystem.custody
      rw [unissued (.redrive request) (fun _ _ => nofun)]
  | @leased worker now batchSize locked batch db free accepted =>
      have step := Custody.Step.issue state.custody worker (batch.map LeasedDelivery.ticket)
        (by simpa [DeliverySystem.custody, DeliverySystem.enter] using fresh)
      rw [custody_enter]
      refine .single ?_
      simpa [DeliverySystem.custody, WorkerPhase.unposted] using step
  | @posted worker startedAt leased batch serves =>
      have holds : state.custody.held worker =
          leased.ticket :: batch.map LeasedDelivery.ticket := by
        simp [DeliverySystem.custody, serves, WorkerPhase.unposted]
      have step := Custody.Step.spend state.custody holds
      rw [custody_enter]
      refine .single ?_
      simpa [DeliverySystem.custody, WorkerPhase.unposted, postOf] using step
  | answered posting =>
      rw [custody_keep (by rw [posting]; rfl)]
      exact .refl
  | @processed worker completedAt ids post startedAt outcome batch result at_ accepted =>
      rw [custody_keep (by rw [at_]; rfl)]
      unfold DeliverySystem.custody
      rw [unissued (.record post.leased _ ids) (fun _ _ => nofun)]
  | escaped | crashed =>
      rw [custody_enter]
      exact .single (.lose state.custody _)

/-- The tables of a run are those of a run of the outbox. -/
theorem delivery_outbox_run (platform : EvaluationPlatform) (calls : Nat → Submission)
    (workers : Nat → AlertOutboxWorker) (state : DeliverySystem) (ops : List DeliveryOp) :
    ∃ outboxOps, (state.run platform calls workers ops).outbox = state.outbox.run outboxOps := by
  induction ops generalizing state with
  | nil => exact ⟨[], rfl⟩
  | cons op rest inductionHypothesis =>
      obtain ⟨first, step⟩ := (deliveryStep_step platform calls workers state op).outbox
      obtain ⟨later, run⟩ := inductionHypothesis (state.step platform calls workers op)
      exact ⟨first ++ later, by rw [run_append, ← step]; exact run⟩

/-- While no lease hands out an attempt twice, the runs simulate the protocol. -/
theorem custody_run (ops : List DeliveryOp)
    (fresh : ∀ outboxOps,
      ((state.outbox.run outboxOps).handedOut.map LeasedDelivery.ticket).Nodup) :
    Relation.ReflTransGen Custody.Step state.custody
      (state.run platform calls workers ops).custody := by
  induction ops generalizing state with
  | nil => exact .refl
  | cons op rest inductionHypothesis =>
      have step := deliveryStep_step platform calls workers state op
      obtain ⟨outboxOps, outbox⟩ := step.outbox
      have distinct : (state.step platform calls workers op).custody.issued.Nodup := by
        show (List.map _ (state.step platform calls workers op).outbox.handedOut).Nodup
        rw [outbox]
        exact fresh outboxOps
      refine (custody_step step distinct).trans (inductionHypothesis fun later => ?_)
      rw [outbox, ← run_append]
      exact fresh (outboxOps ++ later)

end Attempts

/-! ## The POSTs -/

/-- The header by which a receiver tells deliveries apart. -/
def Post.idempotencyKey (post : Post) : Option String :=
  post.request.headers.lookup "Idempotency-Key"

theorem postOf_idempotencyKey (workers : Nat → AlertOutboxWorker) (worker : Nat)
    (leased : LeasedDelivery) :
    (postOf workers worker leased).idempotencyKey = some leased.idempotencyKey := by
  simp [Post.idempotencyKey, postOf, WebhookTransport.post, List.lookup_cons]

/-- Distinct numbers from 1 on are at most as many as the largest. -/
theorem length_le_of_nodup {numbers : List Int} {bound : Int} (nonneg : 0 ≤ bound)
    (distinct : numbers.Nodup) (within : ∀ number ∈ numbers, 1 ≤ number ∧ number ≤ bound) :
    (numbers.length : Int) ≤ bound := by
  have inside : numbers.toFinset ⊆ Finset.Icc 1 bound := fun number member =>
    Finset.mem_Icc.mpr (within number (List.mem_toFinset.mp member))
  have card := Finset.card_le_card inside
  rw [List.toFinset_card_of_nodup distinct, Int.card_Icc] at card
  omega

def DeliverySystem.postsFor (state : DeliverySystem) (row : OutboxRow) : List Post :=
  state.posts.filter (fun post => post.leased.outboxId == row.outboxId)

section Posts

variable {platform : EvaluationPlatform} {calls : Nat → Submission}
  {workers : Nat → AlertOutboxWorker} {state : DeliverySystem} {post : Post}

/-- The row a POST was made for. -/
theorem DeliveryInvariant.postedRow (invariant : DeliveryInvariant platform calls workers state)
    (member : post ∈ state.posts) :
    ∃ row ∈ state.outbox.db.outbox, HandedOut post.leased row ∧
      post.idempotencyKey = some row.idempotencyKey ∧ post.request.json = row.payload := by
  obtain ⟨made, handedOut⟩ := invariant.posts post member
  obtain ⟨row, rowMember, from_⟩ := invariant.outbox.handedOut post.leased handedOut
  refine ⟨row, rowMember, from_, ?_, ?_⟩
  · rw [made, postOf_idempotencyKey, from_.identity.idempotencyKey]
  · rw [made]
    exact from_.identity.payload

/-- Each POST for a row used an attempt number of its own. -/
theorem length_postsFor_le (invariant : DeliveryInvariant platform calls workers state)
    (spent : (state.posts.map (·.leased.ticket)).Nodup) {row : OutboxRow}
    (member : row ∈ state.outbox.db.outbox) :
    ((state.postsFor row).length : Int) ≤ row.attemptCount := by
  obtain ⟨nonneg, redrives, -, -, -⟩ := counterBounds invariant.outbox member
  have unique := invariant.outbox.evidence.uniqueIds
  have tickets : ((state.postsFor row).map (·.leased.ticket)).Nodup :=
    spent.sublist (List.filter_sublist.map _)
  have ofRow : ∀ post ∈ state.postsFor row, post ∈ state.posts ∧
      post.leased.outboxId = row.outboxId := fun post inside => by
    obtain ⟨posted, same⟩ := List.mem_filter.mp inside
    exact ⟨posted, beq_iff_eq.mp same⟩
  have distinct : ((state.postsFor row).map (·.leased.attemptNumber)).Nodup := by
    refine List.Nodup.map_on ?_ (List.Nodup.of_map _ tickets)
    intro left leftIn right rightIn same
    refine List.inj_on_of_nodup_map tickets leftIn rightIn (Prod.ext ?_ same)
    exact (ofRow left leftIn).2.trans (ofRow right rightIn).2.symm
  rw [← List.length_map (·.leased.attemptNumber)]
  refine length_le_of_nodup (by omega) distinct fun number inside => ?_
  obtain ⟨post, postIn, rfl⟩ := List.mem_map.mp inside
  obtain ⟨posted, same⟩ := ofRow post postIn
  obtain ⟨owner, ownerMember, from_, -⟩ := invariant.postedRow posted
  obtain rfl := eq_of_outboxId_eq unique ownerMember member
    (from_.identity.outboxId.symm.trans same)
  exact ⟨from_.positive, from_.bound⟩

end Posts

/-- The deduplication contract, in every run of any workers, with crashes,
takeovers and re-drives: the POSTs for one row carry one key and one payload,
the POSTs for two rows carry different keys, and a row is posted at most as
often as it was attempted, which is at most 100 times. -/
theorem receivers_can_deduplicate (platform : EvaluationPlatform) (calls : Nat → Submission)
    (workers : Nat → AlertOutboxWorker) (ops : List DeliveryOp) :
    let state := DeliverySystem.initial.run platform calls workers ops
    (∀ post ∈ state.posts, ∃ row ∈ state.outbox.db.outbox, post ∈ state.postsFor row) ∧
    (∀ row ∈ state.outbox.db.outbox,
      (∃ key payload, ∀ post ∈ state.postsFor row,
        post.idempotencyKey = some key ∧ post.request.json = payload) ∧
      (state.postsFor row).length ≤ row.attemptCount ∧ row.attemptCount ≤ 100) ∧
    ∀ row ∈ state.outbox.db.outbox, ∀ other ∈ state.outbox.db.outbox,
      row.outboxId ≠ other.outboxId → ∀ post ∈ state.postsFor row,
        ∀ otherPost ∈ state.postsFor other, post.idempotencyKey ≠ otherPost.idempotencyKey := by
  intro state
  have invariant : DeliveryInvariant platform calls workers state :=
    deliveryInvariant_run ops deliveryInvariant_initial
  obtain ⟨outboxOps, outbox⟩ : ∃ outboxOps, state.outbox = OutboxSystem.initial.run outboxOps :=
    delivery_outbox_run platform calls workers .initial ops
  have keyed : state.outbox.db.Keyed := by
    rw [outbox]
    exact keyed_run outboxOps outboxInvariant_initial fun _ member =>
      absurd member List.not_mem_nil
  have simulated : Relation.ReflTransGen Custody.Step DeliverySystem.initial.custody
      state.custody :=
    custody_run ops fun outboxOps => (fencingInvariant_run outboxOps).takenNodup
  have custody := Custody.invariant_reachable Custody.invariant_initial simulated
  have unique := invariant.outbox.evidence.uniqueIds
  have carries : ∀ row ∈ state.outbox.db.outbox, ∀ post ∈ state.postsFor row,
      post.idempotencyKey = some row.idempotencyKey ∧ post.request.json = row.payload := by
    intro row member post inside
    obtain ⟨posted, same⟩ := List.mem_filter.mp inside
    obtain ⟨owner, ownerMember, from_, carried⟩ := invariant.postedRow posted
    obtain rfl := eq_of_outboxId_eq unique ownerMember member
      (from_.identity.outboxId.symm.trans (beq_iff_eq.mp same))
    exact carried
  refine ⟨fun post posted => ?_, fun row member => ⟨⟨_, _, carries row member⟩,
    length_postsFor_le invariant custody.spent member,
    (counterBounds invariant.outbox member).budget.trans
      (counterBounds invariant.outbox member).ceiling⟩,
    fun row member other otherMember apart post inside otherPost otherInside same => apart ?_⟩
  · obtain ⟨row, member, from_, -⟩ := invariant.postedRow posted
    exact ⟨row, member, List.mem_filter.mpr ⟨posted, beq_iff_eq.mpr from_.identity.outboxId⟩⟩
  · rw [(carries row member post inside).1, (carries other otherMember otherPost otherInside).1,
      keyed row member, keyed other otherMember] at same
    obtain ⟨tenants, evaluations⟩ := deliveryIdempotencyKey_inj (Option.some.inj same)
    rw [invariant.outbox.intents row member other otherMember tenants evaluations]

end StockoutOps.Alerting
