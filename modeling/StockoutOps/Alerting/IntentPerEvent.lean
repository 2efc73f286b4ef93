import Mathlib.Data.List.Forall2
import StockoutOps.Alerting.KeyBinding
import StockoutOps.Alerting.Lifecycle
import StockoutOps.Alerting.RecordRuns

/-!
Contract: the outbox that the enqueuers of `AlertRepository.record` fill.

Owns: the pairing of the lifecycle events with the intents that report them,
and its proof for every run of concurrent calls whose repositories enqueue.

Does not own: the delivery of the intents.
-/

namespace StockoutOps.Alerting

open StockoutOps.Sql

/-- The intent reports the event. -/
structure Reports (platform : EvaluationPlatform) (event : EvaluationRow) (intent : OutboxRow) :
    Prop where
  tenantId : intent.tenantId = event.tenantId
  alertFingerprint : intent.alertFingerprint = event.alertFingerprint
  evaluationId : intent.evaluationId = event.alertEvaluationId
  transition : intent.transition = event.transition
  payload : intent.payload = webhookPayload platform (rowToEvaluation platform event false)
  payloadHash : intent.payloadHash =
    platform.canonicalHash (webhookPayload platform (rowToEvaluation platform event false))

def AlertDb.intentsOf (db : AlertDb) (event : EvaluationRow) : List OutboxRow :=
  db.outbox.filter (fun intent => intent.evaluationId == event.alertEvaluationId)

/-- The intents are in one-to-one correspondence with the lifecycle events. -/
structure OneIntentEach (platform : EvaluationPlatform) (db : AlertDb) : Prop where
  lifecycle : ∀ event ∈ db.evaluations, event.isLifecycle = true →
    ∃ intent, db.intentsOf event = [intent] ∧ Reports platform event intent
  others : ∀ event ∈ db.evaluations, event.isLifecycle = false → db.intentsOf event = []
  owned : ∀ intent ∈ db.outbox, ∃ event ∈ db.evaluations, intent ∈ db.intentsOf event

/-! ## Pairs of lists -/

section Pairs

variable {α β κ : Type} {Related : α → β → Prop} {left : α → κ} {right : β → κ}
  {as : List α} {bs : List β}

theorem keys_eq_of_paired (shared : ∀ a b, Related a b → right b = left a)
    (paired : List.Forall₂ Related as bs) : bs.map right = as.map left := by
  induction paired with
  | nil => rfl
  | cons related rest inductionHypothesis =>
      rw [List.map_cons, List.map_cons, inductionHypothesis, shared _ _ related]

/-- Where paired elements share a key and the keys are distinct, every element
of the left list finds its partner, alone, by the key. -/
theorem filter_eq_partner [DecidableEq κ] (shared : ∀ a b, Related a b → right b = left a)
    (paired : List.Forall₂ Related as bs) (distinct : (as.map left).Nodup) {a : α}
    (member : a ∈ as) : ∃ b, bs.filter (fun b => right b == left a) = [b] ∧ Related a b := by
  induction paired with
  | nil => cases member
  | @cons head partner as bs related rest inductionHypothesis =>
      obtain ⟨new, others⟩ := List.nodup_cons.mp distinct
      rcases List.mem_cons.mp member with rfl | inside
      · have absent : bs.filter (fun b => right b == left a) = [] := by
          refine List.filter_eq_nil_iff.mpr fun b bMember same => new ?_
          rw [← keys_eq_of_paired shared rest, ← beq_iff_eq.mp same]
          exact List.mem_map_of_mem bMember
        refine ⟨partner, ?_, related⟩
        rw [List.filter_cons, if_pos (beq_iff_eq.mpr (shared _ _ related)), absent]
      · obtain ⟨b, found, relatedTo⟩ := inductionHypothesis others inside
        refine ⟨b, ?_, relatedTo⟩
        rw [List.filter_cons_of_neg, found]
        rw [shared _ _ related, beq_iff_eq]
        exact fun same => new (same ▸ List.mem_map_of_mem inside)

end Pairs

/-! ## A history -/

section History

variable {τ : Type} {platform : EvaluationPlatform} {calls : τ → Submission}
  {log : List (τ × EvaluationRow)} {db next : AlertDb}

theorem reports_intent (platform : EvaluationPlatform) (enqueuer : WebhookOutboxEnqueuer)
    (event : EvaluationRow) (enqueuedAt : Timestamp) (id : Int) :
    Reports platform event
      ((enqueuer.intent platform (rowToEvaluation platform event false) enqueuedAt).row id) :=
  ⟨rfl, rfl, rfl, rfl, rfl, rfl⟩

/-- The lifecycle events and the intents, both in the order of the commits. -/
def Paired (platform : EvaluationPlatform) (db : AlertDb) : Prop :=
  List.Forall₂ (Reports platform) (db.evaluations.filter (·.isLifecycle)) db.outbox

theorem Reports.congr {event : EvaluationRow} {intent after : OutboxRow}
    (reports : Reports platform event intent)
    (identity : after.toOutboxIdentity = intent.toOutboxIdentity) :
    Reports platform event after := by
  obtain ⟨tenantId, fingerprint, evaluationId, transition, payload, hash⟩ := reports
  refine ⟨?_, ?_, ?_, ?_, ?_, ?_⟩ <;> rw [identity] <;> assumption

/-- A call that stores an event keeps the pairing. -/
theorem Paired.call {submission : Submission} {ids : RecordIds} {evaluation : AlertEvaluation}
    (enqueues : submission.repository.deliveryEnqueuer.isSome = true)
    (invariant : HistoryInvariant platform calls log db) (paired : Paired platform db)
    (returned : submission.repository.recordAtomically platform submission.request ids db =
      .ok (evaluation, next)) (stored : evaluation.idempotentReplay = false) :
    Paired platform next := by
  obtain ⟨-, apart, enqueued⟩ := recording_stored returned stored
  unfold Paired at paired ⊢
  rw [enqueued.evaluations, List.filter_append]
  cases enqueued with
  | silent quiet =>
      have other : (db.newEvent platform submission.request ids).isLifecycle = false :=
        quiet.resolve_left fun absent => by simp [absent] at enqueues
      simpa [other] using paired
  | present member tenantId evaluationId =>
      -- the intent has an event, which is not the new one
      obtain ⟨event, eventMember, same⟩ := invariant.owners _ member
      exact absurd (.inl (same.trans evaluationId)) (apart event eventMember)
  | @inserted enqueuer next id enqueuesBy lifecycle acceptable insert =>
      obtain ⟨-, -, -, rfl⟩ := insertOutbox_inserts.mp insert
      have added : [db.newEvent platform submission.request ids].filter (·.isLifecycle) =
          [db.newEvent platform submission.request ids] := List.filter_cons_of_pos lifecycle
      rw [added]
      exact List.rel_append paired (.cons (reports_intent _ _ _ _ _) .nil)

theorem CallHistory.paired (enqueues : ∀ t, (calls t).repository.deliveryEnqueuer.isSome = true)
    (history : CallHistory platform calls log db) : Paired platform db := by
  induction history with
  | empty => exact List.Forall₂.nil
  | @call t log db next ids evaluation before increasing returned stored inductionHypothesis =>
      exact inductionHypothesis.call (enqueues t) before.invariant returned stored

theorem Paired.oneIntentEach (invariant : HistoryInvariant platform calls log db)
    (paired : Paired platform db) : OneIntentEach platform db := by
  have shared : ∀ event intent, Reports platform event intent →
      intent.evaluationId = event.alertEvaluationId := fun _ _ reports => reports.evaluationId
  have owner : ∀ intent ∈ db.outbox, ∃ event ∈ db.evaluations.filter (·.isLifecycle),
      event.alertEvaluationId = intent.evaluationId := fun intent member => by
    refine List.mem_map.mp ?_
    rw [← keys_eq_of_paired shared paired]
    exact List.mem_map_of_mem member
  refine ⟨fun event member lifecycle => ?_, fun event member quiet => ?_, fun intent member => ?_⟩
  · have distinct : ((db.evaluations.filter (·.isLifecycle)).map (·.alertEvaluationId)).Nodup :=
      invariant.uniqueIds.sublist (List.filter_sublist.map _)
    exact filter_eq_partner shared paired distinct (List.mem_filter.mpr ⟨member, lifecycle⟩)
  · refine List.filter_eq_nil_iff.mpr fun intent intentMember same => ?_
    obtain ⟨other, otherMember, sameId⟩ := owner intent intentMember
    obtain ⟨inside, lifecycle⟩ := List.mem_filter.mp otherMember
    obtain rfl := List.inj_on_of_nodup_map invariant.uniqueIds inside member
      (sameId.trans (beq_iff_eq.mp same))
    exact Bool.false_ne_true (quiet.symm.trans lifecycle)
  · obtain ⟨event, eventMember, same⟩ := owner intent member
    exact ⟨event, (List.mem_filter.mp eventMember).1,
      List.mem_filter.mpr ⟨member, beq_iff_eq.mpr same.symm⟩⟩

/-- Every intent reports a lifecycle event. -/
theorem OneIntentEach.reported (each : OneIntentEach platform db) {intent : OutboxRow}
    (member : intent ∈ db.outbox) :
    ∃ event ∈ db.evaluations, event.isLifecycle = true ∧ Reports platform event intent := by
  obtain ⟨event, eventMember, owned⟩ := each.owned intent member
  cases lifecycle : event.isLifecycle with
  | false => simp [each.others event eventMember lifecycle] at owned
  | true =>
      obtain ⟨partner, only, reports⟩ := each.lifecycle event eventMember lifecycle
      rw [only] at owned
      exact ⟨event, eventMember, lifecycle, List.mem_singleton.mp owned ▸ reports⟩

end History

/-! ## Every run -/

open Foundation.Interleaving

/-- While every repository enqueues, each lifecycle event has one intent, which
reports it, and no other event has one; a call whose enqueuer raised has
committed no event. -/
theorem each_lifecycle_event_has_one_intent {platform : EvaluationPlatform}
    {calls : Caller → Submission} {pool : RecordPool}
    (enqueues : ∀ t, (calls t).repository.deliveryEnqueuer.isSome = true)
    (reachable : RecordPool.Reachable platform calls pool) :
    OneIntentEach platform pool.state.db ∧
      pool.state.log.map Prod.snd = pool.state.db.evaluations ∧
      ∀ t, pool.state.enqueueFailed t = true → ∀ event, (t, event) ∉ pool.state.log := by
  have consistent := reachable.consistent
  exact ⟨(consistent.history.paired enqueues).oneIntentEach consistent.history.invariant,
    consistent.history.invariant.events,
    consistent.failures⟩

/-! ### An alert that fires -/

/-- The digest of the notification a transition sends. -/
def notificationDigest (transition : String) : String :=
  if transition = "FIRED" then "19928b0f1ff8605f625c39597dc9a786565f2b23b1b94cc8a905b8414b133a81"
  else "416ab31ceef9dfd6bd3a83c52a1c71f201891f7cc71dfb4f383e104d40eb304d"

/-- The hashes of the source, on the values below. -/
def firingPlatform : EvaluationPlatform :=
  { localPlatform with
    canonicalJson := fun value =>
      match (value.member? "snapshot").bind (·.member? "window_id"), value.member? "transition" with
      | some (.str windowId), _ =>
          if windowId = "window-1" then
            "983fc0ec37eba446d62fb260300c2a2f91cd58819763dcd4deb12fa91028f572"
          else windowDigest windowId
      | _, some (.str transition) => notificationDigest transition
      | _, _ => "fffac496cedabd494923c9b78ba329f9c866bcd8a80c21de2899a1ac10bd2b23" }

/-- One external action in the window. -/
def firingRequest : RecordRequest :=
  { quietRequest "window-1" "key-1" length_firstWindow with
    snapshot :=
      { (quietRequest "window-1" "key-1" length_firstWindow).snapshot with
        externalActionCount := some 1 }
    assessment :=
      { (quietRequest "window-1" "key-1" length_firstWindow).assessment with
        observedValue := some (.finite 1)
        breached := some true
        evaluated_iff := by decide } }

theorem firingRequest_storable : firingRequest.Storable where
  tenantId := rfl
  actorId := (by decide : 0 < "operator-1".length)
  policyId := (by decide : 0 < "shadow-external-action-safety".length)
  policyVersion := (by decide : 0 < "m2-alert-policy-v1".length)
  window := (by decide : 0 < "one tenant-scoped shadow report batch".length)
  idempotencyKey := by decide
  unmeasured := nofun

def webhookEnqueuer : WebhookOutboxEnqueuer :=
  ⟨⟨true, some "https://alerts.example.com/hook", .finite 3, 3, none⟩, "alerts.example.com", 5⟩

def firingEvent : EvaluationRow :=
  AlertDb.empty.newEvent firingPlatform firingRequest ⟨1, 1⟩

def firingIntent : EnqueueRequest :=
  webhookEnqueuer.intent firingPlatform (rowToEvaluation firingPlatform firingEvent false) 0

theorem firingIntent_checks : checkAll (firingIntent.row 1).checks = .ok () := by
  simp only [checkAll_eq_ok, OutboxRow.checks, List.forall_mem_cons]
  refine ⟨by decide, firingPlatform.canonicalHash_hex _, by decide, by decide,
    firingPlatform.canonicalHash_hex _, by decide, by decide, by decide, by decide, rfl, rfl, rfl,
    by decide, by decide, by decide, by decide, by simp⟩

theorem firing_alert_has_one_intent : ∃ pool,
    RecordPool.Reachable firingPlatform (fun _ => ⟨⟨some webhookEnqueuer⟩, firingRequest⟩) pool ∧
    pool.state.db.outbox = [firingIntent.row 1] ∧ OneIntentEach firingPlatform pool.state.db := by
  obtain ⟨world, ran, db, -⟩ := @solo_stores firingPlatform
    ⟨⟨some webhookEnqueuer⟩, firingRequest⟩ 0 firingEvent [firingIntent.row 1] rfl
    (firingRequest_storable.checks firingPlatform _ _) rfl
    (.intent rfl rfl ⟨rfl, by decide⟩ firingIntent_checks)
    (fun intent member => by rw [List.mem_singleton.mp member]; rfl)
  have start : Reaches (recordSystem firingPlatform
      (fun _ => ⟨⟨some webhookEnqueuer⟩, firingRequest⟩)) RecordPool.start _ := .refl
  have reached := start.solo 0 ⟨none, false⟩ ⟨⟨some webhookEnqueuer⟩, firingRequest⟩ rfl rfl trivial
    ran
  refine ⟨_, reached, ?_, (each_lifecycle_event_has_one_intent (fun _ => rfl) reached).1⟩
  show world.db.outbox = _
  rw [db]
  rfl

end StockoutOps.Alerting
