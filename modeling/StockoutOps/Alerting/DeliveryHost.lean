import StockoutOps.Alerting.DeliveryEvidence

/-!
Contract: the host an intent is bound to, and the host it is sent to.

Owns: the settings behind an intent's `destination_host` and behind a POST, and
the runs in which the two name one host.

Does not own: name resolution, and what answers at a host.
-/

namespace StockoutOps.Alerting

open StockoutOps.Sql

/-- The intent reports a stored event, to the host of its enqueuer. -/
structure EnqueuedBy (platform : EvaluationPlatform) (calls : Nat → Submission)
    (entry : Nat × EvaluationRow) (enqueuer : WebhookOutboxEnqueuer) (row : OutboxRow) : Prop where
  enqueues : (calls entry.1).repository.deliveryEnqueuer = some enqueuer
  reports : Reports platform entry.2 row
  destinationHost : row.destinationHost = enqueuer.destinationHost

theorem EnqueuedBy.congr {platform : EvaluationPlatform} {calls : Nat → Submission}
    {entry : Nat × EvaluationRow} {enqueuer : WebhookOutboxEnqueuer} {row after : OutboxRow}
    (enqueued : EnqueuedBy platform calls entry enqueuer row)
    (identity : after.toOutboxIdentity = row.toOutboxIdentity) :
    EnqueuedBy platform calls entry enqueuer after where
  enqueues := enqueued.enqueues
  reports := enqueued.reports.congr identity
  destinationHost := by
    rw [identity]
    exact enqueued.destinationHost

/-- Every intent has its event and its enqueuer. -/
def IntentsEnqueued (platform : EvaluationPlatform) (calls : Nat → Submission)
    (state : DeliverySystem) : Prop :=
  ∀ row ∈ state.outbox.db.outbox, ∃ entry ∈ state.log, ∃ enqueuer,
    EnqueuedBy platform calls entry enqueuer row

section Enqueued

variable {platform : EvaluationPlatform} {calls : Nat → Submission}
  {workers : Nat → AlertOutboxWorker} {state next : DeliverySystem} {op : DeliveryOp}

theorem intentsEnqueued_initial : IntentsEnqueued platform calls .initial := by
  simp [IntentsEnqueued, DeliverySystem.initial, OutboxSystem.initial, AlertDb.empty]

theorem intentsEnqueued_step (enqueued : IntentsEnqueued platform calls state)
    (invariant : DeliveryInvariant platform calls workers state)
    (step : DeliveryStep platform calls workers state op next) :
    IntentsEnqueued platform calls next := by
  have log := step.log
  obtain ⟨move, outbox, rows⟩ | ⟨caller, ids, enqueuer, id, -, enqueues, stored, outbox⟩ :=
    step.rows invariant.outbox
  · intro row member
    rw [outbox] at member
    obtain ⟨old, oldMember, rfl⟩ := List.mem_map.mp member
    obtain ⟨entry, entryMember, enqueuer, by_⟩ := enqueued old oldMember
    exact ⟨entry, log entryMember, enqueuer, by_.congr (rows old oldMember).identity⟩
  · intro row member
    rw [outbox] at member
    rcases List.mem_append.mp member with old | new
    · obtain ⟨entry, entryMember, enqueuer, by_⟩ := enqueued row old
      exact ⟨entry, log entryMember, enqueuer, by_⟩
    · rw [List.mem_singleton.mp new]
      refine ⟨(caller, state.outbox.db.newEvent platform (calls caller).request ids), ?_, enqueuer,
        enqueues, reports_intent platform enqueuer _ _ id, rfl⟩
      rw [stored]
      exact List.mem_append_right _ (List.mem_singleton.mpr rfl)

end Enqueued

/-! ## Hosts -/

/-- An enqueuer binds the host of its own URL. -/
theorem WebhookOutboxEnqueuer.create_ok {urlparse : UrlParser} {settings : AlertDeliverySettings}
    {maxAttempts : Int} {enqueuer : WebhookOutboxEnqueuer}
    (created : create urlparse settings maxAttempts = .ok enqueuer) :
    ∃ url, enqueuer.settings.webhookUrl = some url ∧
      Alerting.destinationHost urlparse url = .ok enqueuer.destinationHost := by
  simp only [create, guard_bind_eq_ok] at created
  obtain ⟨-, created⟩ := created
  split at created
  case h_1 url enabled webhookUrl =>
    obtain ⟨host, named, made⟩ := bind_eq_ok.mp created
    obtain rfl := Except.ok.inj made
    exact ⟨url, webhookUrl, named⟩
  case h_2 => cases created

/-- A worker posts to the URL of its own settings. -/
theorem buildWorker_ok {urlparse : UrlParser} {settings : AlertDeliverySettings}
    {workerId : String} {leaseSeconds : Int} {worker : AlertOutboxWorker}
    (built : buildWorker urlparse settings workerId leaseSeconds = .ok worker) :
    worker.transport.settings.webhookUrl = some worker.transport.webhookUrl := by
  unfold buildWorker at built
  split at built
  case isTrue => cases built
  case isFalse =>
    obtain ⟨transport, created, made⟩ := bind_eq_ok.mp built
    split at made
    case isTrue => cases made
    case isFalse =>
      obtain rfl := Except.ok.inj made
      simp only [WebhookTransport.create, guard_bind_eq_ok] at created
      obtain ⟨-, created⟩ := created
      split at created
      case h_1 => cases created
      case h_2 url webhookUrl =>
        obtain rfl := Except.ok.inj created
        exact webhookUrl

/-- The settings of the worker and of the enqueuer name one host. -/
def NamesOneHost (urlparse : UrlParser) (worker : AlertOutboxWorker)
    (enqueuer : WebhookOutboxEnqueuer) : Prop :=
  ∃ sent bound, worker.transport.settings.webhookUrl = some sent ∧
    enqueuer.settings.webhookUrl = some bound ∧
    destinationHost urlparse sent = destinationHost urlparse bound

/-- Every POST for a row went to the row's host, which accepted the delivered ones. -/
structure SentToBoundHost (urlparse : UrlParser) (state : DeliverySystem) : Prop where
  posts : ∀ post ∈ state.posts, ∀ row ∈ state.outbox.db.outbox,
    row.outboxId = post.leased.outboxId →
      destinationHost urlparse post.request.url = .ok row.destinationHost
  delivered : ∀ row ∈ state.outbox.db.outbox, row.state = .delivered →
    ∃ call ∈ state.answers, call.1.leased.outboxId = row.outboxId ∧
      call.2.decision.outcome = .delivered ∧
      destinationHost urlparse call.1.request.url = .ok row.destinationHost ∧
      ∃ ledger, LedgerEvidence state.outbox.db row ledger

/-- A POST is made by a worker whose settings name the host that the settings of
the intent's enqueuer name. -/
def SendsToBoundHost (urlparse : UrlParser) (calls : Nat → Submission)
    (workers : Nat → AlertOutboxWorker) (state : DeliverySystem) : DeliveryOp → Prop
  | .post worker _ =>
      match state.phase worker with
      | .serving (leased :: _) => ∀ entry ∈ state.log,
          entry.2.alertEvaluationId = leased.evaluationId → ∀ enqueuer,
            (calls entry.1).repository.deliveryEnqueuer = some enqueuer →
              NamesOneHost urlparse (workers worker) enqueuer
      | _ => True
  | _ => True

section Hosts

variable {platform : EvaluationPlatform} {urlparse : UrlParser} {calls : Nat → Submission}
  {workers : Nat → AlertOutboxWorker} {state next : DeliverySystem} {op : DeliveryOp}

/-- Every POST went to the host its delivery names. -/
def PostsNameHost (urlparse : UrlParser) (state : DeliverySystem) : Prop :=
  ∀ post ∈ state.posts,
    destinationHost urlparse post.request.url = .ok post.leased.destinationHost

theorem sentToBoundHost_iff (invariant : DeliveryInvariant platform calls workers state)
    (events : EventsAnswered state) :
    SentToBoundHost urlparse state ↔ PostsNameHost urlparse state := by
  constructor
  · intro sent post member
    obtain ⟨row, rowMember, from_⟩ :=
      invariant.outbox.handedOut post.leased (invariant.posts post member).2
    rw [sent.posts post member row rowMember from_.identity.outboxId.symm,
      from_.identity.destinationHost]
  · intro named
    have rowHost : ∀ post ∈ state.posts, ∀ row ∈ state.outbox.db.outbox,
        row.outboxId = post.leased.outboxId →
          destinationHost urlparse post.request.url = .ok row.destinationHost := by
      intro post member row rowMember same
      obtain ⟨other, otherMember, from_⟩ :=
        invariant.outbox.handedOut post.leased (invariant.posts post member).2
      obtain rfl := eq_of_outboxId_eq invariant.outbox.evidence.uniqueIds rowMember otherMember
        (same.trans from_.identity.outboxId)
      rw [named post member, from_.identity.destinationHost]
    refine ⟨rowHost, fun row member delivered => ?_⟩
    have evidence := invariant.outbox.evidence.terminal row member
    obtain ⟨event, found, outcome, -⟩ := evidence.delivered delivered
    obtain ⟨call, callMember, of_⟩ := events event found.recorded
    have same : call.1.leased.outboxId = row.outboxId := of_.outboxId.symm.trans found.outboxId
    exact ⟨call, callMember, same, of_.outcome.symm.trans outcome,
      rowHost call.1 (invariant.answers call callMember) row member same.symm,
      evidence.ledger (.inl delivered)⟩

theorem DeliveryStep.posts_eq (step : DeliveryStep platform calls workers state op next)
    (other : ∀ worker startedAt, op ≠ .post worker startedAt) : next.posts = state.posts := by
  cases step with
  | posted => exact absurd rfl (other _ _)
  | idle | recorded | redriven | leased | answered | processed | escaped | crashed => rfl

/-- A worker's POST goes to the bound host when the settings agree. -/
theorem postOf_host_iff
    (enqueuersCreated : ∀ caller enqueuer,
      (calls caller).repository.deliveryEnqueuer = some enqueuer → ∃ settings maxAttempts,
        WebhookOutboxEnqueuer.create urlparse settings maxAttempts = .ok enqueuer)
    (workersBuilt : ∀ index, ∃ settings workerId leaseSeconds,
      buildWorker urlparse settings workerId leaseSeconds = .ok (workers index))
    (invariant : DeliveryInvariant platform calls workers state)
    (enqueued : IntentsEnqueued platform calls state) {worker : Nat} {leased : LeasedDelivery}
    (handedOut : leased ∈ state.outbox.handedOut) :
    destinationHost urlparse (postOf workers worker leased).request.url =
        .ok leased.destinationHost ↔
      ∀ entry ∈ state.log, entry.2.alertEvaluationId = leased.evaluationId → ∀ enqueuer,
        (calls entry.1).repository.deliveryEnqueuer = some enqueuer →
          NamesOneHost urlparse (workers worker) enqueuer := by
  obtain ⟨row, member, from_⟩ := invariant.outbox.handedOut leased handedOut
  obtain ⟨entry, entryMember, enqueuer, by_⟩ := enqueued row member
  obtain ⟨settings, maxAttempts, created⟩ := enqueuersCreated entry.1 enqueuer by_.enqueues
  obtain ⟨bound, boundUrl, boundHost⟩ := WebhookOutboxEnqueuer.create_ok created
  obtain ⟨_, _, _, built⟩ := workersBuilt worker
  have sentUrl := buildWorker_ok built
  have host : leased.destinationHost = enqueuer.destinationHost :=
    from_.identity.destinationHost.trans by_.destinationHost
  have event : entry.2.alertEvaluationId = leased.evaluationId :=
    by_.reports.evaluationId.symm.trans from_.identity.evaluationId.symm
  constructor
  · intro sent other otherMember same otherEnqueuer otherEnqueues
    obtain rfl := invariant.history.log_unique otherMember entryMember (same.trans event.symm)
    obtain rfl := Option.some.inj (otherEnqueues.symm.trans by_.enqueues)
    refine ⟨_, bound, sentUrl, boundUrl, ?_⟩
    rw [boundHost, ← host]
    exact sent
  · intro agree
    obtain ⟨sent, other, sentIs, otherIs, same⟩ :=
      agree entry entryMember event enqueuer by_.enqueues
    obtain rfl := Option.some.inj (sentIs.symm.trans sentUrl)
    obtain rfl := Option.some.inj (otherIs.symm.trans boundUrl)
    rw [host, ← boundHost, ← same]
    rfl

theorem postsNameHost_step_iff
    (enqueuersCreated : ∀ caller enqueuer,
      (calls caller).repository.deliveryEnqueuer = some enqueuer → ∃ settings maxAttempts,
        WebhookOutboxEnqueuer.create urlparse settings maxAttempts = .ok enqueuer)
    (workersBuilt : ∀ index, ∃ settings workerId leaseSeconds,
      buildWorker urlparse settings workerId leaseSeconds = .ok (workers index))
    (invariant : DeliveryInvariant platform calls workers state)
    (enqueued : IntentsEnqueued platform calls state) (op : DeliveryOp) :
    PostsNameHost urlparse (state.step platform calls workers op) ↔
      PostsNameHost urlparse state ∧ SendsToBoundHost urlparse calls workers state op := by
  have quiet (other : ∀ worker startedAt, op ≠ .post worker startedAt) :
      PostsNameHost urlparse (state.step platform calls workers op) ↔
        PostsNameHost urlparse state := by
    rw [PostsNameHost, (deliveryStep_step platform calls workers state op).posts_eq other]
    rfl
  cases op with
  | record | redrive | lease | answer | process | crash =>
      simpa only [SendsToBoundHost, and_true] using quiet (fun _ _ => nofun)
  | post worker startedAt =>
      cases serves : state.phase worker with
      | posting | answered => simp [DeliverySystem.step, SendsToBoundHost, serves]
      | serving batch =>
          cases batch with
          | nil => simp [DeliverySystem.step, SendsToBoundHost, serves]
          | cons leased batch =>
              have phase := invariant.phases worker
              rw [serves] at phase
              have handedOut := phase.pending leased List.mem_cons_self
              simp only [DeliverySystem.step, SendsToBoundHost, serves]
              rw [← postOf_host_iff enqueuersCreated workersBuilt invariant enqueued handedOut]
              constructor
              · intro named
                exact ⟨fun post member => named post (List.mem_append_left _ member),
                  named _ (List.mem_append_right _ (List.mem_singleton.mpr rfl))⟩
              · rintro ⟨named, new⟩ post member
                rcases List.mem_append.mp member with old | last
                · exact named post old
                · rw [List.mem_singleton.mp last]
                  exact new

theorem postsNameHost_run_iff
    (enqueuersCreated : ∀ caller enqueuer,
      (calls caller).repository.deliveryEnqueuer = some enqueuer → ∃ settings maxAttempts,
        WebhookOutboxEnqueuer.create urlparse settings maxAttempts = .ok enqueuer)
    (workersBuilt : ∀ index, ∃ settings workerId leaseSeconds,
      buildWorker urlparse settings workerId leaseSeconds = .ok (workers index))
    (ops : List DeliveryOp) (invariant : DeliveryInvariant platform calls workers state)
    (enqueued : IntentsEnqueued platform calls state) :
    PostsNameHost urlparse (state.run platform calls workers ops) ↔
      PostsNameHost urlparse state ∧ DeliverySystem.EachStep platform calls workers
        (SendsToBoundHost urlparse calls workers) state ops := by
  induction ops generalizing state with
  | nil => exact (and_iff_left trivial).symm
  | cons op rest inductionHypothesis =>
      have step := deliveryStep_step platform calls workers state op
      have later := inductionHypothesis (deliveryInvariant_step invariant step)
        (intentsEnqueued_step enqueued invariant step)
      rw [postsNameHost_step_iff enqueuersCreated workersBuilt invariant enqueued, and_assoc]
        at later
      exact later

end Hosts

/-- A run sends every POST to the host its intent is bound to, and the delivered
ones were accepted there, exactly when every POST is made by a worker whose
settings name the host that the settings of the intent's enqueuer named. -/
theorem sent_to_bound_host_iff {platform : EvaluationPlatform} {urlparse : UrlParser}
    {calls : Nat → Submission} {workers : Nat → AlertOutboxWorker}
    (enqueuersCreated : ∀ caller enqueuer,
      (calls caller).repository.deliveryEnqueuer = some enqueuer → ∃ settings maxAttempts,
        WebhookOutboxEnqueuer.create urlparse settings maxAttempts = .ok enqueuer)
    (workersBuilt : ∀ index, ∃ settings workerId leaseSeconds,
      buildWorker urlparse settings workerId leaseSeconds = .ok (workers index))
    (ops : List DeliveryOp) :
    SentToBoundHost urlparse (DeliverySystem.initial.run platform calls workers ops) ↔
      DeliverySystem.EachStep platform calls workers (SendsToBoundHost urlparse calls workers)
        .initial ops := by
  have invariant := deliveryInvariant_run ops
    (@deliveryInvariant_initial platform calls workers)
  rw [sentToBoundHost_iff invariant
    (eventsAnswered_run ops eventsAnswered_initial deliveryInvariant_initial),
    postsNameHost_run_iff enqueuersCreated workersBuilt ops deliveryInvariant_initial
      intentsEnqueued_initial]
  exact and_iff_right (by simp [PostsNameHost, DeliverySystem.initial])

/-! ### A URL changed between the evaluation and the send -/

/-- `urlparse` on the URLs of two receivers. -/
def receiverUrls (url : String) : Except String ParsedUrl :=
  if url = "https://alerts.example.com/hook" then
    .ok ⟨"https", none, none, some "alerts.example.com", .ok none⟩
  else if url = "https://pager.example.com/hook" then
    .ok ⟨"https", none, none, some "pager.example.com", .ok none⟩
  else .ok ⟨"", none, none, none, .ok none⟩

def webhookSettings (url : String) : AlertDeliverySettings :=
  ⟨true, some url, .finite 3, 3, none⟩

def workersPostingTo (url : String) (_ : Nat) : AlertOutboxWorker where
  transport := ⟨webhookSettings url, url⟩
  workerId := "worker-1"

theorem firingCalls_created (caller : Nat) (enqueuer : WebhookOutboxEnqueuer)
    (enqueues : (firingCalls caller).repository.deliveryEnqueuer = some enqueuer) :
    ∃ settings maxAttempts,
      WebhookOutboxEnqueuer.create receiverUrls settings maxAttempts = .ok enqueuer := by
  obtain rfl := Option.some.inj enqueues
  exact ⟨webhookSettings "https://alerts.example.com/hook", 5, rfl⟩

/-- The alert was enqueued for one receiver and is posted to the other. -/
theorem changedUrl_run :
    let state := DeliverySystem.initial.run firingPlatform firingCalls
      (workersPostingTo "https://pager.example.com/hook") (quickReceiver.take 3)
    (state.posts.map fun post => (post.request.url, post.leased.outboxId)) =
        [("https://pager.example.com/hook", 1)] ∧
      (state.outbox.db.outbox.map fun row => (row.outboxId, row.destinationHost)) =
        [(1, "alerts.example.com")] := by
  decide +kernel

theorem changed_url_misses_bound_host :
    (∀ caller enqueuer, (firingCalls caller).repository.deliveryEnqueuer = some enqueuer →
      ∃ settings maxAttempts,
        WebhookOutboxEnqueuer.create receiverUrls settings maxAttempts = .ok enqueuer) ∧
    (∀ index, ∃ settings workerId leaseSeconds,
      buildWorker receiverUrls settings workerId leaseSeconds =
        .ok (workersPostingTo "https://pager.example.com/hook" index)) ∧
    ¬ SentToBoundHost receiverUrls (DeliverySystem.initial.run firingPlatform firingCalls
      (workersPostingTo "https://pager.example.com/hook") (quickReceiver.take 3)) := by
  refine ⟨firingCalls_created, fun _ => ⟨_, _, _, @rfl _ (buildWorker receiverUrls
    (webhookSettings "https://pager.example.com/hook") "worker-1")⟩, fun sent => ?_⟩
  obtain ⟨posts, outbox⟩ := changedUrl_run
  obtain ⟨post, member, posted⟩ := List.mem_map.mp (posts.symm ▸ List.mem_singleton.mpr rfl)
  obtain ⟨row, rowMember, bound⟩ := List.mem_map.mp (outbox.symm ▸ List.mem_singleton.mpr rfl)
  simp only [Prod.mk.injEq] at posted bound
  have host := sent.posts post member row rowMember (bound.1.trans posted.2.symm)
  rw [posted.1, bound.2] at host
  exact absurd (Except.ok.inj host) (by decide)

/-- The worker's URL is the enqueuer's. -/
theorem kept_url_meets_bound_host :
    SentToBoundHost receiverUrls (DeliverySystem.initial.run firingPlatform firingCalls
      (workersPostingTo "https://alerts.example.com/hook") quickReceiver) := by
  refine (sent_to_bound_host_iff firingCalls_created (fun _ => ⟨_, _, _, @rfl _ (buildWorker
    receiverUrls (webhookSettings "https://alerts.example.com/hook") "worker-1")⟩)
    quickReceiver).mpr ?_
  refine .of_forall (fun state op => ?_) _ _
  cases op with
  | record | redrive | lease | answer | process | crash => trivial
  | post worker startedAt =>
      simp only [SendsToBoundHost]
      split
      case h_2 => trivial
      case h_1 =>
        intro entry _ _ enqueuer enqueues
        obtain rfl := Option.some.inj enqueues
        exact ⟨_, _, rfl, rfl, rfl⟩

end StockoutOps.Alerting
