import StockoutOps.Alerting.Delivery
import StockoutOps.Alerting.RecordHistory
import StockoutOps.Alerting.RowMoves
import StockoutOps.Alerting.WorkerBatch

/-!
Contract: the runs of evaluations, workers and operators on one outbox.

Owns: what one step can do (`DeliveryStep`), to the outbox and to one row, and
the invariant of every run: the tables are those of a run of the outbox, and
the phases of the workers agree with what was handed out and posted.

Does not own: what the deliveries mean to their receivers.
-/

namespace StockoutOps.Alerting

open StockoutOps.Sql

/-! ## What a step can do -/

/-- What each operation can have done. -/
inductive DeliveryStep (platform : EvaluationPlatform) (calls : Nat → Submission)
    (workers : Nat → AlertOutboxWorker) (state : DeliverySystem) :
    DeliveryOp → DeliverySystem → Prop where
  | idle {op : DeliveryOp} : DeliveryStep platform calls workers state op state
  | recorded {caller : Nat} {ids : RecordIds} {evaluation : AlertEvaluation} {db : AlertDb}
      (increasing : ids.Increasing platform (calls caller).request state.outbox.db)
      (returned : (calls caller).repository.recordAtomically platform (calls caller).request ids
        state.outbox.db = .ok (evaluation, db)) (stored : evaluation.idempotentReplay = false) :
      DeliveryStep platform calls workers state (.record caller ids)
        { state with
          outbox := { state.outbox with db := db }
          log := state.log ++
            [(caller, state.outbox.db.newEvent platform (calls caller).request ids)] }
  | redriven {request : RedriveRequest} :
      DeliveryStep platform calls workers state (.redrive request)
        { state with outbox := state.outbox.step (.redrive request) }
  | leased {worker : Nat} {now : Timestamp} {batchSize : Nat} {locked : Int → Bool}
      {batch : List LeasedDelivery} {db : AlertDb} (free : state.phase worker = .serving [])
      (accepted : lease ((workers worker).leaseRequest now batchSize) locked state.outbox.db =
        .ok (batch, db)) :
      DeliveryStep platform calls workers state (.lease worker now batchSize locked)
        ({ state with outbox :=
            { state.outbox with db := db, handedOut := state.outbox.handedOut ++ batch } }.enter
          worker (.serving batch))
  | posted {worker : Nat} {startedAt : Timestamp} {leased : LeasedDelivery}
      {batch : List LeasedDelivery} (next : state.phase worker = .serving (leased :: batch)) :
      DeliveryStep platform calls workers state (.post worker startedAt)
        ({ state with posts := state.posts ++ [postOf workers worker leased] }.enter worker
          (.posting (postOf workers worker leased) startedAt batch))
  | answered {worker : Nat} {outcome : TransportOutcome} {post : Post} {startedAt : Timestamp}
      {batch : List LeasedDelivery} (open_ : state.phase worker = .posting post startedAt batch) :
      DeliveryStep platform calls workers state (.answer worker outcome)
        ({ state with answers := state.answers ++ [(post, outcome)] }.enter worker
          (.answered post startedAt outcome batch))
  | processed {worker : Nat} {completedAt : Timestamp} {ids : SequenceValues} {post : Post}
      {startedAt : Timestamp} {outcome : TransportOutcome} {batch : List LeasedDelivery}
      {result : WorkerRunResult × AlertDb}
      (at_ : state.phase worker = .answered post startedAt outcome batch)
      (accepted : process post.leased (.mk outcome startedAt completedAt ids []) state.outbox.db =
        .ok result) :
      DeliveryStep platform calls workers state (.process worker completedAt ids)
        ({ state with
          outbox := state.outbox.step (.record post.leased
            (Attempt.call post.leased (.mk outcome startedAt completedAt ids [])) ids)
          returned := state.returned ++ [(post, outcome)] }.enter worker (.serving batch))
  | escaped {worker : Nat} {completedAt : Timestamp} {ids : SequenceValues} {post : Post}
      {startedAt : Timestamp} {outcome : TransportOutcome} {batch : List LeasedDelivery}
      (at_ : state.phase worker = .answered post startedAt outcome batch) :
      DeliveryStep platform calls workers state (.process worker completedAt ids)
        (state.enter worker (.serving []))
  | crashed {worker : Nat} :
      DeliveryStep platform calls workers state (.crash worker)
        (state.enter worker (.serving []))

theorem deliveryStep_step (platform : EvaluationPlatform) (calls : Nat → Submission)
    (workers : Nat → AlertOutboxWorker) (state : DeliverySystem) (op : DeliveryOp) :
    DeliveryStep platform calls workers state op (state.step platform calls workers op) := by
  cases op with
  | record caller ids =>
      simp only [DeliverySystem.step]
      split
      case isFalse => exact .idle
      case isTrue increasing =>
        split
        case h_2 => exact .idle
        case h_1 returned =>
          split
          case isTrue => exact .idle
          case isFalse stored => exact .recorded increasing returned (by simpa using stored)
  | redrive request => exact .redriven
  | lease worker now batchSize locked =>
      simp only [DeliverySystem.step]
      split
      case h_2 => exact .idle
      case h_1 free =>
        split
        case h_2 => exact .idle
        case h_1 accepted =>
          simp only [OutboxSystem.step, accepted]
          exact .leased free accepted
  | post worker startedAt =>
      simp only [DeliverySystem.step]
      split
      case h_2 => exact .idle
      case h_1 next => exact .posted next
  | answer worker outcome =>
      simp only [DeliverySystem.step]
      split
      case h_2 => exact .idle
      case h_1 open_ => exact .answered open_
  | process worker completedAt ids =>
      simp only [DeliverySystem.step]
      split
      case h_2 => exact .idle
      case h_1 at_ =>
        split
        case h_2 => exact .escaped at_
        case h_1 accepted => exact .processed at_ accepted
  | crash worker => exact .crashed

/-! ## The outbox of the system -/

section Outbox

variable {platform : EvaluationPlatform} {calls : Nat → Submission}
  {workers : Nat → AlertOutboxWorker} {state next : DeliverySystem} {op : DeliveryOp}

/-- An enqueuer's transaction is an enqueue, or nothing. -/
theorem enqueueEvent_cases {repository : AlertRepository} {request : RecordRequest}
    {ids : RecordIds} {event : EvaluationRow} {db next : AlertDb}
    (accepted : repository.enqueueEvent platform request ids event db = .ok next) :
    next = db ∨ ∃ intent inserted,
      enqueueInTransaction intent ids.outboxId db = .ok (inserted, next) := by
  unfold AlertRepository.enqueueEvent at accepted
  split at accepted
  case h_1 => exact .inl (Except.ok.inj accepted).symm
  case h_2 enqueuer _ =>
    split at accepted
    case isFalse => exact .inl (Except.ok.inj accepted).symm
    case isTrue =>
      obtain ⟨⟨inserted, last⟩, insert, rfl⟩ := map_eq_ok.mp accepted
      unfold insertIntent at insert
      split at insert
      case isTrue => exact .inr ⟨_, inserted, insert⟩
      case isFalse => cases insert

/-- The tables of the system are those of a run of the outbox. -/
theorem DeliveryStep.outbox (step : DeliveryStep platform calls workers state op next) :
    ∃ ops, next.outbox = state.outbox.run ops := by
  cases step with
  | idle => exact ⟨[], rfl⟩
  | @recorded caller ids evaluation db increasing returned stored =>
      obtain ⟨-, recording⟩ := recordAtomically_eq_ok.mp returned
      cases recording with
      | replayedKey bound same => cases stored
      | replayedPayload unbound found => cases stored
      | @inserted middle last unbound unseen insert enqueued =>
          let event := state.outbox.db.newEvent platform (calls caller).request ids
          have appended : state.outbox.step (.appendEvaluation event) =
              { state.outbox with db := middle } := by
            simp only [OutboxSystem.step, event, insert]
          obtain rfl | ⟨intent, inserted, accepted⟩ := enqueueEvent_cases enqueued
          · exact ⟨[.appendEvaluation event], appended.symm⟩
          · refine ⟨[.appendEvaluation event, .enqueue intent ids.outboxId], ?_⟩
            simp only [OutboxSystem.run, List.foldl_cons, List.foldl_nil, appended]
            simp only [OutboxSystem.step, accepted]
  | @redriven request => exact ⟨[.redrive request], rfl⟩
  | @leased worker now batchSize locked batch db free accepted =>
      refine ⟨[.lease ((workers worker).leaseRequest now batchSize) locked], ?_⟩
      simp only [OutboxSystem.run, List.foldl_cons, List.foldl_nil, OutboxSystem.step, accepted]
      rfl
  | posted | answered => exact ⟨[], rfl⟩
  | @processed worker completedAt ids post startedAt outcome batch result at_ accepted =>
      exact ⟨[.record post.leased
        (Attempt.call post.leased (.mk outcome startedAt completedAt ids [])) ids], rfl⟩
  | escaped | crashed => exact ⟨[], rfl⟩

/-- What a step keeps of a row. -/
structure RowKept (op : DeliveryOp) (row after : OutboxRow) : Prop where
  identity : after.toOutboxIdentity = row.toOutboxIdentity
  terminal : row.Terminal →
    after = row ∨ ∃ request, op = .redrive request ∧ redriveTarget request row = true
  inFlight : ∀ leased, HandedOut leased row → after.state = .inFlight →
    after.attemptCount = leased.attemptNumber → after = row

theorem RowKept.refl (op : DeliveryOp) (row : OutboxRow) : RowKept op row row :=
  ⟨rfl, fun _ => .inl rfl, fun _ _ _ _ => rfl⟩

theorem RowMove.kept {outboxOp : OutboxOp} {row after : OutboxRow}
    (move : RowMove state.outbox outboxOp row after) (invariant : OutboxInvariant state.outbox)
    (member : row ∈ state.outbox.db.outbox)
    (redrives : ∀ request, outboxOp = .redrive request → op = .redrive request) :
    RowKept op row after where
  identity := move.identity
  terminal := fun terminal => (move.terminal invariant member terminal).imp_right
    fun ⟨request, operation, selected⟩ => ⟨request, redrives request operation, selected⟩
  inFlight := fun _ from_ => move.inFlight from_

/-- What a step of the system can do to a row. -/
inductive DeliveryMove (workers : Nat → AlertOutboxWorker) (state : DeliverySystem) :
    DeliveryOp → OutboxRow → OutboxRow → Prop where
  | same {op : DeliveryOp} {row : OutboxRow} : DeliveryMove workers state op row row
  | claimed {worker : Nat} {now : Timestamp} {batchSize : Nat} {locked : Int → Bool}
      {row : OutboxRow} (free : state.phase worker = .serving [])
      (claimed : claims ((workers worker).leaseRequest now batchSize) locked state.outbox.db row =
        true) :
      DeliveryMove workers state (.lease worker now batchSize locked) row
        (row.set (leaseProgress ((workers worker).leaseRequest now batchSize) row))
  | recorded {worker : Nat} {completedAt : Timestamp} {ids : SequenceValues} {post : Post}
      {startedAt : Timestamp} {outcome : TransportOutcome} {batch : List LeasedDelivery}
      {row : OutboxRow} (at_ : state.phase worker = .answered post startedAt outcome batch)
      (active : activeLease post.leased row = true) :
      DeliveryMove workers state (.process worker completedAt ids) row
        (row.set (((Attempt.call post.leased
          (.mk outcome startedAt completedAt ids [])).target post.leased).progress row))
  | redriven {request : RedriveRequest} {ceiling : Int} {row : OutboxRow}
      (selected : redriveTarget request row = true) :
      DeliveryMove workers state (.redrive request) row
        (row.set (redriveProgress request ceiling row))

theorem DeliveryMove.kept {row after : OutboxRow} (move : DeliveryMove workers state op row after)
    (invariant : OutboxInvariant state.outbox) (member : row ∈ state.outbox.db.outbox) :
    RowKept op row after := by
  cases move with
  | same => exact .refl op row
  | claimed free claimed =>
      exact (RowMove.claimed claimed).kept invariant member (fun _ => nofun)
  | @recorded worker completedAt ids post startedAt outcome batch _ at_ active =>
      exact (@RowMove.recorded _ _ _ ids _ active).kept invariant member (fun _ => nofun)
  | redriven selected =>
      exact (RowMove.redriven selected).kept invariant member (fun _ same => by cases same; rfl)

/-- A step that stores no event moves the rows; one that does may append an intent. -/
theorem DeliveryStep.moves (step : DeliveryStep platform calls workers state op next)
    (invariant : OutboxInvariant state.outbox) :
    (∃ move, next.outbox.db.outbox = state.outbox.db.outbox.map move ∧
      ∀ row ∈ state.outbox.db.outbox, DeliveryMove workers state op row (move row)) ∨
    ∃ caller ids enqueuer id, op = .record caller ids ∧
      (calls caller).repository.deliveryEnqueuer = some enqueuer ∧
      next.log = state.log ++
        [(caller, state.outbox.db.newEvent platform (calls caller).request ids)] ∧
      next.outbox.db.outbox = state.outbox.db.outbox ++
        [(enqueuer.intent platform (rowToEvaluation platform
          (state.outbox.db.newEvent platform (calls caller).request ids) false)
            (calls caller).request.evaluatedAt).row id] := by
  have still : ∃ move, state.outbox.db.outbox = state.outbox.db.outbox.map move ∧
      ∀ row ∈ state.outbox.db.outbox, DeliveryMove workers state op row (move row) :=
    ⟨id, (List.map_id _).symm, fun _ _ => .same⟩
  have moved : ∀ outboxOp, (∀ row after, RowMove state.outbox outboxOp row after →
        DeliveryMove workers state op row after) →
      (∀ request candidateId, outboxOp ≠ .enqueue request candidateId) →
      ∃ move, (state.outbox.step outboxOp).db.outbox = state.outbox.db.outbox.map move ∧
        ∀ row ∈ state.outbox.db.outbox, DeliveryMove workers state op row (move row) := by
    intro outboxOp moves other
    obtain ⟨move, outbox, rows⟩ | ⟨request, candidateId, -, enqueue, -⟩ :=
      (outboxStep_step state.outbox outboxOp).rows invariant
    · exact ⟨move, outbox, fun row member => moves row (move row) (rows row member)⟩
    · exact absurd enqueue (other request candidateId)
  cases step with
  | idle | posted | answered | escaped | crashed => exact .inl still
  | @recorded caller ids evaluation db increasing returned stored =>
      obtain ⟨-, -, enqueued⟩ := recording_stored returned stored
      cases enqueued with
      | silent | present => exact .inl still
      | @inserted enqueuer last id enqueues lifecycle acceptable insert =>
          obtain ⟨-, -, -, rfl⟩ := insertOutbox_inserts.mp insert
          exact .inr ⟨caller, ids, enqueuer, id, rfl, enqueues, rfl, rfl⟩
  | @redriven request =>
      refine .inl (moved (.redrive request) (fun row after move => ?_)
        (fun _ _ same => by cases same))
      cases move with
      | same => exact .same
      | redriven selected => exact .redriven selected
  | @leased worker now batchSize locked batch db free accepted =>
      refine .inl ?_
      have step := moved (.lease ((workers worker).leaseRequest now batchSize) locked)
        (fun row after move => by
          cases move with
          | same => exact .same
          | claimed claimed => exact .claimed free claimed) (fun _ _ same => by cases same)
      simp only [OutboxSystem.step, accepted] at step
      exact step
  | @processed worker completedAt ids post startedAt outcome batch result at_ accepted =>
      refine .inl (moved (.record post.leased
        (Attempt.call post.leased (.mk outcome startedAt completedAt ids [])) ids)
        (fun row after move => ?_) (fun _ _ same => by cases same))
      cases move with
      | same => exact .same
      | recorded active => exact .recorded at_ active

/-- What a step keeps of the rows, and what it appends. -/
theorem DeliveryStep.rows (step : DeliveryStep platform calls workers state op next)
    (invariant : OutboxInvariant state.outbox) :
    (∃ move, next.outbox.db.outbox = state.outbox.db.outbox.map move ∧
      ∀ row ∈ state.outbox.db.outbox, RowKept op row (move row)) ∨
    ∃ caller ids enqueuer id, op = .record caller ids ∧
      (calls caller).repository.deliveryEnqueuer = some enqueuer ∧
      next.log = state.log ++
        [(caller, state.outbox.db.newEvent platform (calls caller).request ids)] ∧
      next.outbox.db.outbox = state.outbox.db.outbox ++
        [(enqueuer.intent platform (rowToEvaluation platform
          (state.outbox.db.newEvent platform (calls caller).request ids) false)
            (calls caller).request.evaluatedAt).row id] :=
  (step.moves invariant).imp_left fun ⟨move, outbox, moves⟩ =>
    ⟨move, outbox, fun row member => (moves row member).kept invariant member⟩

theorem DeliveryStep.log (step : DeliveryStep platform calls workers state op next) :
    state.log ⊆ next.log := by
  cases step with
  | recorded => exact List.subset_append_left _ _
  | idle | redriven | leased | posted | answered | processed | escaped | crashed =>
      exact fun _ => id

theorem DeliveryStep.handedOut (step : DeliveryStep platform calls workers state op next) :
    state.outbox.handedOut ⊆ next.outbox.handedOut := by
  obtain ⟨ops, run⟩ := step.outbox
  rw [run]
  exact fun _ => mem_handedOut_run ops

theorem DeliveryStep.posts (step : DeliveryStep platform calls workers state op next) :
    state.posts ⊆ next.posts := by
  cases step with
  | posted => exact List.subset_append_left _ _
  | idle | recorded | redriven | leased | answered | processed | escaped | crashed =>
      exact fun _ => id

theorem DeliveryStep.answers (step : DeliveryStep platform calls workers state op next) :
    state.answers ⊆ next.answers := by
  cases step with
  | answered => exact List.subset_append_left _ _
  | idle | recorded | redriven | leased | posted | processed | escaped | crashed =>
      exact fun _ => id

end Outbox

/-! ## The invariant -/

/-- What a worker's phase says is true. -/
structure PhaseInvariant (state : DeliverySystem) (phase : WorkerPhase) : Prop where
  pending : ∀ leased ∈ phase.pending, leased ∈ state.outbox.handedOut
  post : ∀ post, phase.post? = some post → post ∈ state.posts
  answered : ∀ post startedAt outcome batch, phase = .answered post startedAt outcome batch →
    (post, outcome) ∈ state.answers

structure DeliveryInvariant (platform : EvaluationPlatform) (calls : Nat → Submission)
    (workers : Nat → AlertOutboxWorker) (state : DeliverySystem) : Prop where
  outbox : OutboxInvariant state.outbox
  history : HistoryInvariant platform calls state.log state.outbox.db
  phases : ∀ worker, PhaseInvariant state (state.phase worker)
  posts : ∀ post ∈ state.posts, post = postOf workers post.worker post.leased ∧
    post.leased ∈ state.outbox.handedOut
  answers : ∀ answer ∈ state.answers, answer.1 ∈ state.posts
  returned : ∀ call ∈ state.returned, call ∈ state.answers

section Invariant

variable {platform : EvaluationPlatform} {calls : Nat → Submission}
  {workers : Nat → AlertOutboxWorker} {state next : DeliverySystem} {op : DeliveryOp}

theorem deliveryInvariant_initial :
    DeliveryInvariant platform calls workers DeliverySystem.initial where
  outbox := outboxInvariant_initial
  history := historyInvariant_empty
  phases := fun worker =>
    ⟨fun _ member => absurd member List.not_mem_nil, fun _ => nofun, fun _ _ _ _ => nofun⟩
  posts := by simp [DeliverySystem.initial]
  answers := by simp [DeliverySystem.initial]
  returned := by simp [DeliverySystem.initial]

theorem PhaseInvariant.mono {phase : WorkerPhase} (invariant : PhaseInvariant state phase)
    (handedOut : state.outbox.handedOut ⊆ next.outbox.handedOut)
    (posts : state.posts ⊆ next.posts) (answers : state.answers ⊆ next.answers) :
    PhaseInvariant next phase where
  pending := fun leased member => handedOut (invariant.pending leased member)
  post := fun post same => posts (invariant.post post same)
  answered := fun post startedAt outcome batch same =>
    answers (invariant.answered post startedAt outcome batch same)

/-- A worker enters a phase, the others stay in theirs. -/
theorem phases_enter {worker : Nat} {phase : WorkerPhase}
    (others : ∀ other, PhaseInvariant next (state.phase other)) (own : PhaseInvariant next phase) :
    ∀ other, PhaseInvariant next (Function.update state.phase worker phase other) := by
  intro other
  by_cases same : other = worker
  · rw [same, Function.update_self]
    exact own
  · rw [Function.update_of_ne same]
    exact others other

/-- A rewriting of the outbox keeps the history. -/
theorem HistoryInvariant.rewrite {log : List (Nat × EvaluationRow)} {db after : AlertDb}
    (invariant : HistoryInvariant platform calls log db)
    (evaluations : after.evaluations = db.evaluations) {move : OutboxRow → OutboxRow}
    (outbox : after.outbox = db.outbox.map move)
    (identity : ∀ row ∈ db.outbox, (move row).toOutboxIdentity = row.toOutboxIdentity) :
    HistoryInvariant platform calls log after where
  events := invariant.events.trans evaluations.symm
  uniqueIds := by
    rw [evaluations]
    exact invariant.uniqueIds
  increasing := by
    unfold AlertDb.history
    rw [evaluations]
    exact invariant.increasing
  stored := by
    unfold AlertDb.history
    rw [evaluations]
    exact invariant.stored
  owners := by
    rw [outbox, evaluations]
    intro row member
    obtain ⟨old, oldMember, rfl⟩ := List.mem_map.mp member
    rw [identity old oldMember]
    exact invariant.owners old oldMember

/-- Only a call of the repository stores events. -/
theorem DeliveryStep.quiet (step : DeliveryStep platform calls workers state op next)
    (quiet : ∀ caller ids, op ≠ .record caller ids) :
    next.log = state.log ∧ next.outbox.db.evaluations = state.outbox.db.evaluations := by
  cases step with
  | idle | posted | answered | escaped | crashed => exact ⟨rfl, rfl⟩
  | recorded => exact absurd rfl (quiet _ _)
  | @redriven request =>
      exact ⟨rfl, (outboxStep_step state.outbox (.redrive request)).evaluations (fun _ => nofun)⟩
  | leased free accepted =>
      obtain rfl := (lease_ok accepted).tables
      exact ⟨rfl, rfl⟩
  | processed => exact ⟨rfl, (outboxStep_step state.outbox _).evaluations (fun _ => nofun)⟩

/-- A step in which no event is stored keeps the history. -/
theorem DeliveryInvariant.history_quiet
    (invariant : DeliveryInvariant platform calls workers state)
    (step : DeliveryStep platform calls workers state op next)
    (quiet : ∀ caller ids, op ≠ .record caller ids) :
    HistoryInvariant platform calls next.log next.outbox.db := by
  obtain ⟨log, evaluations⟩ := step.quiet quiet
  obtain ⟨move, outbox, rows⟩ | ⟨caller, ids, _, _, stores, -⟩ := step.rows invariant.outbox
  · rw [log]
    exact invariant.history.rewrite evaluations outbox fun row member => (rows row member).identity
  · exact absurd stores (quiet caller ids)

theorem DeliveryInvariant.history_step
    (invariant : DeliveryInvariant platform calls workers state)
    (step : DeliveryStep platform calls workers state op next) :
    HistoryInvariant platform calls next.log next.outbox.db := by
  have quiet := invariant.history_quiet step
  cases step with
  | idle => exact invariant.history
  | recorded increasing returned stored =>
      exact historyInvariant_call invariant.history increasing.1 returned stored
  | redriven | leased | posted | answered | processed | escaped | crashed =>
      exact quiet fun _ _ => nofun

/-- A phase that is left alone stays true. -/
theorem PhaseInvariant.step {phase : WorkerPhase} (invariant : PhaseInvariant state phase)
    (step : DeliveryStep platform calls workers state op next) : PhaseInvariant next phase :=
  invariant.mono step.handedOut step.posts step.answers

theorem phaseInvariant_resting : PhaseInvariant state (.serving []) :=
  ⟨fun _ member => absurd member List.not_mem_nil, fun _ => nofun, fun _ _ _ _ => nofun⟩

/-- A worker enters a phase with what it has done in the step, or rests. -/
theorem DeliveryInvariant.phases_step
    (invariant : DeliveryInvariant platform calls workers state)
    (step : DeliveryStep platform calls workers state op next) :
    ∀ worker, PhaseInvariant next (next.phase worker) := by
  have others := fun other => (invariant.phases other).step step
  cases step with
  | idle | recorded | redriven => exact others
  | leased free accepted =>
      exact phases_enter others
        ⟨fun _ => List.mem_append_right _, fun _ => nofun, fun _ _ _ _ => nofun⟩
  | @posted worker startedAt leased batch serves =>
      have own := invariant.phases worker
      rw [serves] at own
      exact phases_enter others ⟨own.pending, fun post same => by
        obtain rfl := Option.some.inj same
        exact List.mem_append_right _ (List.mem_singleton.mpr rfl), fun _ _ _ _ => nofun⟩
  | @answered worker outcome post startedAt batch posting =>
      have own := invariant.phases worker
      rw [posting] at own
      exact phases_enter others ⟨own.pending, own.post, fun post startedAt outcome batch same => by
        cases same
        exact List.mem_append_right _ (List.mem_singleton.mpr rfl)⟩
  | @processed worker completedAt ids post startedAt outcome batch result at_ accepted =>
      have own := others worker
      rw [at_] at own
      exact phases_enter others
        ⟨fun leased member => own.pending leased (List.mem_cons_of_mem _ member),
          fun _ => nofun, fun _ _ _ _ => nofun⟩
  | escaped | crashed => exact phases_enter others phaseInvariant_resting

/-- A worker posts what it was handed. -/
theorem DeliveryInvariant.posts_step
    (invariant : DeliveryInvariant platform calls workers state)
    (step : DeliveryStep platform calls workers state op next) :
    ∀ post ∈ next.posts, post = postOf workers post.worker post.leased ∧
      post.leased ∈ next.outbox.handedOut := by
  intro post member
  have old : post ∈ state.posts → post = postOf workers post.worker post.leased ∧
      post.leased ∈ next.outbox.handedOut :=
    fun earlier => (invariant.posts post earlier).imp_right (step.handedOut ·)
  cases step with
  | @posted worker startedAt leased batch serves =>
      have pending := (invariant.phases worker).pending
      rw [serves] at pending
      rcases List.mem_append.mp member with earlier | new
      · exact old earlier
      · rw [List.mem_singleton.mp new]
        exact ⟨rfl, pending leased List.mem_cons_self⟩
  | idle | recorded | redriven | leased | answered | processed | escaped | crashed =>
      exact old member

/-- What is answered was posted. -/
theorem DeliveryInvariant.answers_step
    (invariant : DeliveryInvariant platform calls workers state)
    (step : DeliveryStep platform calls workers state op next) :
    ∀ answer ∈ next.answers, answer.1 ∈ next.posts := by
  intro answer member
  have old : answer ∈ state.answers → answer.1 ∈ next.posts :=
    fun earlier => step.posts (invariant.answers answer earlier)
  cases step with
  | @answered worker outcome post startedAt batch posting =>
      have own := invariant.phases worker
      rw [posting] at own
      rcases List.mem_append.mp member with earlier | new
      · exact old earlier
      · rw [List.mem_singleton.mp new]
        exact own.post post rfl
  | idle | recorded | redriven | leased | posted | processed | escaped | crashed =>
      exact old member

/-- What is recorded was answered. -/
theorem DeliveryInvariant.returned_step
    (invariant : DeliveryInvariant platform calls workers state)
    (step : DeliveryStep platform calls workers state op next) :
    ∀ call ∈ next.returned, call ∈ next.answers := by
  intro call member
  have old : call ∈ state.returned → call ∈ next.answers :=
    fun earlier => step.answers (invariant.returned call earlier)
  cases step with
  | @processed worker completedAt ids post startedAt outcome batch result at_ accepted =>
      have own := invariant.phases worker
      rw [at_] at own
      rcases List.mem_append.mp member with earlier | new
      · exact old earlier
      · rw [List.mem_singleton.mp new]
        exact own.answered post startedAt outcome batch rfl
  | idle | recorded | redriven | leased | posted | answered | escaped | crashed =>
      exact old member

theorem deliveryInvariant_step (invariant : DeliveryInvariant platform calls workers state)
    (step : DeliveryStep platform calls workers state op next) :
    DeliveryInvariant platform calls workers next where
  outbox := by
    obtain ⟨ops, run⟩ := step.outbox
    rw [run]
    exact outboxInvariant_run ops invariant.outbox
  history := invariant.history_step step
  phases := invariant.phases_step step
  posts := invariant.posts_step step
  answers := invariant.answers_step step
  returned := invariant.returned_step step

theorem deliveryInvariant_run (ops : List DeliveryOp)
    (invariant : DeliveryInvariant platform calls workers state) :
    DeliveryInvariant platform calls workers (state.run platform calls workers ops) := by
  induction ops generalizing state with
  | nil => exact invariant
  | cons op rest inductionHypothesis =>
      exact inductionHypothesis (deliveryInvariant_step invariant
        (deliveryStep_step platform calls workers state op))

end Invariant

end StockoutOps.Alerting
