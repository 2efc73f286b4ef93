import StockoutOps.Alerting.RecordHistory
import StockoutOps.Foundation.Interleaving

/-!
Contract: interleaved calls of `AlertRepository.record` on one database.

Owns: the committed tables with the open transactions, the statements of
`record` as atomic actions on them, the system of concurrent calls, and what
keeps the calls from seeing each other's half-done work.

Does not own: the proof that the calls keep it.

A transaction sees the committed rows and its own. The advisory lock waits for
its holder, and an INSERT waits for an uncommitted row of another transaction
that a unique index would not let stand beside it. Identity sequences hand a
value out whether or not its transaction commits.
-/

namespace StockoutOps.Alerting

open StockoutOps.Foundation.Interleaving

/-- A caller makes one call, in a session of its own. -/
abbrev Caller := Nat

/-- The rows of one open transaction. -/
structure RecordTx where
  evaluations : List EvaluationRow
  intents : List OutboxRow

def RecordTx.empty : RecordTx := ⟨[], []⟩

def AlertDb.grow (db : AlertDb) (tx : RecordTx) : AlertDb :=
  { db with evaluations := db.evaluations ++ tx.evaluations, outbox := db.outbox ++ tx.intents }

@[simp] theorem AlertDb.grow_empty (db : AlertDb) : db.grow .empty = db := by
  simp [AlertDb.grow, RecordTx.empty]

theorem AlertDb.grow_grow (db : AlertDb) (first second : RecordTx) :
    (db.grow first).grow second =
      db.grow ⟨first.evaluations ++ second.evaluations, first.intents ++ second.intents⟩ := by
  simp [AlertDb.grow, List.append_assoc]

/-- The rows of a list that belong to a caller. -/
def ownRows {α : Type} (t : Caller) (rows : List (Caller × α)) : List α :=
  (rows.filter (·.1 == t)).map Prod.snd

/-- The rows of a list without those of a caller. -/
def otherRows {α : Type} (t : Caller) (rows : List (Caller × α)) : List (Caller × α) :=
  rows.filter (·.1 != t)

section Rows

variable {α : Type} {t u : Caller} {rows : List (Caller × α)} {row : α}

theorem mem_ownRows : row ∈ ownRows t rows ↔ (t, row) ∈ rows := by
  simp [ownRows]

theorem mem_concat {entry : Caller × α} :
    entry ∈ rows ++ [(t, row)] ↔ entry ∈ rows ∨ entry = (t, row) := by
  simp

theorem mem_otherRows {entry : Caller × α} :
    entry ∈ otherRows t rows ↔ entry ∈ rows ∧ entry.1 ≠ t := by
  simp [otherRows]

theorem ownRows_append_self : ownRows t (rows ++ [(t, row)]) = ownRows t rows ++ [row] := by
  simp [ownRows]

theorem ownRows_append_other (other : u ≠ t) : ownRows u (rows ++ [(t, row)]) = ownRows u rows := by
  simp [ownRows, other.symm]

theorem ownRows_otherRows (other : u ≠ t) : ownRows u (otherRows t rows) = ownRows u rows := by
  rw [ownRows, otherRows, List.filter_filter, ownRows]
  congr 1
  refine List.filter_congr fun entry _ => ?_
  by_cases same : entry.1 = u <;> simp [same, other]

end Rows

structure RecordWorld where
  /-- The committed tables. -/
  db : AlertDb
  /-- The uncommitted rows, with the callers that inserted them. -/
  pending : List (Caller × EvaluationRow)
  pendingIntents : List (Caller × OutboxRow)
  /-- The holders of the advisory locks. -/
  lock : Int → Option Caller
  nextEvaluationId : Int
  nextOutboxId : Int
  /-- The committed events with the calls that stored them. -/
  log : List (Caller × EvaluationRow)
  /-- The calls whose enqueuer raised. -/
  enqueueFailed : Caller → Bool

namespace RecordWorld

def initial : RecordWorld where
  db := AlertDb.empty
  pending := []
  pendingIntents := []
  lock := fun _ => none
  nextEvaluationId := 1
  nextOutboxId := 1
  log := []
  enqueueFailed := fun _ => false

variable (world : RecordWorld) (t : Caller)

def own : RecordTx := ⟨ownRows t world.pending, ownRows t world.pendingIntents⟩

/-- The tables as the caller's statements see them. -/
def ownDb : AlertDb := world.db.grow (world.own t)

/-- The end of a transaction drops its rows and its locks. -/
def abandon : RecordWorld :=
  { world with
    pending := otherRows t world.pending
    pendingIntents := otherRows t world.pendingIntents
    lock := fun key => if world.lock key = some t then none else world.lock key }

def commit : RecordWorld :=
  { world.abandon t with
    db := world.ownDb t
    log := world.log ++ (world.own t).evaluations.map (fun row => (t, row)) }

def acquire (key : Int) : RecordWorld :=
  { world with lock := Function.update world.lock key (some t) }

def addEvaluation (row : EvaluationRow) : RecordWorld :=
  { world with
    pending := world.pending ++ [(t, row)]
    nextEvaluationId := world.nextEvaluationId + 1 }

def addIntent (row : OutboxRow) : RecordWorld :=
  { world with
    pendingIntents := world.pendingIntents ++ [(t, row)]
    nextOutboxId := world.nextOutboxId + 1 }

def failEnqueue : RecordWorld :=
  { world with enqueueFailed := Function.update world.enqueueFailed t true }

end RecordWorld

/-! ## Statements -/

/-- What the outside decides about a statement: the exception it raises, and
whether a COMMIT that raises has taken effect. -/
structure RecordInput where
  fault : Option Failure
  committed : Bool

abbrev RecordStatement (ρ : Type) :=
  Caller → RecordInput → RecordWorld → Option (Except Failure ρ × RecordWorld)

/-- A call of `record`, statement by statement. -/
abbrev RecordProgram (ρ : Type) := Call Caller RecordInput RecordWorld Failure ρ

instance (left right : EvaluationRow) : Decidable (left.Clashes right) := by
  unfold EvaluationRow.Clashes
  infer_instance

instance (left right : OutboxRow) : Decidable (left.Clashes right) := by
  unfold OutboxRow.Clashes
  infer_instance

namespace RecordStatement

def query {ρ : Type} (read : AlertDb → ρ) : RecordStatement ρ := fun t input world =>
  match input.fault with
  | some failure => some (.error failure, world)
  | none => some (.ok (read (world.ownDb t)), world)

/-- `pg_advisory_xact_lock` -/
def advisoryXactLock (key : Int) : RecordStatement Unit := fun t input world =>
  match input.fault with
  | some failure => some (.error failure, world)
  | none =>
      match world.lock key with
      | none => some (.ok (), world.acquire t key)
      | some holder => if holder = t then some (.ok (), world) else none

def insertEvaluation (makeRow : Int → EvaluationRow) : RecordStatement EvaluationRow :=
  fun t input world =>
    match input.fault with
    | some failure => some (.error failure, world)
    | none =>
        let row := makeRow world.nextEvaluationId
        if ∃ entry ∈ world.pending, entry.1 ≠ t ∧ entry.2.Clashes row then none
        else
          match StockoutOps.Alerting.insertEvaluation (world.ownDb t) row with
          | .ok _ => some (.ok row, world.addEvaluation t row)
          | .error error =>
              some (.error (.database error),
                { world with nextEvaluationId := world.nextEvaluationId + 1 })

def insertIntent (request : EnqueueRequest) : RecordStatement (Option Int) :=
  fun t input world =>
    match input.fault with
    | some failure => some (.error failure, world.failEnqueue t)
    | none =>
        match StockoutOps.Alerting.insertIntent world.nextOutboxId request (world.ownDb t) with
        | .error failure =>
            some (.error failure,
              { world.failEnqueue t with nextOutboxId := world.nextOutboxId + 1 })
        | .ok (none, _) =>
            some (.ok none, { world with nextOutboxId := world.nextOutboxId + 1 })
        | .ok (some id, _) =>
            if ∃ entry ∈ world.pendingIntents, entry.1 ≠ t ∧ entry.2.Clashes (request.row id) then
              none
            else some (.ok (some id), world.addIntent t (request.row id))

def commit : RecordStatement Unit := fun t input world =>
  match input.fault with
  | none => some (.ok (), world.commit t)
  | some failure =>
      some (.error failure, if input.committed then world.commit t else world.abandon t)

def rollback : RecordStatement Unit := fun t _ world =>
  some (.ok (), world.abandon t)

end RecordStatement

/-- `with self.database.connect() as connection, connection.transaction():` -/
def recordTransaction {ρ : Type} (body : RecordProgram ρ) : RecordProgram ρ := do
  match ← Call.attempt body with
  | .ok result => do
      Call.exec RecordStatement.commit
      pure result
  | .error failure => do
      Call.exec RecordStatement.rollback
      Call.raise failure

def AlertStatements.interleaved : AlertStatements RecordProgram where
  transaction := recordTransaction
  raise := Call.raise
  advisoryXactLock key := Call.exec (RecordStatement.advisoryXactLock key)
  selectByKey tenantId fingerprint idempotencyKey := Call.exec (RecordStatement.query
    (fun db => db.evaluationByKey? tenantId fingerprint idempotencyKey))
  selectByPayload tenantId fingerprint payloadHash := Call.exec (RecordStatement.query
    (fun db => db.evaluationByPayload? tenantId fingerprint payloadHash))
  selectLatestState tenantId fingerprint := Call.exec (RecordStatement.query
    (fun db => (db.latestMeasured? tenantId fingerprint).bind (·.state)))
  insertEvaluation makeRow := Call.exec (RecordStatement.insertEvaluation makeRow)
  insertIntent request := Call.exec (RecordStatement.insertIntent request)

/-- `AlertRepository.record`, statement by statement. -/
def Submission.program (platform : EvaluationPlatform) (submission : Submission) :
    RecordProgram AlertEvaluation :=
  submission.repository.record platform AlertStatements.interleaved submission.request

/-- Every caller makes its call at any time. A crash ends the session and with
it the transaction, and the sequences may lose values. -/
def recordSystem (platform : EvaluationPlatform) (calls : Caller → Submission) :
    System Submission Caller RecordInput RecordWorld (Except Failure AlertEvaluation) where
  body := Submission.program platform
  Starts t submission := submission = calls t
  Allowed _ _ := True
  Crash t before after := after = before.abandon t
  Disturb before after := ∃ evaluations outbox : Nat,
    after = { before with
      nextEvaluationId := before.nextEvaluationId + evaluations
      nextOutboxId := before.nextOutboxId + outbox }

abbrev RecordPool := Pool Submission Caller RecordInput RecordWorld (Except Failure AlertEvaluation)

def RecordPool.start : RecordPool := Pool.start RecordWorld.initial

/-- The pools that the calls can lead to. -/
def RecordPool.Reachable (platform : EvaluationPlatform) (calls : Caller → Submission)
    (pool : RecordPool) : Prop :=
  Reaches (recordSystem platform calls) RecordPool.start pool

end StockoutOps.Alerting
