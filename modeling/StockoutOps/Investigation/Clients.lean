import StockoutOps.Investigation.RepositoryRules

/-!
Contract: any number of clients of the database, some of which may die.

Owns: the system of calls with crashes and lost sessions, what a crash and a
lost session leave to the others, the soundness of `Serves` for every
reachable pool of calls, and the calls of the repository.

Does not own: the protocol the calls keep.
-/

namespace StockoutOps.Investigation

open StockoutOps.Sql StockoutOps.Foundation.Interleaving

variable {κ ρ : Type}

/-- Calls of `body` in any order; where `faulty`, a caller may crash between any
two statements and a claim's session may end under its owner. -/
def clients (body : κ → Routine ρ) (Starts : Tid → κ → Prop) (Allowed : Tid → Input → Prop)
    (faulty : Prop) : System κ Tid Input World (Except Failure ρ) where
  body := body
  Starts := Starts
  Allowed := Allowed
  Crash := fun t before after => faulty ∧ after = before.crash t
  Disturb := fun before after => faulty ∧ ∃ t, after = before.loseClaim t

abbrev Clients (κ ρ : Type) := Pool κ Tid Input World (Except Failure ρ)

def View.empty : View where
  db := Db.empty
  commitLog := []
  advisory := fun _ => none
  claimConnection := fun _ => .closed
  invocations := []
  claimedBy := fun _ _ => none

/-- The database after the migrations, with nobody connected. -/
def World.initial : World where
  view := View.empty
  tx := fun _ => Tx.idle
  runLock := fun _ => none
  keyLock := fun _ => none
  nextEventId := 1

theorem Db.keyed_empty : Db.empty.Keyed :=
  ⟨fun _ _ => nofun, fun _ _ => nofun, fun _ _ => nofun, fun _ _ _ => nofun⟩

theorem World.locked_initial : World.initial.Locked where
  pending := fun _ _ => nofun
  saved := fun _ _ => nofun
  keyed := Db.keyed_empty
  events := fun _ => nofun
  advisory := by simp [World.initial, View.empty]

theorem World.idle_initial (t : Tid) : World.initial.Idle t where
  tx := rfl
  runs := by simp [World.initial]
  keys := by simp [World.initial]

/-! ## Crashes and lost sessions -/

section Faults

variable {protocol : Protocol} {world : World} {t : Tid}

theorem World.crash_rely (world : World) {u : Tid} (other : u ≠ t) :
    world.Rely u (world.crash t) where
  view := ⟨.refl _, rfl, .inl (Function.update_of_ne other _ _)⟩
  tx := Function.update_of_ne other _ _
  runLock := fun _ => by
    simp only [World.crash, Statement.rolledBack]
    exact release_eq_some other
  keyLock := fun _ => by
    simp only [World.crash, Statement.rolledBack]
    exact release_eq_some other
  run := fun _ _ => ⟨rfl, rfl, rfl⟩
  key := fun _ _ => rfl
  nextEventId := Nat.le_refl _

theorem World.loseClaim_rely (world : World) (t u : Tid) : world.Rely u (world.loseClaim t) where
  view := by
    refine ⟨.refl _, rfl, ?_⟩
    by_cases same : u = t
    · subst same
      exact .inr (Function.update_self _ _ _)
    · exact .inl (Function.update_of_ne same _ _)
  tx := rfl
  runLock := fun _ => .rfl
  keyLock := fun _ => .rfl
  run := fun _ _ => ⟨rfl, rfl, rfl⟩
  key := fun _ _ => rfl
  nextEventId := Nat.le_refl _

theorem World.locked_crash (locked : world.Locked) (holds : protocol.Holds world.view) :
    (world.crash t).Locked where
  pending := by
    intro u write member
    by_cases same : u = t
    · subst same
      simp [World.crash, Statement.rolledBack, Tx.idle] at member
    · have rely := world.crash_rely (t := t) same
      rw [rely.tx] at member
      have covers := locked.pending u write member
      cases write with
      | insertRun row => exact ⟨(rely.runLock _).mpr covers.1, covers.2⟩
      | updateRun row => exact ⟨(rely.runLock _).mpr covers.1, covers.2⟩
      | insertKey row => exact ⟨(rely.keyLock _).mpr covers.1, covers.2⟩
      | insertEvent row => exact ⟨fun genuine => (rely.runLock _).mpr (covers.1 genuine), covers.2⟩
      | insertDecision row => exact (rely.runLock _).mpr covers
  saved := by
    intro u saved found
    by_cases same : u = t
    · subst same
      simp [World.crash, Statement.rolledBack, Tx.idle] at found
    · rw [(world.crash_rely (t := t) same).tx] at found
      exact locked.saved u saved found
  keyed := locked.keyed
  events := locked.events
  advisory := by
    have ends : ∀ key, ClaimConnection.closed ≠ .held key := by simp
    exact (Protocol.View.touches_endClaim holds ends).sessions

theorem World.locked_loseClaim (locked : world.Locked) (holds : protocol.Holds world.view) :
    (world.loseClaim t).Locked where
  pending := locked.pending
  saved := locked.saved
  keyed := locked.keyed
  events := locked.events
  advisory := by
    have ends : ∀ key, ClaimConnection.lost ≠ .held key := fun _ => nofun
    exact (Protocol.View.touches_endClaim holds ends).sessions

end Faults

/-! ## Soundness -/

namespace Protocol

variable {protocol : Protocol} {t : Tid} {view : View} {α : Type}

/-- A call whose value is only renamed. -/
theorem serves_map {routine : Routine α} {rename : α → ρ}
    {Post : Except Failure ρ → View → Prop}
    (serves : protocol.Serves t routine (fun result => Post (result.map rename)) view) :
    protocol.Serves t (routine >>= fun value => pure (rename value)) Post view := by
  intro world idle relied inv
  have rest : (routine >>= fun value => pure (rename value)) =
      Prog.bind routine (fun result => .ret (result.map rename)) := by
    refine congrArg (Prog.bind routine) (funext fun result => ?_)
    cases result <;> rfl
  rw [rest]
  exact Discipline.Safe.map (serves world idle relied inv)

/-- The calls keep the protocol. `Fresh` is what holds of a caller before its
call, `Post` what holds of the result once the call has ended. -/
structure Accepts (protocol : Protocol) (body : κ → Routine ρ) (Starts : Tid → κ → Prop)
    (Allowed : Tid → Input → Prop) (faulty : Prop) (Fresh : Tid → View → Prop)
    (Post : Tid → κ → Except Failure ρ → View → Prop) : Prop where
  allowed : ∀ t input, Allowed t input → protocol.Allowed t input
  fresh : ∀ t before after, protocol.Later t before after → protocol.Holds after →
    Fresh t before → Fresh t after
  calls : ∀ t call view, Starts t call → protocol.Holds view → Fresh t view →
    protocol.Serves t (body call) (Post t call) view
  endClaim : faulty → ∀ view t connection, protocol.Holds view →
    protocol.Inv (view.endClaim t connection) ∧
      ∀ u, protocol.Rely u view (view.endClaim t connection)

section Accepts

variable {body : κ → Routine ρ} {Starts : Tid → κ → Prop} {Allowed : Tid → Input → Prop}
  {faulty : Prop} {Fresh : Tid → View → Prop} {Post : Tid → κ → Except Failure ρ → View → Prop}

theorem Accepts.verified (accepts : protocol.Accepts body Starts Allowed faulty Fresh Post) :
    Verified (clients body Starts Allowed faulty) protocol.discipline
      (fun t world => world.Idle t ∧ Fresh t world.view)
      (fun t call result world => world.Idle t ∧ Post t call result world.view) where
  allowed := accepts.allowed
  fresh := fun t before after relied inv fresh =>
    ⟨World.InTx.rely fresh.1 relied.1,
      accepts.fresh t _ _ (later_of_rely relied) (holds_of_inv inv) fresh.2⟩
  calls := fun t call world starts inv fresh =>
    accepts.calls t call world.view starts (holds_of_inv inv) fresh.2 world fresh.1
      (.refl protocol t world.view) inv
  crash := by
    rintro t before after ⟨faults, rfl⟩ inv
    have holds := holds_of_inv inv
    obtain ⟨kept, relied⟩ := accepts.endClaim faults before.view t .closed holds
    have guarantee : protocol.Guarantee t before.view (before.crash t).view :=
      ⟨kept, fun u _ => relied u⟩
    exact guarantee_of (World.locked_crash inv.1 holds)
      (fun u other => World.crash_rely before other) guarantee
  disturb := by
    rintro before after ⟨faults, t, rfl⟩ inv
    have holds := holds_of_inv inv
    obtain ⟨kept, relied⟩ := accepts.endClaim faults before.view t .lost holds
    exact ⟨⟨World.locked_loseClaim inv.1 holds, kept⟩,
      fun u => ⟨World.loseClaim_rely before t u, relied u⟩⟩

/-- Every pool of calls reachable from the migrated database is safe. -/
theorem Accepts.reaches (accepts : protocol.Accepts body Starts Allowed faulty Fresh Post)
    (inv : protocol.Inv View.empty) (fresh : ∀ t, Fresh t View.empty) {pool : Clients κ ρ}
    (reaches : Reaches (clients body Starts Allowed faulty) (Pool.start World.initial) pool) :
    pool.Safe protocol.discipline (fun t world => world.Idle t ∧ Fresh t world.view)
      (fun t call result world => world.Idle t ∧ Post t call result world.view) :=
  have start : protocol.discipline.Inv World.initial := ⟨World.locked_initial, inv⟩
  Pool.Safe.reaches accepts.verified
    (Pool.safe_start start fun t => ⟨World.idle_initial t, fresh t⟩) reaches

/-- What is true of every reachable visible state. -/
theorem Accepts.holds (accepts : protocol.Accepts body Starts Allowed faulty Fresh Post)
    (inv : protocol.Inv View.empty) (fresh : ∀ t, Fresh t View.empty) {pool : Clients κ ρ}
    (reaches : Reaches (clients body Starts Allowed faulty) (Pool.start World.initial) pool) :
    protocol.Holds pool.state.view :=
  holds_of_inv (accepts.reaches inv fresh reaches).inv

end Accepts

end Protocol

/-! ## The repository's callers -/

/-- A call of one of the methods that write `workflow_event`. -/
inductive RepositoryCall where
  | beginIntake (call : IntakeCall)
  | transition (principal : Principal) (run : RunRow) (target : RunState) (eventType : String)
      (now : Timestamp) (payload : Json)
  | setDraftAndTransition (provenance : Provenance) (principal : Principal) (run : RunRow)
      (draft : Json) (draftHash : String) (now expiresAt : Timestamp)
  | recordReview (call : ReviewCall)
  | appendRejectedControl (principal : Principal) (runId : RunId) (code : String)
      (now : Timestamp)

/-- What such a call returns. -/
inductive RepositoryReply where
  | intake (result : RunRow × Bool)
  | run (row : RunRow)
  | done

/-- The method a call names. -/
def runRepository : RepositoryCall → Routine RepositoryReply
  | .beginIntake call => do
      let result ← beginIntake call
      pure (.intake result)
  | .transition principal run target eventType now payload => do
      let row ← transition principal run target eventType now payload
      pure (.run row)
  | .setDraftAndTransition provenance principal run draft draftHash now expiresAt => do
      let row ← setDraftAndTransition provenance principal run draft draftHash now expiresAt
      pure (.run row)
  | .recordReview call => do
      let row ← recordReview call
      pure (.run row)
  | .appendRejectedControl principal runId code now => do
      let _ ← appendRejectedControl principal runId code now
      pure .done

theorem length_sku1 : lengthBetween 1 80 "SKU-1" = true := by decide

theorem length_store1 : lengthBetween 1 80 "STORE-1" = true := by decide

theorem length_sup1 : lengthBetween 1 80 "SUP-1" = true := by decide

/-- An intake of one product. -/
def restockIntake : IntakeCall where
  principal := ⟨"planner", "north", ["requester"]⟩
  request :=
    { skuId := "SKU-1"
      storeId := "STORE-1"
      supplierId := "SUP-1"
      asOfTs := 2
      windowStart := 0
      windowEnd := 1
      skuId_bounds := length_sku1
      storeId_bounds := length_store1
      supplierId_bounds := length_sup1
      timestamps := by decide }
  idempotencyKey := "restock"
  payloadHash := "0000000000000000000000000000000000000000000000000000000000000000"
  assignedReviewerId := "reviewer"
  now := 3
  runMode := .humanReview

end StockoutOps.Investigation
