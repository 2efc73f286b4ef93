import Mathlib.Data.List.Nodup
import Mathlib.Logic.Function.Basic
import Mathlib.Logic.Relation

/-!
Contract: fencing tokens for a family of leased resources.

Owns: the protocol in which taking a resource raises its token and settling
it is possible only while it is held; and the two facts any implementation
inherits: a token is handed out once and settled at most once.

Does not own: why a resource may be taken (an expiry, a queue), who holds it,
or what settling does.

A holder that pauses, crashes or is taken over leaves no trace in the state;
its old token is simply below the current one.
-/

namespace StockoutOps.Foundation.Fencing

variable {κ : Type} [DecidableEq κ]

/-- The current token of a resource and whether some holder may still settle it. -/
structure Slot where
  token : Int
  held : Bool
deriving DecidableEq

/-- The slots, with the history of tokens handed out and of tokens settled. -/
structure State (κ : Type) where
  slot : κ → Slot
  taken : List (κ × Int)
  settled : List (κ × Int)

/-- Raise the token of every resource in `batch` and mark it held. -/
def take (batch : List κ) (slot : κ → Slot) (key : κ) : Slot :=
  if key ∈ batch then ⟨(slot key).token + 1, true⟩ else slot key

inductive Step : State κ → State κ → Prop where
  | take (state : State κ) (batch : List κ) (distinct : batch.Nodup) :
      Step state
        ⟨take batch state.slot,
          state.taken ++ batch.map (fun key => (key, (state.slot key).token + 1)),
          state.settled⟩
  | settle (state : State κ) (key : κ) (held : (state.slot key).held = true) :
      Step state
        ⟨Function.update state.slot key ⟨(state.slot key).token, false⟩, state.taken,
          state.settled ++ [(key, (state.slot key).token)]⟩

/-- Handed-out tokens are at most current, settled ones are no longer open. -/
structure Invariant (state : State κ) : Prop where
  takenNodup : state.taken.Nodup
  settledNodup : state.settled.Nodup
  takenBound : ∀ entry ∈ state.taken, entry.2 ≤ (state.slot entry.1).token
  settledBound : ∀ entry ∈ state.settled, entry.2 ≤ (state.slot entry.1).token ∧
    (entry.2 = (state.slot entry.1).token → (state.slot entry.1).held = false)

omit [DecidableEq κ] in
theorem invariant_initial (slot : κ → Slot) : Invariant (⟨slot, [], []⟩ : State κ) := by
  constructor <;> simp

theorem token_le_take (batch : List κ) (slot : κ → Slot) (key : κ) :
    (slot key).token ≤ (take batch slot key).token := by
  unfold take
  split
  · simp only
    omega
  · exact Int.le_refl _

theorem invariant_take {state : State κ} (invariant : Invariant state) {batch : List κ}
    (distinct : batch.Nodup) :
    Invariant
      ⟨take batch state.slot,
        state.taken ++ batch.map (fun key => (key, (state.slot key).token + 1)),
        state.settled⟩ where
  takenNodup := by
    refine List.nodup_append.mpr ⟨invariant.takenNodup, ?_, ?_⟩
    · exact distinct.map (fun left right same => congrArg Prod.fst same)
    · rintro entry old _ fresh rfl
      obtain ⟨key, -, rfl⟩ := List.mem_map.mp fresh
      have bound := invariant.takenBound _ old
      simp only at bound
      omega
  settledNodup := invariant.settledNodup
  takenBound := by
    intro entry member
    rcases List.mem_append.mp member with old | fresh
    · exact Int.le_trans (invariant.takenBound entry old)
        (token_le_take batch state.slot entry.1)
    · obtain ⟨key, inBatch, rfl⟩ := List.mem_map.mp fresh
      simp [take, inBatch]
  settledBound := by
    intro entry member
    obtain ⟨bound, closed⟩ := invariant.settledBound entry member
    by_cases inBatch : entry.1 ∈ batch
    · simp only [take, inBatch, if_true]
      exact ⟨by omega, by omega⟩
    · simpa only [take, inBatch, if_false] using ⟨bound, closed⟩

theorem invariant_settle {state : State κ} (invariant : Invariant state) {key : κ}
    (held : (state.slot key).held = true) :
    Invariant
      ⟨Function.update state.slot key ⟨(state.slot key).token, false⟩, state.taken,
        state.settled ++ [(key, (state.slot key).token)]⟩ where
  takenNodup := invariant.takenNodup
  settledNodup := by
    refine List.nodup_append.mpr ⟨invariant.settledNodup, by simp, ?_⟩
    rintro entry old _ fresh rfl
    obtain rfl := List.mem_singleton.mp fresh
    have closed := (invariant.settledBound _ old).2 rfl
    simp [held] at closed
  takenBound := by
    intro entry member
    have bound := invariant.takenBound entry member
    by_cases same : entry.1 = key
    · subst same
      simpa using bound
    · simpa [Function.update_of_ne same] using bound
  settledBound := by
    intro entry member
    rcases List.mem_append.mp member with old | fresh
    · have bounds := invariant.settledBound entry old
      by_cases same : entry.1 = key
      · subst same
        simpa using bounds.1
      · simpa [Function.update_of_ne same] using bounds
    · obtain rfl := List.mem_singleton.mp fresh
      simp

theorem invariant_step {state next : State κ} (invariant : Invariant state)
    (step : Step state next) : Invariant next := by
  cases step with
  | take batch distinct => exact invariant_take invariant distinct
  | settle key held => exact invariant_settle invariant held

/-- The invariant of every reachable state. -/
theorem invariant_reachable {initial state : State κ} (start : Invariant initial)
    (reachable : Relation.ReflTransGen Step initial state) : Invariant state := by
  induction reachable with
  | refl => exact start
  | tail _ step inductionHypothesis => exact invariant_step inductionHypothesis step

end StockoutOps.Foundation.Fencing
