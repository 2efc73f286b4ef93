import Mathlib.Data.List.Nodup
import Mathlib.Order.Basic

/-!
Contract: logs of state transitions.

Owns: a log whose entries form a chain along the edges of a transition table,
how a chain is extended, that replaying a chain, or any numbered log that
contains it among other entries, gives its last state, and that the entries
that change a two-valued state alternate.

Does not own: the states, the table, or how entries are numbered.
-/

namespace StockoutOps.Foundation.TransitionLog

variable {S E : Type} {source target : E → S} {edge : S → S → Prop}

/-- Every entry starts where the one before it ended, and is an edge. -/
def Chain (source target : E → S) (edge : S → S → Prop) : S → List E → S → Prop
  | start, [], last => start = last
  | start, entry :: rest, last =>
      source entry = start ∧ edge start (target entry) ∧
        Chain source target edge (target entry) rest last

theorem Chain.snoc {start last : S} {log : List E} {entry : E}
    (chain : Chain source target edge start log last) (starts : source entry = last)
    (allowed : edge last (target entry)) :
    Chain source target edge start (log ++ [entry]) (target entry) := by
  induction log generalizing start with
  | nil =>
      obtain rfl : start = last := chain
      exact ⟨starts, allowed, rfl⟩
  | cons head tail inductionHypothesis =>
      obtain ⟨headStarts, headAllowed, rest⟩ := chain
      exact ⟨headStarts, headAllowed, inductionHypothesis rest⟩

/-- Replaying a chain ends in its last state. -/
theorem Chain.replay {start last : S} {log : List E}
    (chain : Chain source target edge start log last) :
    log.foldl (fun _ entry => target entry) start = last := by
  induction log generalizing start with
  | nil => exact chain
  | cons head tail inductionHypothesis => exact inductionHypothesis chain.2.2

/-- Every entry of a chain starts where the entry before it ended. -/
theorem Chain.source_eq {start last : S} {before after : List E} {entry : E}
    (chain : Chain source target edge start (before ++ entry :: after) last) :
    source entry = (before.getLast?.map target).getD start := by
  induction before generalizing start with
  | nil => exact chain.1
  | cons head tail inductionHypothesis =>
      rw [inductionHypothesis chain.2.2, List.getLast?_cons]
      cases tail.getLast? <;> rfl

/-- A chain seen through a function of the state. -/
theorem Chain.map {T : Type} {start last : S} {log : List E} (observe : S → T)
    {observed : T → T → Prop} (kept : ∀ left right, edge left right →
      observed (observe left) (observe right))
    (chain : Chain source target edge start log last) :
    Chain (fun entry => observe (source entry)) (fun entry => observe (target entry)) observed
      (observe start) log (observe last) := by
  induction log generalizing start with
  | nil => exact congrArg observe chain
  | cons head tail inductionHypothesis =>
      obtain ⟨starts, allowed, rest⟩ := chain
      exact ⟨congrArg observe starts, kept _ _ allowed, inductionHypothesis rest⟩

/-- A replay that skips the entries outside `counts` replays the others. -/
theorem foldl_skip (counts : E → Bool) (log : List E) (start : S) :
    log.foldl (fun state entry => if counts entry then target entry else state) start =
      (log.filter counts).foldl (fun _ entry => target entry) start := by
  rw [List.foldl_filter]

/-! ## The entries that change the state -/

section Changes

variable [DecidableEq S]

def changes (source target : E → S) (log : List E) : List E :=
  log.filter (fun entry => source entry != target entry)

/-- The state of a chain is the one its last change led to. -/
theorem Chain.last_eq_of_changes {start last : S} {log : List E}
    (chain : Chain source target edge start log last) :
    last = ((changes source target log).getLast?.map target).getD start := by
  induction log generalizing start with
  | nil => exact Eq.symm chain
  | cons head tail inductionHypothesis =>
      obtain ⟨rfl, -, rest⟩ := chain
      have tailLast := inductionHypothesis rest
      by_cases same : source head = target head
      · rw [changes, List.filter_cons_of_neg (by simpa using same), ← changes, tailLast, same]
      · rw [changes, List.filter_cons_of_pos (by simpa using same), ← changes, tailLast,
          List.getLast?_cons]
        cases (changes source target tail).getLast? <;> rfl

end Changes

/-- The changes of a two-valued state alternate. -/
theorem Chain.changes_alternate {source target : E → Bool} {edge : Bool → Bool → Prop}
    {start last : Bool} {log : List E} (chain : Chain source target edge start log last)
    {index : Nat} {value : Bool}
    (found : ((changes source target log).map target)[index]? = some value) :
    value = if index % 2 = 0 then !start else start := by
  induction log generalizing start index with
  | nil => simp [changes] at found
  | cons head tail inductionHypothesis =>
      obtain ⟨rfl, -, rest⟩ := chain
      by_cases same : source head = target head
      · rw [changes, List.filter_cons_of_neg (by simpa using same)] at found
        rw [same]
        exact inductionHypothesis rest found
      · have flipped : target head = !source head := Bool.eq_not_of_ne (Ne.symm same)
        rw [changes, List.filter_cons_of_pos (by simpa using same), List.map_cons] at found
        cases index with
        | zero => simpa [flipped] using found.symm
        | succ index =>
            have later := inductionHypothesis rest found
            rw [flipped, Bool.not_not] at later
            rw [later]
            rcases Nat.mod_two_eq_zero_or_one index with even | odd
            · rw [if_pos even, if_neg (by omega)]
            · rw [if_neg (by omega), if_pos (by omega)]

section Numbered

variable {number : E → Nat}

theorem eq_of_number_eq {log : List E}
    (increasing : log.Pairwise (fun left right => number left < number right)) {left right : E}
    (first : left ∈ log) (second : right ∈ log) (same : number left = number right) :
    left = right := by
  have distinct : (log.map number).Nodup :=
    List.pairwise_map.mpr (increasing.imp fun less => Nat.ne_of_lt less)
  exact List.inj_on_of_nodup_map distinct first second same

/-- Sorting a log by number leaves entries alone that are already in order. -/
theorem filter_mergeSort {counts : E → Bool} {log : List E}
    (increasing : (log.filter counts).Pairwise (fun left right => number left < number right)) :
    (log.mergeSort (fun left right => number left ≤ number right)).filter counts =
      log.filter counts := by
  have sorted : (log.mergeSort (fun left right => number left ≤ number right)).Pairwise
      (fun left right => number left ≤ number right) := by
    refine (List.pairwise_mergeSort (fun first second third => ?_) (fun first second => ?_) log).imp
      fun ordered => by simpa using ordered
    · simpa using Nat.le_trans
    · simpa using Nat.le_total _ _
  refine List.Perm.eq_of_pairwise (fun left right first second below above => ?_)
    (sorted.filter counts) (increasing.imp Nat.le_of_lt)
    ((List.mergeSort_perm log _).filter counts)
  have member := ((List.mergeSort_perm log _).filter counts).mem_iff.mp first
  exact eq_of_number_eq increasing member second (Nat.le_antisymm below above)

end Numbered

end StockoutOps.Foundation.TransitionLog
