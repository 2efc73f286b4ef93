/-!
Contract: paths of a step relation, counted.

Owns: a path with its number of steps, how paths compose, and the bound that a
rank falling with every step puts on their length.

Does not own: the relation and its rank.
-/

namespace StockoutOps.Foundation.RankedPaths

variable {α : Type} {Step : α → α → Prop}

/-- From one point to another in this many steps. -/
inductive Path (Step : α → α → Prop) : Nat → α → α → Prop where
  | nil {point : α} : Path Step 0 point point
  | cons {count : Nat} {first second last : α} (step : Step first second)
      (rest : Path Step count second last) : Path Step (count + 1) first last

namespace Path

variable {first second third : α} {count more : Nat}

theorem single (step : Step first second) : Path Step 1 first second := .cons step .nil

theorem trans (left : Path Step count first second) (right : Path Step more second third) :
    Path Step (count + more) first third := by
  induction left with
  | nil => simpa using right
  | cons step _ inductionHypothesis =>
      rw [Nat.add_right_comm]
      exact .cons step (inductionHypothesis right)

theorem eq_of_zero (path : Path Step 0 first second) : second = first := by
  cases path
  rfl

/-- A rank that falls with every step bounds what is still to come. -/
theorem rank_add_le {rank : α → Nat} (falls : ∀ a b, Step a b → rank b < rank a)
    (path : Path Step count first second) : rank second + count ≤ rank first := by
  induction path with
  | nil => exact Nat.le_refl _
  | cons step _ inductionHypothesis =>
      have fell := falls _ _ step
      omega

/-- What no step changes, no path changes. -/
theorem preserves {P : α → Prop} (kept : ∀ a b, Step a b → P a → P b)
    (path : Path Step count first second) (fact : P first) : P second := by
  induction path with
  | nil => exact fact
  | cons step _ inductionHypothesis => exact inductionHypothesis (kept _ _ step fact)

end Path

end StockoutOps.Foundation.RankedPaths
