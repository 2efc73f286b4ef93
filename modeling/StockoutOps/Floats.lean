import Mathlib.Data.Int.Log
import Mathlib.Data.Rat.Floor
import StockoutOps.Errors
import StockoutOps.Json

/-!
Contract: Python's floats, as far as the reports and the policies use them.

Owns: the comparison of two floats, the rounding of a number to a double, and
`float(int)` and the true division of integers that are not negative.

Does not own: the arithmetic of floats.
-/

namespace StockoutOps

/-! ## Comparison -/

/-- `left < right` -/
def floatLess : PyFloat → PyFloat → Bool
  | .nan, _ | _, .nan => false
  | .finite left, .finite right => left < right
  | .negInf, .negInf | .posInf, _ | .finite _, .negInf => false
  | .negInf, _ | .finite _, .posInf => true

/-! ## Rounding -/

/-- The nearest integer, the even one of two. -/
def roundHalfEven (value : ℚ) : ℤ :=
  let below := ⌊value⌋
  if value - below < 1 / 2 then below
  else if 1 / 2 < value - below then below + 1
  else below + below % 2

/-- The spacing of the doubles around a number is `2` to this power. -/
def spacing (value : ℚ) : ℤ := max (Int.log 2 value - 52) (-1074)

/-- The double nearest to a number; `none` if it is too large. -/
def toDouble (value : ℚ) : Option ℚ :=
  let rounded : ℚ := roundHalfEven (value / 2 ^ spacing value) * 2 ^ spacing value
  if rounded < 2 ^ 1024 then some rounded else none

/-- `float(value)` -/
def floatOfInt (value : Nat) : Except Failure PyFloat :=
  match toDouble value with
  | some rounded => .ok (.finite rounded)
  | none => .error (.overflowError "int too large to convert to float")

/-- `numerator / denominator` -/
def trueDivision (numerator denominator : Nat) : Except Failure PyFloat :=
  match toDouble (numerator / denominator) with
  | some rounded => .ok (.finite rounded)
  | none => .error (.overflowError "integer division result too large for a float")

theorem floor_le_roundHalfEven (value : ℚ) : ⌊value⌋ ≤ roundHalfEven value := by
  unfold roundHalfEven
  simp only
  split
  · exact le_refl _
  · split <;> omega

theorem spacing_pos (value : ℚ) : (0 : ℚ) < 2 ^ spacing value := zpow_pos (by norm_num) _

@[simp] theorem roundHalfEven_intCast (value : ℤ) : roundHalfEven value = value := by
  simp [roundHalfEven]

/-- Where the spacing is at most one, it divides every integer. -/
theorem spacing_divides {value : ℚ} (fine : spacing value ≤ 0) :
    ((2 ^ (-spacing value).toNat : ℤ) : ℚ) * 2 ^ spacing value = 1 := by
  push_cast
  rw [← zpow_natCast, Int.toNat_of_nonneg (by omega), zpow_neg,
    inv_mul_cancel₀ (ne_of_gt (spacing_pos value))]

/-- Integers below `2 ^ 53` are doubles. -/
theorem toDouble_natCast {value : Nat} (small : value < 2 ^ 53) :
    toDouble value = some (value : ℚ) := by
  have fine : spacing value ≤ 0 := by
    have log : Int.log 2 (value : ℚ) ≤ 52 := by
      rw [Int.log_natCast]
      exact_mod_cast Nat.le_of_lt_succ (Nat.log_lt_of_lt_pow' (by norm_num) small)
    unfold spacing
    omega
  have multiple : (value : ℚ) / 2 ^ spacing value =
      ((value * 2 ^ (-spacing value).toNat : ℤ) : ℚ) := by
    rw [div_eq_iff (ne_of_gt (spacing_pos _)), Int.cast_mul, mul_assoc, spacing_divides fine,
      mul_one, Int.cast_natCast]
  have bounded : (value : ℚ) < 2 ^ 1024 := by
    exact_mod_cast small.trans (Nat.pow_lt_pow_right (by norm_num) (by norm_num))
  simp only [toDouble, multiple, roundHalfEven_intCast]
  rw [Int.cast_mul, mul_assoc, spacing_divides fine, mul_one, Int.cast_natCast, if_pos bounded]

/-- A number that is at least one is rounded to a number that is at least one. -/
theorem one_le_of_toDouble {value rounded : ℚ} (large : 1 ≤ value)
    (made : toDouble value = some rounded) : 1 ≤ rounded := by
  simp only [toDouble, Option.ite_none_right_eq_some, Option.some.injEq] at made
  obtain ⟨-, rfl⟩ := made
  have positive : 0 < value := lt_of_lt_of_le one_pos large
  have spread := spacing_pos value
  -- the smallest multiple of the spacing that is at least one is below the value
  obtain ⟨steps, least, below⟩ : ∃ steps : ℤ, 1 ≤ steps * (2 : ℚ) ^ spacing value ∧
      steps * (2 : ℚ) ^ spacing value ≤ value := by
    rcases le_or_gt (spacing value) 0 with small | large'
    · refine ⟨2 ^ (-spacing value).toNat, ?_, ?_⟩
      · rw [spacing_divides small]
      · rwa [spacing_divides small]
    · refine ⟨1, ?_, ?_⟩
      · rw [Int.cast_one, one_mul]
        exact one_le_zpow₀ (by norm_num) (le_of_lt large')
      · rw [Int.cast_one, one_mul]
        have exponent : spacing value ≤ Int.log 2 value := by
          unfold spacing at large' ⊢
          omega
        calc (2 : ℚ) ^ spacing value ≤ 2 ^ Int.log 2 value :=
              zpow_le_zpow_right₀ (by norm_num) exponent
          _ ≤ value := by exact_mod_cast Int.zpow_log_le_self (by norm_num) positive
  have counted : steps ≤ roundHalfEven (value / 2 ^ spacing value) :=
    (Int.le_floor.mpr ((le_div_iff₀ spread).mpr below)).trans (floor_le_roundHalfEven _)
  calc (1 : ℚ) ≤ steps * 2 ^ spacing value := least
    _ ≤ roundHalfEven (value / 2 ^ spacing value) * 2 ^ spacing value :=
        mul_le_mul_of_nonneg_right (by exact_mod_cast counted) (le_of_lt spread)

end StockoutOps
