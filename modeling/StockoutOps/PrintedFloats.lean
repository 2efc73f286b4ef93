import StockoutOps.CanonicalJson

/-!
Contract: a text of every float that can be read back.

Owns: the texts of zero and of the non-finite floats as `json.dumps` prints
them, and a `FloatRepr` over them.

Does not own: the digits of any other number.
-/

namespace StockoutOps

open StockoutOps.Foundation.Delimiters

def signChar (value : ℚ) : Char := if value < 0 then '-' else '+'

/-- Zero as Python prints it, and any other float in a form that can be read back. -/
def printFloat : PyFloat → List Char
  | .finite value =>
      if value = 0 then ['0', '.', '0']
      else signChar value ::
        (List.replicate value.num.natAbs '1' ++ ('e' :: List.replicate value.den '1'))
  | .posInf => ['I', 'n', 'f', 'i', 'n', 'i', 't', 'y']
  | .negInf => ['-', 'I', 'n', 'f', 'i', 'n', 'i', 't', 'y']
  | .nan => ['N', 'a', 'N']

theorem signChar_ne (value : ℚ) : signChar value ≠ '0' := by
  unfold signChar
  split <;> decide

theorem negative_of_signChar {left right : ℚ} (same : signChar left = signChar right) :
    left < 0 ↔ right < 0 := by
  unfold signChar at same
  by_cases negative : left < 0
  · rw [if_pos negative] at same
    by_cases other : right < 0
    · exact iff_of_true negative other
    · rw [if_neg other] at same
      cases same
  · rw [if_neg negative] at same
    by_cases other : right < 0
    · rw [if_pos other] at same
      cases same
    · exact iff_of_false negative other

theorem printFloat_finite {left right : ℚ}
    (same : printFloat (.finite left) = printFloat (.finite right)) : left = right := by
  simp only [printFloat] at same
  split at same
  · rename_i leftZero
    split at same
    · rename_i rightZero
      exact leftZero.trans rightZero.symm
    · exact absurd (List.cons.inj same).1.symm (signChar_ne right)
  · split at same
    · exact absurd (List.cons.inj same).1 (signChar_ne left)
    · obtain ⟨signs, digits⟩ := List.cons.inj same
      have absent : ∀ count, ∀ item ∈ List.replicate count '1', ¬ item = 'e' := by
        intro count item member
        rw [(List.mem_replicate.mp member).2]
        decide
      obtain ⟨nums, -, dens⟩ := split_stop (· = 'e') digits rfl rfl (absent _) (absent _)
      have magnitude : left.num.natAbs = right.num.natAbs := by
        simpa using congrArg List.length nums
      have den : left.den = right.den := by simpa using congrArg List.length dens
      have sign : 0 ≤ left.num ↔ 0 ≤ right.num := by
        rw [Rat.num_nonneg, Rat.num_nonneg, ← Rat.not_lt, ← Rat.not_lt,
          negative_of_signChar signs]
      exact Rat.ext (by omega) den

/-- The text of a number has an exponent, or it is that of zero. -/
theorem printFloat_finite_ne {value : ℚ} {other : List Char} (plain : 'e' ∉ other)
    (nonzero : other ≠ ['0', '.', '0']) : printFloat (.finite value) ≠ other := by
  rintro rfl
  by_cases zero : value = 0
  · exact nonzero (by rw [printFloat, if_pos zero])
  · simp [printFloat, zero] at plain

theorem printFloat_inj (left right : PyFloat)
    (same : String.ofList (printFloat left) = String.ofList (printFloat right)) : left = right := by
  have chars := String.ofList_injective same
  cases left with
  | finite value =>
      cases right with
      | finite other => rw [printFloat_finite chars]
      | posInf => exact absurd chars (printFloat_finite_ne (by decide) (by decide))
      | negInf => exact absurd chars (printFloat_finite_ne (by decide) (by decide))
      | nan => exact absurd chars (printFloat_finite_ne (by decide) (by decide))
  | posInf =>
      cases right with
      | finite other => exact absurd chars.symm (printFloat_finite_ne (by decide) (by decide))
      | posInf => rfl
      | negInf => cases chars
      | nan => cases chars
  | negInf =>
      cases right with
      | finite other => exact absurd chars.symm (printFloat_finite_ne (by decide) (by decide))
      | posInf => cases chars
      | negInf => rfl
      | nan => cases chars
  | nan =>
      cases right with
      | finite other => exact absurd chars.symm (printFloat_finite_ne (by decide) (by decide))
      | posInf => cases chars
      | negInf => cases chars
      | nan => rfl

theorem printFloat_plain (value : PyFloat) :
    ∀ char ∈ printFloat value, char ≠ ',' ∧ char ≠ '\x7d' ∧ char ≠ '"' := by
  cases value with
  | finite value =>
      simp only [printFloat]
      split
      · simp
      · intro char member
        simp only [List.mem_cons, List.mem_append, List.mem_replicate, signChar] at member
        rcases member with rfl | ⟨-, rfl⟩ | rfl | ⟨-, rfl⟩
        · split <;> decide
        · decide
        · decide
        · decide
  | posInf => simp [printFloat]
  | negInf => simp [printFloat]
  | nan => simp [printFloat]

def printedFloats : FloatRepr where
  text := fun value => String.ofList (printFloat value)
  text_inj := printFloat_inj
  text_plain := fun value => by
    rw [String.toList_ofList]
    exact printFloat_plain value

end StockoutOps
