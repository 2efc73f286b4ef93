import Mathlib.Algebra.Group.Nat.Defs
import Mathlib.Data.List.Basic
import Mathlib.Tactic.Common

/-!
Contract: texts that are joined without lengths, and can be taken apart again.

Owns: the split at the first and at the last mark, codes of which none is
the beginning of another, and the texts of integers and of numbers padded to a
width.

Does not own: what the texts mean.
-/

namespace StockoutOps.Foundation.Delimiters

variable {α β : Type}

/-! ## Marks -/

/-- The first item that stops is found. -/
theorem split_stop (stops : α → Prop) {mark mark' : α} {left left' right right' : List α}
    (joined : left ++ mark :: right = left' ++ mark' :: right')
    (stop : stops mark) (stop' : stops mark')
    (passes : ∀ item ∈ left, ¬ stops item) (passes' : ∀ item ∈ left', ¬ stops item) :
    left = left' ∧ mark = mark' ∧ right = right' := by
  induction left generalizing left' with
  | nil =>
      cases left' with
      | nil =>
          obtain ⟨same, rest⟩ := List.cons.inj joined
          exact ⟨rfl, same, rest⟩
      | cons head tail =>
          obtain ⟨rfl, -⟩ := List.cons.inj joined
          exact absurd stop (passes' mark List.mem_cons_self)
  | cons head tail inductionHypothesis =>
      cases left' with
      | nil =>
          obtain ⟨rfl, -⟩ := List.cons.inj joined
          exact absurd stop' (passes head List.mem_cons_self)
      | cons head' tail' =>
          obtain ⟨rfl, rest⟩ := List.cons.inj joined
          obtain ⟨rfl, same⟩ := inductionHypothesis rest
            (fun item member => passes item (List.mem_cons_of_mem _ member))
            (fun item member => passes' item (List.mem_cons_of_mem _ member))
          exact ⟨rfl, same⟩

/-- Without the delimiter on the right, the last one is found. -/
theorem split_last {delimiter : α} {left left' right right' : List α}
    (joined : left ++ delimiter :: right = left' ++ delimiter :: right')
    (absent : delimiter ∉ right) (absent' : delimiter ∉ right') :
    left = left' ∧ right = right' := by
  have turned : right.reverse ++ delimiter :: left.reverse =
      right'.reverse ++ delimiter :: left'.reverse := by
    simpa using congrArg List.reverse joined
  obtain ⟨rights, -, lefts⟩ := split_stop (· = delimiter) turned rfl rfl
    (fun item member same => absent (List.mem_reverse.mp (same ▸ member)))
    (fun item member same => absent' (List.mem_reverse.mp (same ▸ member)))
  exact ⟨List.reverse_injective lefts, List.reverse_injective rights⟩

/-! ## Codes -/

/-- No code is the beginning of another one. -/
def SelfDelimiting (code : α → List β) : Prop :=
  ∀ ⦃left right : α⦄ ⦃rest rest' : List β⦄, code left ++ rest = code right ++ rest' →
    left = right ∧ rest = rest'

/-- A code that can be read back from the front. -/
theorem selfDelimiting_of_read {code : α → List β} (read : List β → Option (α × List β))
    (read_code : ∀ item rest, read (code item ++ rest) = some (item, rest)) :
    SelfDelimiting code := by
  intro left right rest rest' joined
  have same := read_code left rest
  rw [joined, read_code right rest'] at same
  cases same
  exact ⟨rfl, rfl⟩

/-- A sequence of codes, up to a mark that begins none of them. -/
theorem split_codes {code : α → List β} (delimiting : SelfDelimiting code) {mark : β}
    (unmarked : ∀ item, ∃ head tail, code item = head :: tail ∧ head ≠ mark)
    {left right : List α} {rest rest' : List β}
    (joined : left.flatMap code ++ mark :: rest = right.flatMap code ++ mark :: rest') :
    left = right ∧ rest = rest' := by
  induction left generalizing right with
  | nil =>
      cases right with
      | nil => exact ⟨rfl, (List.cons.inj joined).2⟩
      | cons item items =>
          obtain ⟨head, tail, shape, other⟩ := unmarked item
          rw [List.flatMap_cons, shape] at joined
          exact absurd (List.cons.inj joined).1.symm other
  | cons item items inductionHypothesis =>
      cases right with
      | nil =>
          obtain ⟨head, tail, shape, other⟩ := unmarked item
          rw [List.flatMap_cons, shape] at joined
          exact absurd (List.cons.inj joined).1 other
      | cons item' items' =>
          simp only [List.flatMap_cons, List.append_assoc] at joined
          obtain ⟨rfl, later⟩ := delimiting joined
          obtain ⟨rfl, same⟩ := inductionHypothesis later
          exact ⟨rfl, same⟩

/-! ## Integers -/

theorem isDigit_of_mem_repr {number : Nat} {char : Char} (member : char ∈ number.repr.toList) :
    char.isDigit = true := by
  rw [Nat.toList_repr] at member
  exact Nat.isDigit_of_mem_toDigits (by decide) (by decide) member

theorem mem_intText {value : Int} {char : Char} (member : char ∈ (toString value).toList) :
    char.isDigit = true ∨ char = '-' := by
  rw [Int.toString_eq_repr, Int.repr_eq_if] at member
  split at member
  · exact .inl (isDigit_of_mem_repr member)
  · rw [String.toList_append, List.mem_append] at member
    rcases member with sign | inside
    · exact .inr (by simpa using sign)
    · exact .inl (isDigit_of_mem_repr inside)

theorem intText_ne_nil (value : Int) : (toString value).toList ≠ [] := by
  have digits : ∀ number : Nat, number.repr.toList ≠ [] := fun number => by
    rw [Nat.toList_repr]
    exact Nat.toDigits_ne_nil
  rw [Int.toString_eq_repr, Int.repr_eq_if]
  split
  · exact digits _
  · simp

theorem natText_inj {left right : Nat} (same : left.repr.toList = right.repr.toList) :
    left = right := by
  have read := congrArg (Nat.ofDigitChars 10 · 0) same
  simpa only [Nat.toList_repr, Nat.ofDigitChars_ten_toDigits] using read

/-- The text of an integer tells which integer it is: `Int.repr_injective`, which only
the import of the whole library reaches. -/
theorem intText_inj {left right : Int} (same : (toString left).toList = (toString right).toList) :
    left = right := by
  -- The sign is told by the first character, which is a digit otherwise.
  have unsigned : ∀ first second : Nat, first.repr.toList ≠ '-' :: second.repr.toList := by
    intro first second signed
    have digit : '-'.isDigit = true :=
      isDigit_of_mem_repr (signed ▸ List.mem_cons_self : '-' ∈ first.repr.toList)
    exact absurd digit (by decide)
  have signed : ∀ number : Nat, ("-" ++ number.repr).toList = '-' :: number.repr.toList :=
    fun number => String.toList_append
  simp only [Int.toString_eq_repr, Int.repr_eq_if] at same
  split at same <;> split at same
  · have equal := natText_inj same
    omega
  · exact absurd (same.trans (signed _)) (unsigned _ _)
  · exact absurd (same.symm.trans (signed _)) (unsigned _ _)
  · rw [signed, signed] at same
    have equal := natText_inj (List.cons.inj same).2
    omega

/-! ## Padded numbers -/

/-- The last digits of a number. -/
def padded : (width : Nat) → (number : Nat) → List Char
  | 0, _ => []
  | width + 1, number => padded width (number / 10) ++ [Nat.digitChar (number % 10)]

@[simp] theorem length_padded (width number : Nat) : (padded width number).length = width := by
  induction width generalizing number with
  | zero => rfl
  | succ width inductionHypothesis => simp [padded, inductionHypothesis]

theorem digitChar_inj {left right : Nat} (leftBound : left < 10) (rightBound : right < 10)
    (same : Nat.digitChar left = Nat.digitChar right) : left = right := by
  have all : ∀ left < 10, ∀ right < 10,
      Nat.digitChar left = Nat.digitChar right → left = right := by
    decide
  exact all left leftBound right rightBound same

/-- The digits of a number that fits tell which number it is. -/
theorem padded_inj {width left right : Nat} (leftBound : left < 10 ^ width)
    (rightBound : right < 10 ^ width) (same : padded width left = padded width right) :
    left = right := by
  induction width generalizing left right with
  | zero => omega
  | succ width inductionHypothesis =>
      obtain ⟨front, last⟩ := List.append_inj same (by simp)
      have digits := digitChar_inj (Nat.mod_lt _ (by decide)) (Nat.mod_lt _ (by decide))
        (List.cons.inj last).1
      have tens := inductionHypothesis (by omega) (by omega) front
      omega

theorem isDigit_of_mem_padded {width number : Nat} {char : Char}
    (member : char ∈ padded width number) : char.isDigit = true := by
  induction width generalizing number with
  | zero => exact absurd member List.not_mem_nil
  | succ width inductionHypothesis =>
      rcases List.mem_append.mp member with front | last
      · exact inductionHypothesis front
      · obtain rfl := List.mem_singleton.mp last
        have digits : ∀ digit < 10, (Nat.digitChar digit).isDigit = true := by decide
        exact digits _ (Nat.mod_lt _ (by decide))

end StockoutOps.Foundation.Delimiters
