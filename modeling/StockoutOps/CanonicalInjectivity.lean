import Mathlib.Data.List.Forall2
import Mathlib.Data.List.Perm.Subperm
import Mathlib.Data.Set.Function
import Mathlib.Data.String.Basic
import StockoutOps.CanonicalJson
import StockoutOps.JsonEquality
import StockoutOps.PrintedFloats

/-!
Contract: what the canonical text of a value without floats tells of it.

Owns: that such a text is ASCII, that it tells the value up to the order of the
members of its objects, and that it tells nothing of that order.

Does not own: the texts of floats.

The texts of values are joined without lengths. A value is therefore compared
together with what follows it, and what follows it begins with a comma or with the
end of an array or object.
-/

namespace StockoutOps

open StockoutOps.Foundation.Delimiters
open StockoutOps.Sql

namespace Json

mutual

/-- Neither the value nor a part of it is a float. -/
def floatFree : Json → Bool
  | .float _ => false
  | .arr items => floatFreeItems items
  | .obj members => floatFreeMembers members
  | .null | .bool _ | .int _ | .str _ => true

def floatFreeItems : List Json → Bool
  | [] => true
  | item :: items => floatFree item && floatFreeItems items

def floatFreeMembers : List (String × Json) → Bool
  | [] => true
  | (_, value) :: members => floatFree value && floatFreeMembers members

end

theorem floatFree_arr {items : List Json} :
    (Json.arr items).floatFree = true ↔ ∀ item ∈ items, item.floatFree = true := by
  rw [floatFree]
  induction items with
  | nil => simp [floatFreeItems]
  | cons head tail inductionHypothesis => simp [floatFreeItems, inductionHypothesis]

theorem floatFree_obj {members : List (String × Json)} :
    (Json.obj members).floatFree = true ↔ ∀ member ∈ members, member.2.floatFree = true := by
  rw [floatFree]
  induction members with
  | nil => simp [floatFreeMembers]
  | cons head tail inductionHypothesis =>
      rw [floatFreeMembers, Bool.and_eq_true, inductionHypothesis, List.forall_mem_cons]

end Json

/-! ## Sorted members -/

/-- The members of an object in the order of its text. -/
def sortMembers {β : Type} : List (String × β) → List (String × β)
  | [] => []
  | member :: members => insertByKey member (sortMembers members)

section Sorting

variable {β γ : Type} {member : String × β} {members : List (String × β)}

theorem insertByKey_perm (member : String × β) (members : List (String × β)) :
    (insertByKey member members).Perm (member :: members) := by
  induction members with
  | nil => exact .refl _
  | cons head tail inductionHypothesis =>
      rw [insertByKey]
      split
      · exact .refl _
      · exact (inductionHypothesis.cons head).trans (.swap member head tail)

theorem sortMembers_perm (members : List (String × β)) : (sortMembers members).Perm members := by
  induction members with
  | nil => exact .refl _
  | cons head tail inductionHypothesis =>
      exact (insertByKey_perm head _).trans (inductionHypothesis.cons head)

theorem insertByKey_sorted
    (sorted : members.Pairwise fun left right => left.1 ≤ right.1) :
    (insertByKey member members).Pairwise fun left right => left.1 ≤ right.1 := by
  induction members with
  | nil => exact List.pairwise_singleton _ _
  | cons head tail inductionHypothesis =>
      obtain ⟨least, rest⟩ := List.pairwise_cons.mp sorted
      rw [insertByKey]
      split
      case isTrue before =>
        refine List.pairwise_cons.mpr ⟨fun other inside => ?_, sorted⟩
        rcases List.mem_cons.mp inside with rfl | later
        · exact before
        · exact before.trans (least other later)
      case isFalse after =>
        refine List.pairwise_cons.mpr ⟨fun other inside => ?_, inductionHypothesis rest⟩
        rcases List.mem_cons.mp ((insertByKey_perm member tail).mem_iff.mp inside) with rfl | later
        · exact le_of_lt (not_le.mp after)
        · exact least other later

theorem sortMembers_sorted (members : List (String × β)) :
    (sortMembers members).Pairwise fun left right => left.1 ≤ right.1 := by
  induction members with
  | nil => exact List.Pairwise.nil
  | cons head tail inductionHypothesis => exact insertByKey_sorted inductionHypothesis

theorem insertByKey_map (value : String × β → γ) (member : String × β)
    (members : List (String × β)) :
    (insertByKey member members).map (fun entry => (entry.1, value entry)) =
      insertByKey (member.1, value member) (members.map fun entry => (entry.1, value entry)) := by
  induction members with
  | nil => rfl
  | cons head tail inductionHypothesis =>
      rw [insertByKey, List.map_cons, insertByKey]
      split
      · rfl
      · rw [List.map_cons, inductionHypothesis]

/-- The order of the members does not change what they are sorted to. -/
theorem sortMembers_eq {left right : List (String × β)} (distinct : (left.map Prod.fst).Nodup)
    (same : left.Perm right) : sortMembers left = sortMembers right := by
  refine ((sortMembers_perm left).trans (same.trans (sortMembers_perm right).symm)).eq_of_pairwise
    (fun member other inside inside' least least' => ?_) (sortMembers_sorted left)
    (sortMembers_sorted right)
  refine List.inj_on_of_nodup_map distinct ((sortMembers_perm left).mem_iff.mp inside) ?_
    (le_antisymm least least')
  exact same.mem_iff.mpr ((sortMembers_perm right).mem_iff.mp inside')

end Sorting

/-! ## Texts -/

section Texts

variable (repr : FloatRepr)

theorem dumpsItems_eq (items : List Json) : dumpsItems repr items = items.map (dumps repr) := by
  induction items with
  | nil => rfl
  | cons head tail inductionHypothesis => rw [dumpsItems, inductionHypothesis, List.map_cons]

theorem dumpsMembers_eq (members : List (String × Json)) :
    dumpsMembers repr members =
      sortMembers (members.map fun member => (member.1, dumps repr member.2)) := by
  induction members with
  | nil => rfl
  | cons head tail inductionHypothesis =>
      rw [dumpsMembers, inductionHypothesis, List.map_cons, sortMembers]

theorem sortMembers_dumps (members : List (String × Json)) :
    sortMembers (members.map fun member => (member.1, dumps repr member.2)) =
      (sortMembers members).map fun member => (member.1, dumps repr member.2) := by
  induction members with
  | nil => rfl
  | cons head tail inductionHypothesis =>
      rw [List.map_cons, sortMembers, inductionHypothesis, sortMembers,
        insertByKey_map (fun entry => dumps repr entry.2)]

theorem dumps_arr (items : List Json) :
    dumps repr (.arr items) = '[' :: (joined (items.map (dumps repr)) ++ [']']) := by
  rw [dumps, dumpsItems_eq]

/-- The text of a member. -/
def memberDump (member : String × Json) : List Char :=
  memberText (member.1, dumps repr member.2)

theorem dumps_obj (members : List (String × Json)) :
    dumps repr (.obj members) =
      '\x7b' :: (joined ((sortMembers members).map (memberDump repr)) ++ ['\x7d']) := by
  rw [dumps, dumpsMembers_eq, sortMembers_dumps, List.map_map]
  rfl

end Texts

/-! ## What may follow a value -/

/-- A comma, or the end of an array or an object. -/
def EndsItem (char : Char) : Prop := char = ',' ∨ char = ']' ∨ char = '\x7d'

/-- The rest of a text after a value. -/
def Follows (rest : List Char) : Prop := ∃ mark tail, rest = mark :: tail ∧ EndsItem mark

/-- Where one of two codes ends, the other does, and they are codes of `Same` things. -/
def Separates {α : Type} (code : α → List Char) (Same : α → α → Prop) (left right : α) : Prop :=
  ∀ ⦃rest rest' : List Char⦄, Follows rest → Follows rest' →
    code left ++ rest = code right ++ rest' → Same left right ∧ rest = rest'

/-- The code begins with something that does not end an item. -/
def Begins {α : Type} (code : α → List Char) (item : α) : Prop :=
  ∃ head tail, code item = head :: tail ∧ ¬ EndsItem head

section Lists

variable {α : Type} {code : α → List Char} {Same : α → α → Prop} {close : Char}
  {left right : List α} {rest rest' : List Char}

/-- The items after the first, up to the end. -/
def laterItems (code : α → List Char) (close : Char) (items : List α) (rest : List Char) :
    List Char :=
  items.flatMap (fun item => ',' :: code item) ++ close :: rest

theorem laterItems_cons {item : α} {items : List α} :
    laterItems code close (item :: items) rest =
      ',' :: (code item ++ laterItems code close items rest) := by
  simp [laterItems]

theorem laterItems_follows (ends : EndsItem close) (items : List α) (rest : List Char) :
    Follows (laterItems code close items rest) := by
  cases items with
  | nil => exact ⟨close, rest, rfl, ends⟩
  | cons item items => exact ⟨',', _, laterItems_cons, .inl rfl⟩

theorem split_later (ends : EndsItem close) (other : close ≠ ',')
    (separates : ∀ item ∈ left, ∀ item' ∈ right, Separates code Same item item')
    (same : laterItems code close left rest = laterItems code close right rest') :
    List.Forall₂ Same left right ∧ rest = rest' := by
  induction left generalizing right with
  | nil =>
      cases right with
      | nil => exact ⟨.nil, (List.cons.inj same).2⟩
      | cons item items =>
          rw [laterItems_cons] at same
          exact absurd (List.cons.inj same).1 other
  | cons item items inductionHypothesis =>
      cases right with
      | nil =>
          rw [laterItems_cons] at same
          exact absurd (List.cons.inj same).1.symm other
      | cons item' items' =>
          rw [laterItems_cons, laterItems_cons] at same
          obtain ⟨first, later⟩ := separates item List.mem_cons_self item' List.mem_cons_self
            (laterItems_follows ends items rest) (laterItems_follows ends items' rest')
            (List.cons.inj same).2
          obtain ⟨others, rests⟩ := inductionHypothesis
            (fun item inside item' inside' => separates item (List.mem_cons_of_mem _ inside) item'
              (List.mem_cons_of_mem _ inside')) later
          exact ⟨.cons first others, rests⟩

theorem joined_cons (item : α) (items : List α) :
    joined ((item :: items).map code) ++ close :: rest =
      code item ++ laterItems code close items rest := by
  simp [joined, laterItems, List.flatMap_map]

/-- Separated items, joined by commas, are separated up to the end. -/
theorem split_joined (ends : EndsItem close) (other : close ≠ ',')
    (begins : ∀ item, item ∈ left ∨ item ∈ right → Begins code item)
    (separates : ∀ item ∈ left, ∀ item' ∈ right, Separates code Same item item')
    (same : joined (left.map code) ++ close :: rest = joined (right.map code) ++ close :: rest') :
    List.Forall₂ Same left right ∧ rest = rest' := by
  have nonempty : ∀ {item : α} {items : List α} {rest rest' : List Char},
      Begins code item →
        joined ((item :: items).map code) ++ close :: rest ≠ close :: rest' := by
    intro item items rest rest' starts together
    obtain ⟨head, tail, shape, inner⟩ := starts
    rw [joined_cons, shape] at together
    exact inner ((List.cons.inj together).1 ▸ ends)
  cases left with
  | nil =>
      cases right with
      | nil => exact ⟨.nil, (List.cons.inj same).2⟩
      | cons item items =>
          exact absurd same.symm (nonempty (begins item (.inr List.mem_cons_self)))
  | cons item items =>
      cases right with
      | nil => exact absurd same (nonempty (begins item (.inl List.mem_cons_self)))
      | cons item' items' =>
          rw [joined_cons, joined_cons] at same
          obtain ⟨first, later⟩ := separates item List.mem_cons_self item' List.mem_cons_self
            (laterItems_follows ends items rest) (laterItems_follows ends items' rest') same
          obtain ⟨others, rests⟩ := split_later ends other
            (fun item inside item' inside' => separates item (List.mem_cons_of_mem _ inside) item'
              (List.mem_cons_of_mem _ inside')) later
          exact ⟨.cons first others, rests⟩

end Lists

/-! ## Values -/

section Values

variable {repr : FloatRepr} {value left right : Json}

/-- The mark that a text, an array or an object begins with. -/
def opening : Json → Option Char
  | .str _ => some '"'
  | .arr _ => some '['
  | .obj _ => some '\x7b'
  | .null | .bool _ | .int _ | .float _ => none

def IsOpening (char : Char) : Prop := char = '"' ∨ char = '[' ∨ char = '\x7b'

variable (repr) in
theorem dumps_of_opening {mark : Char} (opens : opening value = some mark) :
    IsOpening mark ∧ ∃ tail, dumps repr value = mark :: tail := by
  cases value <;> cases opens
  · exact ⟨.inl rfl, _, by rw [dumps]; rfl⟩
  · exact ⟨.inr (.inl rfl), _, dumps_arr repr _⟩
  · exact ⟨.inr (.inr rfl), _, dumps_obj repr _⟩

/-- A word or a number. -/
def wordChar (char : Char) : Bool := char.isDigit || char == '-' || char.isAlpha

theorem wordChar_plain {char : Char} (word : wordChar char = true) :
    ¬ EndsItem char ∧ ¬ IsOpening char := by
  constructor
  · rintro (rfl | rfl | rfl) <;> exact absurd word (by decide)
  · rintro (rfl | rfl | rfl) <;> exact absurd word (by decide)

variable (repr) in
/-- The text of a value that opens with no mark is a word or a number. -/
theorem dumps_word (free : value.floatFree = true) (plain : opening value = none) :
    dumps repr value ≠ [] ∧ ∀ char ∈ dumps repr value, wordChar char = true := by
  cases value with
  | null =>
      rw [dumps]
      exact ⟨by decide, List.all_eq_true.mp (by decide)⟩
  | bool value =>
      rw [dumps]
      cases value <;> exact ⟨by decide, List.all_eq_true.mp (by decide)⟩
  | int value =>
      rw [dumps]
      refine ⟨intText_ne_nil value, fun char member => ?_⟩
      rcases mem_intText member with digit | rfl
      · simp [wordChar, digit]
      · decide
  | float value => cases free
  | str value => cases plain
  | arr items => cases plain
  | obj members => cases plain

theorem dumps_begins (free : value.floatFree = true) : Begins (dumps repr) value := by
  cases opens : opening value with
  | none =>
      obtain ⟨nonempty, word⟩ := dumps_word repr free opens
      obtain ⟨head, tail, shape⟩ := List.exists_cons_of_ne_nil nonempty
      exact ⟨head, tail, shape, (wordChar_plain (word head (shape ▸ List.mem_cons_self))).1⟩
  | some mark =>
      obtain ⟨isOpening, tail, shape⟩ := dumps_of_opening repr opens
      refine ⟨mark, tail, shape, ?_⟩
      rcases isOpening with rfl | rfl | rfl <;> rintro (same | same | same) <;> cases same

/-- Texts that go on in the same way open with the same mark. -/
theorem opening_eq {rest rest' : List Char} (free : left.floatFree = true)
    (free' : right.floatFree = true)
    (same : dumps repr left ++ rest = dumps repr right ++ rest') :
    opening left = opening right := by
  have apart : ∀ {value other : Json} {mark : Char} {rest rest' : List Char},
      value.floatFree = true → opening value = none → opening other = some mark →
        dumps repr value ++ rest ≠ dumps repr other ++ rest' := by
    intro value other mark rest rest' free plain opens together
    obtain ⟨nonempty, word⟩ := dumps_word repr free plain
    obtain ⟨head, tail, shape⟩ := List.exists_cons_of_ne_nil nonempty
    obtain ⟨isOpening, tail', shape'⟩ := dumps_of_opening repr opens
    rw [shape, shape'] at together
    refine (wordChar_plain (word head (shape ▸ List.mem_cons_self))).2 ?_
    rwa [(List.cons.inj together).1]
  cases opens : opening left with
  | none =>
      cases opens' : opening right with
      | none => rfl
      | some mark => exact absurd same (apart free opens opens')
  | some mark =>
      cases opens' : opening right with
      | none => exact absurd same.symm (apart free' opens' opens)
      | some mark' =>
          obtain ⟨-, tail, shape⟩ := dumps_of_opening repr opens
          obtain ⟨-, tail', shape'⟩ := dumps_of_opening repr opens'
          rw [shape, shape'] at same
          rw [(List.cons.inj same).1]

theorem word_inj (free : left.floatFree = true) (free' : right.floatFree = true)
    (plain : opening left = none) (plain' : opening right = none)
    (same : dumps repr left = dumps repr right) : left = right := by
  have number : ∀ {value : Int} {word : List Char}, word.any Char.isAlpha = true →
      (toString value).toList ≠ word := by
    rintro value _ letters rfl
    obtain ⟨char, member, letter⟩ := List.any_eq_true.mp letters
    rcases mem_intText member with digit | rfl
    · delta Char.isDigit at digit
      delta Char.isAlpha Char.isUpper Char.isLower at letter
      simp only [Bool.and_eq_true, Bool.or_eq_true, decide_eq_true_eq, ge_iff_le,
        UInt32.le_iff_toNat_le] at digit letter
      have nine : '9'.val.toNat = 57 := rfl
      have upper : 'A'.val.toNat = 65 := rfl
      have lower : 'a'.val.toNat = 97 := rfl
      omega
    · cases letter
  cases left <;> cases plain <;> try cases free
  all_goals cases right <;> cases plain' <;> try cases free'
  all_goals simp only [dumps] at same
  · rfl
  · rename_i value
    cases value <;> exact absurd same (by decide)
  · exact absurd same.symm (number (by decide))
  · rename_i value
    cases value <;> exact absurd same (by decide)
  · rename_i value other
    cases value <;> cases other <;> first | rfl | exact absurd same (by decide)
  · rename_i value _
    cases value <;> exact absurd same.symm (number (by decide))
  · exact absurd same (number (by decide))
  · rename_i other
    cases other <;> exact absurd same (number (by decide))
  · rw [intText_inj same]

/-! ### Texts of values that differ -/

theorem memberDump_eq (member : String × Json) :
    memberDump repr member = quoted member.1 ++ (':' :: dumps repr member.2) := rfl

theorem memberDump_begins (member : String × Json) : Begins (memberDump repr) member := by
  refine ⟨'"', _, rfl, ?_⟩
  rintro (same | same | same) <;> cases same

theorem memberDump_separates {Same : Json → Json → Prop} {member other : String × Json}
    (separates : Separates (dumps repr) Same member.2 other.2) :
    Separates (memberDump repr) (fun left right => left.1 = right.1 ∧ Same left.2 right.2)
      member other := by
  intro rest rest' follows follows' same
  rw [memberDump_eq, memberDump_eq, List.append_assoc, List.append_assoc] at same
  obtain ⟨keys, later⟩ := quoted_delimiting same
  obtain ⟨values, rests⟩ := separates follows follows' (List.cons.inj later).2
  exact ⟨⟨keys, values⟩, rests⟩

/-- Where sorted members agree, the objects do. -/
theorem sameUpToOrder_of_sorted {members others : List (String × Json)}
    (distinct : (others.map Prod.fst).Nodup)
    (agree : List.Forall₂ (fun left right => left.1 = right.1 ∧
      left.2.sameUpToOrder right.2 = true) (sortMembers members) (sortMembers others)) :
    (Json.obj members).sameUpToOrder (.obj others) = true := by
  refine Json.sameUpToOrder_obj.mpr ⟨?_, fun member inside => ?_⟩
  · rw [← (sortMembers_perm members).length_eq, ← (sortMembers_perm others).length_eq]
    exact agree.length_eq
  · obtain ⟨other, inside', key, value⟩ :=
      Sql.exists_new_of_mem agree ((sortMembers_perm members).mem_iff.mpr inside)
    refine ⟨other.2, (Json.member?_eq_some distinct).mpr ?_, value⟩
    rw [key]
    exact (sortMembers_perm others).mem_iff.mp inside'

/-- Where a word or a number ends, what follows it begins. -/
theorem word_separates (free : left.floatFree = true) (plain : opening left = none)
    (free' : right.floatFree = true) :
    Separates (dumps repr) (fun left right => left.sameUpToOrder right = true) left right := by
  rintro _ _ ⟨mark, tail, rfl, ends⟩ ⟨mark', tail', rfl, ends'⟩ same
  have plain' := (opening_eq free free' same).symm.trans plain
  obtain ⟨texts, rfl, rfl⟩ := split_stop EndsItem same ends ends'
    (fun char inside => (wordChar_plain ((dumps_word repr free plain).2 char inside)).1)
    (fun char inside => (wordChar_plain ((dumps_word repr free' plain').2 char inside)).1)
  obtain rfl := word_inj free free' plain plain' texts
  refine ⟨?_, rfl⟩
  cases left <;> cases plain <;> simp [Json.sameUpToOrder]

/-- What two values without floats share a text with up to its end, they are. -/
theorem dumps_separates : ∀ {left right : Json}, left.floatFree = true → right.floatFree = true →
    right.distinctKeys = true →
      Separates (dumps repr) (fun left right => left.sameUpToOrder right = true) left right := by
  intro left
  induction left using Json.value_induction with
  | null => exact fun free free' _ => word_separates free rfl free'
  | bool value => exact fun free free' _ => word_separates free rfl free'
  | int value => exact fun free free' _ => word_separates free rfl free'
  | float value =>
      intro right free
      cases free
  | str text =>
      intro right free free' _ rest rest' _ _ same
      have opens := opening_eq free free' same
      cases right <;> cases opens
      rw [dumps, dumps] at same
      obtain ⟨rfl, rests⟩ := quoted_delimiting same
      exact ⟨by simp [Json.sameUpToOrder], rests⟩
  | arr items inductionHypothesis =>
      intro right free free' distinct rest rest' _ _ same
      have opens := opening_eq free free' same
      cases right <;> cases opens
      rename_i others
      rw [dumps_arr, dumps_arr] at same
      have frees := Json.floatFree_arr.mp free
      have frees' := Json.floatFree_arr.mp free'
      obtain ⟨agree, rests⟩ := split_joined (.inr (.inl rfl)) (by decide)
        (fun item inside => dumps_begins (inside.elim (frees item) (frees' item)))
        (fun item inside item' inside' => inductionHypothesis item inside (frees item inside)
          (frees' item' inside') (Json.distinctKeys_arr.mp distinct item' inside'))
        (by simpa using (List.cons.inj same).2)
      exact ⟨Json.sameUpToOrder_arr.mpr agree, rests⟩
  | obj members inductionHypothesis =>
      intro right free free' distinct rest rest' _ _ same
      have opens := opening_eq free free' same
      cases right <;> cases opens
      rename_i others
      rw [dumps_obj, dumps_obj] at same
      obtain ⟨keys, distincts⟩ := Json.distinctKeys_obj.mp distinct
      have inner : ∀ {member}, member ∈ sortMembers members → member ∈ members :=
        (sortMembers_perm members).mem_iff.mp
      have inner' : ∀ {member}, member ∈ sortMembers others → member ∈ others :=
        (sortMembers_perm others).mem_iff.mp
      obtain ⟨agree, rests⟩ := split_joined (.inr (.inr rfl)) (by decide)
        (fun member _ => memberDump_begins member)
        (fun member inside member' inside' => memberDump_separates
          (inductionHypothesis member (inner inside)
            (Json.floatFree_obj.mp free member (inner inside))
            (Json.floatFree_obj.mp free' member' (inner' inside'))
            (distincts member' (inner' inside'))))
        (by simpa using (List.cons.inj same).2)
      exact ⟨sameUpToOrder_of_sorted keys agree, rests⟩

/-! ### Texts of values that agree -/

/-- The order of the members does not show in the text. -/
theorem dumps_eq_of_same : ∀ {left right : Json}, left.distinctKeys = true →
    right.distinctKeys = true → left.sameUpToOrder right = true →
      dumps repr left = dumps repr right := by
  intro left
  induction left using Json.value_induction with
  | null => exact fun _ _ same => congrArg (dumps repr) (of_decide_eq_true same).symm
  | bool value => exact fun _ _ same => congrArg (dumps repr) (of_decide_eq_true same).symm
  | int value => exact fun _ _ same => congrArg (dumps repr) (of_decide_eq_true same).symm
  | float value => exact fun _ _ same => congrArg (dumps repr) (of_decide_eq_true same).symm
  | str text => exact fun _ _ same => congrArg (dumps repr) (of_decide_eq_true same).symm
  | arr items inductionHypothesis =>
      intro right distinct distinct' same
      cases right <;> try cases same
      rename_i others
      rw [dumps_arr, dumps_arr]
      have texts : items.map (dumps repr) = others.map (dumps repr) := by
        refine List.forall₂_eq_eq_eq ▸ List.forall₂_map_left_iff.mpr (List.forall₂_map_right_iff.mpr
          ((List.forall₂_iff_zip.mpr ?_)))
        obtain ⟨lengths, agree⟩ := List.forall₂_iff_zip.mp (Json.sameUpToOrder_arr.mp same)
        refine ⟨lengths, fun {item other} inside => ?_⟩
        obtain ⟨left, right⟩ := List.of_mem_zip inside
        exact inductionHypothesis item left (Json.distinctKeys_arr.mp distinct item left)
          (Json.distinctKeys_arr.mp distinct' other right) (agree inside)
      rw [texts]
  | obj members inductionHypothesis =>
      intro right distinct distinct' same
      cases right <;> try cases same
      rename_i others
      obtain ⟨keys, distincts⟩ := Json.distinctKeys_obj.mp distinct
      obtain ⟨keys', distincts'⟩ := Json.distinctKeys_obj.mp distinct'
      obtain ⟨lengths, agree⟩ := Json.sameUpToOrder_obj.mp same
      let dumped : String × Json → String × List Char := fun member =>
        (member.1, dumps repr member.2)
      have dumpedKeys : ((members.map dumped).map Prod.fst).Nodup := by
        rw [List.map_map]
        exact keys
      have within : members.map dumped ⊆ others.map dumped := by
        intro text inside
        obtain ⟨member, there, rfl⟩ := List.mem_map.mp inside
        obtain ⟨other, found, alike⟩ := agree member there
        have there' := (Json.member?_eq_some keys').mp found
        refine List.mem_map.mpr ⟨_, there', Prod.ext rfl ?_⟩
        exact (inductionHypothesis member there (distincts member there) (distincts' _ there')
          alike).symm
      have permuted : (members.map dumped).Perm (others.map dumped) :=
        (List.Nodup.of_map _ dumpedKeys).subperm within |>.perm_of_length_le
          (by simp [lengths])
      rw [dumps, dumps, dumpsMembers_eq, dumpsMembers_eq, sortMembers_eq dumpedKeys permuted]

end Values

/-! ## ASCII -/

def Ascii (text : List Char) : Prop := ∀ char ∈ text, char.toNat < 128

theorem ascii_append {left right : List Char} :
    Ascii (left ++ right) ↔ Ascii left ∧ Ascii right :=
  List.forall_mem_append

theorem ascii_cons {char : Char} {text : List Char} :
    Ascii (char :: text) ↔ char.toNat < 128 ∧ Ascii text :=
  List.forall_mem_cons

theorem ascii_of_all {text : List Char} (all : (text.all fun char => char.toNat < 128) = true) :
    Ascii text :=
  fun char member => of_decide_eq_true (List.all_eq_true.mp all char member)

theorem ascii_unicodeEscape (code : Nat) : Ascii (unicodeEscape code) := by
  have digits : ∀ digit < 16, (Nat.digitChar digit).toNat < 128 := by decide
  have digit := fun number => digits (number % 16) (Nat.mod_lt _ (by decide))
  simp only [unicodeEscape, ascii_cons, digit, true_and]
  exact ⟨by decide, by decide, fun _ member => absurd member List.not_mem_nil⟩

theorem ascii_escapeChar (char : Char) : Ascii (escapeChar char) := by
  unfold escapeChar
  split
  case h_1 short escaped =>
    unfold shortEscape at escaped
    split at escaped <;> cases escaped <;> exact ascii_of_all (by decide)
  case h_2 plain =>
    split
    case isTrue printable => exact ascii_cons.mpr ⟨by omega, nofun⟩
    case isFalse =>
      split
      · exact ascii_unicodeEscape _
      · exact ascii_append.mpr ⟨ascii_unicodeEscape _, ascii_unicodeEscape _⟩

theorem ascii_quoted (text : String) : Ascii (quoted text) := by
  refine ascii_cons.mpr ⟨by decide, ascii_append.mpr ⟨fun char member => ?_,
    ascii_of_all (by decide)⟩⟩
  obtain ⟨source, -, inside⟩ := List.mem_flatMap.mp member
  exact ascii_escapeChar source char inside

theorem ascii_joined {texts : List (List Char)} (each : ∀ text ∈ texts, Ascii text) :
    Ascii (joined texts) := by
  cases texts with
  | nil => exact nofun
  | cons head tail =>
      obtain ⟨first, others⟩ := List.forall_mem_cons.mp each
      refine ascii_append.mpr ⟨first, fun char member => ?_⟩
      obtain ⟨text, there, inside⟩ := List.mem_flatMap.mp member
      exact ascii_cons.mpr ⟨by decide, others text there⟩ char inside

/-- What is not ASCII is escaped. -/
theorem ascii_dumps {repr : FloatRepr} {value : Json} (free : value.floatFree = true) :
    Ascii (dumps repr value) := by
  induction value using Json.value_induction with
  | null =>
      rw [dumps]
      exact ascii_of_all (by decide)
  | bool value =>
      rw [dumps]
      cases value <;> exact ascii_of_all (by decide)
  | int value =>
      intro char member
      rcases mem_intText member with digit | rfl
      · rw [Char.isDigit_iff_toNat] at digit
        exact lt_of_le_of_lt digit.2 (by decide)
      · decide
  | float value => cases free
  | str text => exact ascii_quoted text
  | arr items inductionHypothesis =>
      rw [dumps_arr]
      refine ascii_cons.mpr ⟨by decide, ascii_append.mpr ⟨ascii_joined fun text member => ?_,
        ascii_of_all (by decide)⟩⟩
      obtain ⟨item, inside, rfl⟩ := List.mem_map.mp member
      exact inductionHypothesis item inside (Json.floatFree_arr.mp free item inside)
  | obj members inductionHypothesis =>
      rw [dumps_obj]
      refine ascii_cons.mpr ⟨by decide, ascii_append.mpr ⟨ascii_joined fun text inside => ?_,
        ascii_of_all (by decide)⟩⟩
      obtain ⟨member, sorted, rfl⟩ := List.mem_map.mp inside
      have there := (sortMembers_perm members).mem_iff.mp sorted
      exact ascii_append.mpr ⟨ascii_quoted _, ascii_cons.mpr ⟨by decide,
        inductionHypothesis member there (Json.floatFree_obj.mp free member there)⟩⟩

/-! ## Canonical texts and hashes -/

/-- A value without floats is known from its canonical text, but for the order of the
members of its objects; from its hash, as far as the digest tells the texts apart. -/
theorem canonicalJson_eq_iff (repr : FloatRepr) (sha256Text : String → String)
    (sha256Text_hex : ∀ text, isHex64 (sha256Text text) = true) (left right : Json)
    (leftFree : left.floatFree = true) (rightFree : right.floatFree = true)
    (leftDistinct : left.distinctKeys = true) (rightDistinct : right.distinctKeys = true) :
    (canonicalJson repr left = canonicalJson repr right ↔ left.sameUpToOrder right = true) ∧
    (∀ char ∈ (canonicalJson repr left).toList, char.toNat < 128) ∧
    (Set.InjOn sha256Text {canonicalJson repr left, canonicalJson repr right} →
      ((canonicalProvenance repr sha256Text sha256Text_hex).canonicalHash left =
          (canonicalProvenance repr sha256Text sha256Text_hex).canonicalHash right ↔
        left.sameUpToOrder right = true)) := by
  have texts : canonicalJson repr left = canonicalJson repr right ↔
      left.sameUpToOrder right = true := by
    constructor
    · intro same
      have chars : dumps repr left ++ [','] = dumps repr right ++ [','] := by
        rw [String.ofList_injective same]
      exact (dumps_separates leftFree rightFree rightDistinct ⟨',', [], rfl, .inl rfl⟩
        ⟨',', [], rfl, .inl rfl⟩ chars).1
    · intro same
      rw [canonicalJson, canonicalJson, dumps_eq_of_same leftDistinct rightDistinct same]
  refine ⟨texts, ?_, fun injective => ⟨fun same => ?_, fun same => ?_⟩⟩
  · rw [canonicalJson, String.toList_ofList]
    exact ascii_dumps leftFree
  · exact texts.mp (injective (.inl rfl) (.inr rfl) same)
  · exact congrArg sha256Text (texts.mpr same)

/-! ### A store and its units, in both orders -/

def storeUnits : Json := .obj [("store_id", .str "Zürich"), ("units", .int 3)]

def unitsStore : Json := .obj [("units", .int 3), ("store_id", .str "Zürich")]

/-- The digest of the source on the text of both. -/
def storeDigest (_ : String) : String :=
  "eec614a8d4fa60a55dd9e50c94e1e51d85cba3a25d65a812e8c59d54da465b28"

theorem storeDigest_hex (text : String) : isHex64 (storeDigest text) = true := by
  unfold storeDigest
  decide +kernel

theorem reordered_members_same_text :
    canonicalJson printedFloats storeUnits = canonicalJson printedFloats unitsStore ∧
    (canonicalProvenance printedFloats storeDigest storeDigest_hex).canonicalHash storeUnits =
      (canonicalProvenance printedFloats storeDigest storeDigest_hex).canonicalHash unitsStore := by
  obtain ⟨texts, -, hashes⟩ := canonicalJson_eq_iff printedFloats storeDigest storeDigest_hex
    storeUnits unitsStore (by decide) (by decide) (by decide) (by decide)
  have same : storeUnits.sameUpToOrder unitsStore = true := by decide
  refine ⟨texts.mpr same, (hashes ?_).mpr same⟩
  rw [texts.mpr same, Set.pair_eq_singleton]
  exact Set.injOn_singleton _ _

end StockoutOps
