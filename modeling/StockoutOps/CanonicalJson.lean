import StockoutOps.Calendar
import StockoutOps.Provenance

/-!
Contract: `canonical_json` of `evidence/provenance.py`, character by character.

Owns: `json.dumps` with `ensure_ascii`, `sort_keys` and the compact separators,
the provenance functions over it, and the values that the text of an object of
texts and numbers gives back.

Does not own: the digest, and `repr` of a float.
-/

namespace StockoutOps

open StockoutOps.Foundation.Delimiters
open StockoutOps.Sql

/-- The text that `json.dumps` makes of a float, `float.__repr__` of a finite one.
No two numbers share it, and it has none of the characters that end a value. -/
structure FloatRepr where
  text : PyFloat → String
  text_inj : ∀ left right, text left = text right → left = right
  text_plain : ∀ value, ∀ char ∈ (text value).toList, char ≠ ',' ∧ char ≠ '\x7d' ∧ char ≠ '"'

/-! ## Strings -/

/-- `'\\u{0:04x}'.format(code)` -/
def unicodeEscape (code : Nat) : List Char :=
  ['\\', 'u', Nat.digitChar (code / 4096 % 16), Nat.digitChar (code / 256 % 16),
    Nat.digitChar (code / 16 % 16), Nat.digitChar (code % 16)]

/-- `ESCAPE_DCT` -/
def shortEscape : Char → Option Char
  | '"' => some '"'
  | '\\' => some '\\'
  | '\n' => some 'n'
  | '\r' => some 'r'
  | '\t' => some 't'
  | '\x0c' => some 'f'
  | '\x08' => some 'b'
  | _ => none

/-- `py_encode_basestring_ascii` on one character. -/
def escapeChar (char : Char) : List Char :=
  match shortEscape char with
  | some short => ['\\', short]
  | none =>
      if 32 ≤ char.toNat ∧ char.toNat ≤ 126 then [char]
      else if char.toNat < 0x10000 then unicodeEscape char.toNat
      else unicodeEscape (0xd800 + (char.toNat - 0x10000) / 0x400) ++
        unicodeEscape (0xdc00 + (char.toNat - 0x10000) % 0x400)

def quoted (text : String) : List Char :=
  '"' :: (text.toList.flatMap escapeChar ++ ['"'])

/-! ### Reading a string back -/

def hexValue (char : Char) : Nat :=
  if char.toNat < 58 then char.toNat - 48 else char.toNat - 87

theorem hexValue_digitChar (digit : Nat) (bound : digit < 16) :
    hexValue (Nat.digitChar digit) = digit := by
  have all : ∀ digit < 16, hexValue (Nat.digitChar digit) = digit := by decide
  exact all digit bound

def readHex : List Char → Option (Nat × List Char)
  | '\\' :: 'u' :: first :: second :: third :: fourth :: rest =>
      some (hexValue first * 4096 + hexValue second * 256 + hexValue third * 16 +
        hexValue fourth, rest)
  | _ => none

theorem readHex_unicodeEscape (code : Nat) (bound : code < 0x10000) (rest : List Char) :
    readHex (unicodeEscape code ++ rest) = some (code, rest) := by
  have digits := fun digit => hexValue_digitChar (digit % 16) (Nat.mod_lt _ (by decide))
  simp only [unicodeEscape, List.cons_append, List.nil_append, readHex, digits]
  congr 2
  omega

/-- The character that an escape stands for. -/
def readEscape (text : List Char) : Option (Char × List Char) :=
  match readHex text with
  | none => none
  | some (code, rest) =>
      if 0xd800 ≤ code ∧ code < 0xdc00 then
        (readHex rest).map fun low =>
          (Char.ofNat (0x10000 + (code - 0xd800) * 0x400 + (low.1 - 0xdc00)), low.2)
      else some (Char.ofNat code, rest)

def longEscape : Char → Option Char
  | '"' => some '"'
  | '\\' => some '\\'
  | 'n' => some '\n'
  | 'r' => some '\r'
  | 't' => some '\t'
  | 'f' => some '\x0c'
  | 'b' => some '\x08'
  | _ => none

def readChar : List Char → Option (Char × List Char)
  | '\\' :: short :: rest =>
      match longEscape short with
      | some char => some (char, rest)
      | none => readEscape ('\\' :: short :: rest)
  | char :: rest => some (char, rest)
  | [] => none

theorem longEscape_shortEscape {char short : Char} (escaped : shortEscape char = some short) :
    longEscape short = some char := by
  unfold shortEscape at escaped
  split at escaped <;> cases escaped <;> rfl

theorem readChar_unicodeEscape (code : Nat) (rest : List Char) :
    readChar (unicodeEscape code ++ rest) = readEscape (unicodeEscape code ++ rest) := rfl

theorem readChar_escapeChar (char : Char) (rest : List Char) :
    readChar (escapeChar char ++ rest) = some (char, rest) := by
  have back := Char.ofNat_toNat char
  unfold escapeChar
  split
  · rename_i short escaped
    simp only [List.cons_append, List.nil_append, readChar, longEscape_shortEscape escaped]
  rename_i plain
  split
  · have unescaped : char ≠ '\\' := by
      rintro rfl
      cases plain
    rw [List.singleton_append]
    unfold readChar
    split
    · rename_i same
      exact absurd (List.cons.inj same).1 unescaped
    · rename_i same
      cases same
      rfl
    · rename_i same
      cases same
  split
  · rename_i small
    rw [readChar_unicodeEscape, readEscape, readHex_unicodeEscape _ small]
    -- a character is no surrogate
    have valid : ¬ (0xd800 ≤ char.toNat ∧ char.toNat < 0xdc00) := by
      rcases char.valid with below | ⟨above, -⟩
      · exact fun surrogate => absurd below (Nat.not_lt.mpr surrogate.1)
      · intro surrogate
        have : 0xdfff < char.toNat := above
        omega
    simp only [if_neg valid, back]
  · rename_i large
    have range : char.toNat < 0x110000 := by
      rcases char.valid with below | ⟨-, above⟩
      · have : char.toNat < 0xd800 := below
        omega
      · exact above
    have high : 0xd800 + (char.toNat - 0x10000) / 0x400 < 0xdc00 := by omega
    rw [List.append_assoc, readChar_unicodeEscape, readEscape,
      readHex_unicodeEscape _ (by omega)]
    simp only [if_pos (And.intro (Nat.le_add_right _ _) high),
      readHex_unicodeEscape (0xdc00 + (char.toNat - 0x10000) % 0x400) (by omega),
      Option.map_some]
    have whole : 0x10000 + (0xd800 + (char.toNat - 0x10000) / 0x400 - 0xd800) * 0x400 +
        (0xdc00 + (char.toNat - 0x10000) % 0x400 - 0xdc00) = char.toNat := by omega
    rw [whole, back]

/-- No escape begins with a quotation mark. -/
theorem escapeChar_unquoted (char : Char) :
    ∃ head tail, escapeChar char = head :: tail ∧ head ≠ '"' := by
  unfold escapeChar
  split
  · exact ⟨_, _, rfl, by decide⟩
  · rename_i plain
    split
    · refine ⟨_, _, rfl, ?_⟩
      rintro rfl
      cases plain
    split
    · exact ⟨_, _, rfl, by decide⟩
    · exact ⟨_, _, rfl, by decide⟩

theorem quoted_delimiting : SelfDelimiting quoted := by
  intro left right rest rest' joined
  simp only [quoted, List.cons_append, List.append_assoc, List.nil_append] at joined
  obtain ⟨same, rests⟩ := split_codes (selfDelimiting_of_read readChar readChar_escapeChar)
    escapeChar_unquoted (List.cons.inj joined).2
  exact ⟨String.toList_injective same, rests⟩

/-! ## Values -/

/-- The member goes before the first one with a greater key. -/
def insertByKey {β : Type} (member : String × β) : List (String × β) → List (String × β)
  | [] => [member]
  | head :: tail =>
      if member.1 ≤ head.1 then member :: head :: tail else head :: insertByKey member tail

def memberText (member : String × List Char) : List Char :=
  quoted member.1 ++ (':' :: member.2)

/-- The texts, with commas between them. -/
def joined : List (List Char) → List Char
  | [] => []
  | head :: tail => head ++ tail.flatMap fun text => ',' :: text

section Dumps

variable (repr : FloatRepr)

mutual

def dumps : Json → List Char
  | .null => "null".toList
  | .bool value => (if value then "true" else "false").toList
  | .int value => (toString value).toList
  | .float value => (repr.text value).toList
  | .str text => quoted text
  | .arr items => '[' :: (joined (dumpsItems items) ++ [']'])
  | .obj members => '\x7b' :: (joined ((dumpsMembers members).map memberText) ++ ['\x7d'])

def dumpsItems : List Json → List (List Char)
  | [] => []
  | item :: items => dumps item :: dumpsItems items

/-- The members with the texts of their values, sorted by their keys. -/
def dumpsMembers : List (String × Json) → List (String × List Char)
  | [] => []
  | (key, value) :: members => insertByKey (key, dumps value) (dumpsMembers members)

end

/-- `canonical_json` -/
def canonicalJson (value : Json) : String := String.ofList (dumps repr value)

end Dumps

/-! ## The values of an object -/

/-- A text or a number. -/
inductive Scalar : Json → Prop where
  | str (text : String) : Scalar (.str text)
  | float (value : PyFloat) : Scalar (.float value)

/-- A comma or a closing brace. -/
def EndsValue (char : Char) : Prop := char = ',' ∨ char = '\x7d'

section Objects

variable {repr : FloatRepr}

theorem float_unquoted {value : PyFloat} {rest : List Char} {mark : Char} (ends : EndsValue mark)
    {tail : List Char} : (repr.text value).toList ++ mark :: rest ≠ '"' :: tail := by
  intro same
  cases shape : (repr.text value).toList with
  | nil =>
      rw [shape] at same
      obtain ⟨rfl, -⟩ := List.cons.inj same
      rcases ends with quote | quote <;> cases quote
  | cons head chars =>
      rw [shape] at same
      have plain := repr.text_plain value head (shape ▸ List.mem_cons_self)
      exact plain.2.2 (List.cons.inj same).1

/-- The end of a scalar can be seen. -/
theorem scalar_delimiting {left right : Json} (leftScalar : Scalar left)
    (rightScalar : Scalar right) {mark mark' : Char} {rest rest' : List Char}
    (ends : EndsValue mark) (ends' : EndsValue mark')
    (same : dumps repr left ++ mark :: rest = dumps repr right ++ mark' :: rest') :
    left = right ∧ mark :: rest = mark' :: rest' := by
  cases leftScalar with
  | str leftText =>
      cases rightScalar with
      | str rightText =>
          rw [dumps, dumps] at same
          obtain ⟨rfl, rests⟩ := quoted_delimiting same
          exact ⟨rfl, rests⟩
      | float rightValue =>
          rw [dumps, dumps, quoted] at same
          exact absurd same.symm (float_unquoted ends')
  | float leftValue =>
      cases rightScalar with
      | str rightText =>
          rw [dumps, dumps, quoted] at same
          exact absurd same (float_unquoted ends)
      | float rightValue =>
          rw [dumps, dumps] at same
          have passes : ∀ value, ∀ char ∈ (repr.text value).toList, ¬ EndsValue char := by
            intro value char member stop
            have plain := repr.text_plain value char member
            exact stop.elim plain.1 plain.2.1
          obtain ⟨texts, marks, rests⟩ :=
            split_stop EndsValue same ends ends' (passes leftValue) (passes rightValue)
          rw [repr.text_inj _ _ (String.toList_injective texts), marks, rests]
          exact ⟨rfl, rfl⟩

/-- The members after the first one, up to the closing brace. -/
def laterText (repr : FloatRepr) (members : List (String × Json)) : List Char :=
  members.flatMap (fun member => ',' :: memberText (member.1, dumps repr member.2)) ++ ['\x7d']

theorem laterText_cons (member : String × Json) (members : List (String × Json)) :
    laterText repr (member :: members) = ',' :: (quoted member.1 ++ (':' ::
      (dumps repr member.2 ++ laterText repr members))) := by
  simp [laterText, memberText]

theorem laterText_ends (members : List (String × Json)) :
    ∃ mark rest, laterText repr members = mark :: rest ∧ EndsValue mark := by
  cases members with
  | nil => exact ⟨_, _, rfl, .inr rfl⟩
  | cons member members => exact ⟨_, _, laterText_cons member members, .inl rfl⟩

theorem split_member {key key' : String} {left right : Json} (keys : key = key')
    (leftScalar : Scalar left) (rightScalar : Scalar right) {later later' : List (String × Json)}
    (same : quoted key ++ (':' :: (dumps repr left ++ laterText repr later)) =
      quoted key' ++ (':' :: (dumps repr right ++ laterText repr later'))) :
    left = right ∧ laterText repr later = laterText repr later' := by
  subst keys
  have values := (List.cons.inj (List.append_cancel_left same)).2
  obtain ⟨mark, rest, shape, ends⟩ := laterText_ends later
  obtain ⟨mark', rest', shape', ends'⟩ := laterText_ends later'
  rw [shape, shape'] at values ⊢
  exact scalar_delimiting leftScalar rightScalar ends ends' values

theorem laterText_inj {left right : List (String × Json)}
    (keys : left.map Prod.fst = right.map Prod.fst) (leftScalar : ∀ member ∈ left, Scalar member.2)
    (rightScalar : ∀ member ∈ right, Scalar member.2)
    (same : laterText repr left = laterText repr right) : left = right := by
  induction left generalizing right with
  | nil => exact (List.map_eq_nil_iff.mp keys.symm).symm
  | cons head tail inductionHypothesis =>
      cases right with
      | nil => cases keys
      | cons head' tail' =>
          obtain ⟨key, keys⟩ := List.cons.inj keys
          rw [laterText_cons, laterText_cons] at same
          obtain ⟨value, later⟩ := split_member key (leftScalar _ List.mem_cons_self)
            (rightScalar _ List.mem_cons_self) (List.cons.inj same).2
          rw [Prod.ext key value, inductionHypothesis keys
            (fun member there => leftScalar member (List.mem_cons_of_mem _ there))
            (fun member there => rightScalar member (List.mem_cons_of_mem _ there)) later]

/-- What the members of a sorted object are dumped to. -/
def SortedAs (repr : FloatRepr) (members sorted : List (String × Json)) : Prop :=
  dumpsMembers repr members = sorted.map fun member => (member.1, dumps repr member.2)

/-- Objects of texts and numbers under the same keys have different texts. -/
theorem canonicalJson_inj {members members' left right : List (String × Json)}
    (sorted : SortedAs repr members left) (sorted' : SortedAs repr members' right)
    (keys : left.map Prod.fst = right.map Prod.fst) (leftScalar : ∀ member ∈ left, Scalar member.2)
    (rightScalar : ∀ member ∈ right, Scalar member.2)
    (same : canonicalJson repr (.obj members) = canonicalJson repr (.obj members')) :
    left = right := by
  have chars := String.ofList_injective same
  rw [dumps, dumps, sorted, sorted'] at chars
  have inside := (List.cons.inj chars).2
  cases left with
  | nil => exact (List.map_eq_nil_iff.mp keys.symm).symm
  | cons head tail =>
      cases right with
      | nil => cases keys
      | cons head' tail' =>
          obtain ⟨key, keys⟩ := List.cons.inj keys
          have texts : quoted head.1 ++ (':' :: (dumps repr head.2 ++ laterText repr tail)) =
              quoted head'.1 ++ (':' :: (dumps repr head'.2 ++ laterText repr tail')) := by
            simpa [joined, memberText, laterText, List.flatMap_map] using inside
          obtain ⟨value, later⟩ := split_member key (leftScalar _ List.mem_cons_self)
            (rightScalar _ List.mem_cons_self) texts
          rw [Prod.ext key value, laterText_inj keys
            (fun member there => leftScalar member (List.mem_cons_of_mem _ there))
            (fun member there => rightScalar member (List.mem_cons_of_mem _ there)) later]

end Objects

/-! ## The provenance functions -/

/-- `evidence/provenance.py` over a digest; a window that PostgreSQL returns is in UTC. -/
def canonicalProvenance (repr : FloatRepr) (sha256Text : String → String)
    (sha256Text_hex : ∀ text, isHex64 (sha256Text text) = true) : Provenance where
  sha256Text := sha256Text
  canonicalJson := canonicalJson repr
  isoUtc := fun value => isoUtcText value.instant
  isoformat := fun instant =>
    String.ofList ((CivilTime.ofInstant instant).text ++ "+00:00".toList)
  sha256Text_hex := sha256Text_hex

end StockoutOps
