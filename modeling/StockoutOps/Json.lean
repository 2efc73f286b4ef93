import Mathlib.Data.Rat.Defs
import StockoutOps.Sql

/-!
Contract: the JSON-shaped values that Python dictionaries and `jsonb` columns
hold.

Owns: the value type with its decidable equality, and the member lookup of an
object.

Does not own: the canonical text of a value, nor the parsing of text. Object
members are kept in insertion order; a Python dictionary has one member per
key, and `member?` reads the first.
-/

namespace StockoutOps

/-- A Python `float`. Arithmetic on floats is not modelled; the value is the
rational it denotes, or one of the non-finite values. -/
inductive PyFloat where
  | finite (value : ℚ)
  | posInf
  | negInf
  | nan
deriving DecidableEq, Repr

inductive Json where
  | null
  | bool (value : Bool)
  | int (value : Int)
  | float (value : PyFloat)
  | str (value : String)
  | arr (items : List Json)
  | obj (members : List (String × Json))
deriving Repr

namespace Json

mutual

/-- Equality of values is decidable, member order included. -/
def decEq : (left right : Json) → Decidable (left = right)
  | .null, .null => isTrue rfl
  | .bool left, .bool right => decidable_of_iff (left = right) (by simp)
  | .int left, .int right => decidable_of_iff (left = right) (by simp)
  | .float left, .float right => decidable_of_iff (left = right) (by simp)
  | .str left, .str right => decidable_of_iff (left = right) (by simp)
  | .arr left, .arr right =>
      have := decEqItems left right
      decidable_of_iff (left = right) (by simp)
  | .obj left, .obj right =>
      have := decEqMembers left right
      decidable_of_iff (left = right) (by simp)
  | .null, .bool _ | .null, .int _ | .null, .float _ | .null, .str _ | .null, .arr _
  | .null, .obj _ | .bool _, .null | .bool _, .int _ | .bool _, .float _ | .bool _, .str _
  | .bool _, .arr _ | .bool _, .obj _ | .int _, .null | .int _, .bool _ | .int _, .float _
  | .int _, .str _ | .int _, .arr _ | .int _, .obj _ | .float _, .null | .float _, .bool _
  | .float _, .int _ | .float _, .str _ | .float _, .arr _ | .float _, .obj _
  | .str _, .null | .str _, .bool _ | .str _, .int _ | .str _, .float _ | .str _, .arr _
  | .str _, .obj _ | .arr _, .null | .arr _, .bool _ | .arr _, .int _ | .arr _, .float _
  | .arr _, .str _ | .arr _, .obj _ | .obj _, .null | .obj _, .bool _ | .obj _, .int _
  | .obj _, .float _ | .obj _, .str _ | .obj _, .arr _ => isFalse (by simp)

def decEqItems : (left right : List Json) → Decidable (left = right)
  | [], [] => isTrue rfl
  | [], _ :: _ => isFalse (by simp)
  | _ :: _, [] => isFalse (by simp)
  | left :: lefts, right :: rights =>
      have := decEq left right
      have := decEqItems lefts rights
      decidable_of_iff (left = right ∧ lefts = rights) (by simp)

def decEqMembers : (left right : List (String × Json)) → Decidable (left = right)
  | [], [] => isTrue rfl
  | [], _ :: _ => isFalse (by simp)
  | _ :: _, [] => isFalse (by simp)
  | (leftKey, left) :: lefts, (rightKey, right) :: rights =>
      have := decEq left right
      have := decEqMembers lefts rights
      decidable_of_iff (leftKey = rightKey ∧ left = right ∧ lefts = rights) (by simp [and_assoc])

end

instance : DecidableEq Json := decEq

/-- `value.get(key)` on an object; `none` on every other value. -/
def member? (key : String) : Json → Option Json
  | .obj members => (members.find? (fun member => member.1 == key)).map Prod.snd
  | _ => none

/-- A JSON number is finite. -/
def finiteFloat : PyFloat → Bool
  | .finite _ => true
  | _ => false

mutual

/-- The texts `json.dumps` makes of non-finite floats are no `jsonb` values. -/
def acceptedByJsonb : Json → Bool
  | .float value => finiteFloat value
  | .arr items => acceptedItems items
  | .obj members => acceptedMembers members
  | .null | .bool _ | .int _ | .str _ => true

def acceptedItems : List Json → Bool
  | [] => true
  | item :: items => acceptedByJsonb item && acceptedItems items

def acceptedMembers : List (String × Json) → Bool
  | [] => true
  | (_, value) :: members => acceptedByJsonb value && acceptedMembers members

end

mutual

/-- What a `jsonb` column stores: the numbers are finite, and no text holds a
NUL character. -/
def storable : Json → Bool
  | .float value => finiteFloat value
  | .str value => Sql.storableText value
  | .arr items => storableItems items
  | .obj members => storableMembers members
  | .null | .bool _ | .int _ => true

def storableItems : List Json → Bool
  | [] => true
  | item :: items => storable item && storableItems items

def storableMembers : List (String × Json) → Bool
  | [] => true
  | (key, value) :: members =>
      Sql.storableText key && storable value && storableMembers members

end

/-- `bool(value)` -/
def truthy : Json → Bool
  | .null => false
  | .bool value => value
  | .int value => value != 0
  | .float value => value != .finite 0
  | .str value => value != ""
  | .arr items => !items.isEmpty
  | .obj members => !members.isEmpty

end Json

end StockoutOps
