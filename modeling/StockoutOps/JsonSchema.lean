import StockoutOps.JsonEquality

/-!
Contract: which values a JSON Schema accepts.

Owns: the assertions `type`, `enum`, `minLength`, `maxLength`, `minItems` and
`maxItems`, `required`, and the applicators `items`, `properties` and
`additionalProperties`; and the values that the common forms of a schema accept.

Does not own: the other keywords, which say nothing here (`additionalProperties`
is not paired with `patternProperties`), and the equality of an integer with the
same number written as a float.
-/

namespace StockoutOps.JsonSchema

open StockoutOps

/-! ## Assertions -/

def isInteger : PyFloat → Bool
  | .finite value => value.den = 1
  | _ => false

/-- `type` -/
def hasType (name : String) : Json → Bool
  | .null => name = "null"
  | .bool _ => name = "boolean"
  | .int _ => name = "number" || name = "integer"
  | .float value => name = "number" || name = "integer" && isInteger value
  | .str _ => name = "string"
  | .arr _ => name = "array"
  | .obj _ => name = "object"

/-- `type` with one name, or with several. -/
def assertsType : Json → Json → Bool
  | .str name, value => hasType name value
  | .arr names, value => names.any fun name =>
      match name with
      | .str name => hasType name value
      | _ => false
  | _, _ => true

def assertsEnum : Json → Json → Bool
  | .arr options, value => options.any fun option => option.sameUpToOrder value
  | _, _ => true

def assertsMinimum (size : Option Nat) : Json → Bool
  | .int bound => size.all fun size => bound ≤ size
  | _ => true

def assertsMaximum (size : Option Nat) : Json → Bool
  | .int bound => size.all fun size => (size : Int) ≤ bound
  | _ => true

/-- The length of a text, in characters. -/
def textSize : Json → Option Nat
  | .str text => some text.length
  | _ => none

def listSize : Json → Option Nat
  | .arr items => some items.length
  | _ => none

def assertsRequired : Json → Json → Bool
  | .arr names, .obj members => names.all fun name =>
      match name with
      | .str name => ((Json.obj members).member? name).isSome
      | _ => true
  | _, _ => true

/-- The members that `properties` does not name. -/
def additionalMembers (schema : Json) : Json → List (String × Json)
  | .obj members => members.filter fun member =>
      match schema.member? "properties" with
      | some properties => (properties.member? member.1).isNone
      | none => true
  | _ => []

/-! ## Schemas -/

mutual

/-- Whether the schema accepts the value. -/
def accepts : Json → Json → Bool
  | .bool verdict, _ => verdict
  | .obj keywords, value => acceptsKeywords keywords (.obj keywords) value
  | .null, _ | .int _, _ | .float _, _ | .str _, _ | .arr _, _ => false

/-- Each keyword of the schema, on its own. -/
def acceptsKeywords : List (String × Json) → Json → Json → Bool
  | [], _, _ => true
  | (keyword, argument) :: keywords, schema, value =>
      (match keyword with
        | "type" => assertsType argument value
        | "enum" => assertsEnum argument value
        | "minLength" => assertsMinimum (textSize value) argument
        | "maxLength" => assertsMaximum (textSize value) argument
        | "minItems" => assertsMinimum (listSize value) argument
        | "maxItems" => assertsMaximum (listSize value) argument
        | "required" => assertsRequired argument value
        | "items" =>
            match value with
            | .arr items => items.all fun item => accepts argument item
            | _ => true
        | "properties" => acceptsProperties argument value
        | "additionalProperties" =>
            (additionalMembers schema value).all fun member => accepts argument member.2
        | _ => true) && acceptsKeywords keywords schema value

def acceptsProperties : Json → Json → Bool
  | .obj properties, value => acceptsMembers properties value
  | .null, _ | .bool _, _ | .int _, _ | .float _, _ | .str _, _ | .arr _, _ => true

/-- Every named member that is there is accepted. -/
def acceptsMembers : List (String × Json) → Json → Bool
  | [], _ => true
  | (name, schema) :: properties, value =>
      (match value.member? name with
        | some member => accepts schema member
        | none => true) && acceptsMembers properties value

end

theorem acceptsMembers_iff {properties : List (String × Json)} {value : Json} :
    acceptsMembers properties value = true ↔ ∀ property ∈ properties, ∀ member,
      value.member? property.1 = some member → accepts property.2 member = true := by
  induction properties with
  | nil => simp [acceptsMembers]
  | cons head tail inductionHypothesis =>
      rw [acceptsMembers, Bool.and_eq_true, inductionHypothesis, List.forall_mem_cons]
      refine and_congr ?_ Iff.rfl
      cases value.member? head.1 with
      | none => simp
      | some member => simp

/-! ## Common forms -/

/-- A text within bounds. -/
def boundedText (low high : Nat) : Json :=
  .obj [("type", .str "string"), ("minLength", .int low), ("maxLength", .int high)]

/-- One of some texts. -/
def oneOf (options : List String) : Json :=
  .obj [("type", .str "string"), ("enum", .arr (options.map .str))]

def anyText : Json := .obj [("type", .str "string")]

/-- A list of texts, its length within bounds. -/
def boundedTexts (low high : Nat) : Json :=
  .obj [("type", .str "array"), ("minItems", .int low), ("maxItems", .int high),
    ("items", anyText)]

/-- An object with these members and no other. -/
def closedObject (properties : List (String × Json)) : Json :=
  .obj [("type", .str "object"), ("additionalProperties", .bool false),
    ("required", .arr (properties.map fun property => .str property.1)),
    ("properties", .obj properties)]

section Forms

variable {low high : Nat} {value : Json}

theorem accepts_boundedText : accepts (boundedText low high) value = true ↔
    ∃ text, value = .str text ∧ low ≤ text.length ∧ text.length ≤ high := by
  cases value <;> simp [boundedText, accepts, acceptsKeywords, assertsType, hasType,
    assertsMinimum, assertsMaximum, textSize]

theorem accepts_oneOf {options : List String} : accepts (oneOf options) value = true ↔
    ∃ text, value = .str text ∧ text ∈ options := by
  cases value <;> simp [oneOf, accepts, acceptsKeywords, assertsType, hasType, assertsEnum,
    Json.sameUpToOrder]

theorem accepts_anyText : accepts anyText value = true ↔ ∃ text, value = .str text := by
  cases value <;> simp [anyText, accepts, acceptsKeywords, assertsType, hasType]

theorem accepts_boundedTexts : accepts (boundedTexts low high) value = true ↔
    ∃ items, value = .arr items ∧ (low ≤ items.length ∧ items.length ≤ high) ∧
      ∀ item ∈ items, ∃ text, item = .str text := by
  cases value <;> simp [boundedTexts, accepts, acceptsKeywords, assertsType, hasType,
    assertsMinimum, assertsMaximum, listSize, accepts_anyText, and_assoc]

theorem assertsRequired_names {names : List String} {members : List (String × Json)} :
    assertsRequired (.arr (names.map .str)) (.obj members) = true ↔
      ∀ name ∈ names, ∃ member, (Json.obj members).member? name = some member := by
  simp [assertsRequired, Option.isSome_iff_exists]

theorem member?_isNone {properties : List (String × Json)} {name : String} :
    ((Json.obj properties).member? name).isNone = true ↔ name ∉ properties.map Prod.fst := by
  simp only [Json.member?, Option.isNone_map, Option.isNone_iff_eq_none, List.find?_eq_none,
    List.mem_map, beq_iff_eq, not_exists, not_and]

theorem accepts_closedObject {properties : List (String × Json)} :
    accepts (closedObject properties) value = true ↔
      ∃ members, value = .obj members ∧
        (∀ member ∈ members, member.1 ∈ properties.map Prod.fst) ∧
        ∀ property ∈ properties, ∃ member, (Json.obj members).member? property.1 = some member ∧
          accepts property.2 member = true := by
  cases value with
  | obj members =>
      have names : properties.map (fun property => Json.str property.1) =
          (properties.map Prod.fst).map .str := by
        rw [List.map_map]
        rfl
      have closed : (∀ member ∈ additionalMembers (closedObject properties) (.obj members),
          accepts (.bool false) member.2 = true) ↔
            ∀ member ∈ members, member.1 ∈ properties.map Prod.fst := by
        have known : (closedObject properties).member? "properties" = some (.obj properties) := rfl
        simp only [additionalMembers, known, List.mem_filter, member?_isNone, accepts]
        grind
      have each : (∀ name ∈ properties.map Prod.fst, ∃ member,
            (Json.obj members).member? name = some member) ∧
          (∀ property ∈ properties, ∀ member,
            (Json.obj members).member? property.1 = some member →
              accepts property.2 member = true) ↔
          ∀ property ∈ properties, ∃ member,
            (Json.obj members).member? property.1 = some member ∧
              accepts property.2 member = true := by
        rw [List.forall_mem_map]
        grind
      rw [closedObject, accepts, ← closedObject]
      simp only [acceptsKeywords, assertsType, hasType, names, Bool.and_true, Bool.and_eq_true,
        decide_true, true_and, List.all_eq_true, closed, assertsRequired_names, acceptsProperties,
        acceptsMembers_iff, each, Json.obj.injEq, exists_eq_left']
  | null => simp [closedObject, accepts, acceptsKeywords, assertsType, hasType]
  | bool value => simp [closedObject, accepts, acceptsKeywords, assertsType, hasType]
  | int value => simp [closedObject, accepts, acceptsKeywords, assertsType, hasType]
  | float value => simp [closedObject, accepts, acceptsKeywords, assertsType, hasType]
  | str text => simp [closedObject, accepts, acceptsKeywords, assertsType, hasType]
  | arr items => simp [closedObject, accepts, acceptsKeywords, assertsType, hasType]

end Forms

end StockoutOps.JsonSchema
