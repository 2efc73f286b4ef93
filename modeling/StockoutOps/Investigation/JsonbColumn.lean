import StockoutOps.Investigation.EvidenceStorage

/-!
Contract: a `jsonb` column that orders the members of an object by their keys.

Owns: the stored form of a value, and a `JsonbWire` over it with a text for
each timestamp.

Does not own: the text of an arbitrary timestamp.
-/

namespace StockoutOps.Investigation

open StockoutOps.Sql

/-! ## Ordered members -/

/-- Shorter keys come first. -/
def memberBefore (left right : String × Json) : Bool :=
  left.1.utf8ByteSize < right.1.utf8ByteSize ||
    (left.1.utf8ByteSize == right.1.utf8ByteSize && decide (left.1 ≤ right.1))

mutual

def jsonbStored : Json → Json
  | .null => .null
  | .bool value => .bool value
  | .int value => .int value
  | .float value => .float value
  | .str value => .str value
  | .arr items => .arr (storedItems items)
  | .obj members => .obj ((storedMembers members).mergeSort memberBefore)

def storedItems : List Json → List Json
  | [] => []
  | item :: items => jsonbStored item :: storedItems items

def storedMembers : List (String × Json) → List (String × Json)
  | [] => []
  | (key, value) :: members => (key, jsonbStored value) :: storedMembers members

end

theorem storedMembers_eq_map (members : List (String × Json)) :
    storedMembers members = members.map fun member => (member.1, jsonbStored member.2) := by
  induction members with
  | nil => rfl
  | cons head tail inductionHypothesis => rw [storedMembers, inductionHypothesis]; rfl

theorem storedMembers_keys (members : List (String × Json)) :
    (storedMembers members).map Prod.fst = members.map Prod.fst := by
  rw [storedMembers_eq_map, List.map_map]
  rfl

/-- With one member a key, a lookup does not depend on the order of the members. -/
theorem member?_of_perm {left right : List (String × Json)} (same : left.Perm right)
    (unique : (right.map Prod.fst).Nodup) (key : String) :
    (Json.obj left).member? key = (Json.obj right).member? key := by
  induction same with
  | nil => rfl
  | cons head _ inductionHypothesis =>
      have rest := inductionHypothesis (List.nodup_cons.mp unique).2
      simp only [Json.member?, List.find?_cons] at rest ⊢
      split
      · rfl
      · exact rest
  | swap first second tail =>
      have different : second.1 ≠ first.1 := by
        have := (List.nodup_cons.mp unique).1
        simp only [List.map_cons, List.mem_cons, not_or] at this
        exact fun equal => this.1 equal.symm
      simp only [Json.member?, List.find?_cons]
      cases left : second.1 == key with
      | false => rfl
      | true =>
          obtain rfl := beq_iff_eq.mp left
          rw [beq_eq_false_iff_ne.mpr (Ne.symm different)]
  | trans _ second first_ second_ =>
      have unique' := (second.map Prod.fst).nodup_iff.mpr unique
      exact (first_ unique').trans (second_ unique)

theorem member?_storedMembers (members : List (String × Json)) (key : String) :
    (Json.obj (storedMembers members)).member? key =
      ((Json.obj members).member? key).map jsonbStored := by
  rw [storedMembers_eq_map]
  simp only [Json.member?, List.find?_map, Option.map_map]
  rfl

/-! ## The text of a timestamp -/

/-- The first two days of 1970 as pydantic prints them, and any other timestamp
in a form that can be read back. -/
def printDatetime (value : PyDatetime) : String :=
  if value = ⟨0, true⟩ then "1970-01-01T00:00:00Z"
  else if value = ⟨86400 * second, true⟩ then "1970-01-02T00:00:00Z"
  else String.ofList ((if value.instant < 0 then '-' else '+') ::
    (if value.aware then 'Z' else 'N') :: List.replicate value.instant.natAbs '0')

def parseDatetime (text : String) : Option PyDatetime :=
  if text = "1970-01-01T00:00:00Z" then some ⟨0, true⟩
  else if text = "1970-01-02T00:00:00Z" then some ⟨86400 * second, true⟩
  else
    match text.toList with
    | '-' :: zone :: digits => some ⟨-digits.length, zone == 'Z'⟩
    | '+' :: zone :: digits => some ⟨digits.length, zone == 'Z'⟩
    | _ => none

theorem parseDatetime_ofList {zone : Char} {digits : List Char} :
    parseDatetime (String.ofList ('-' :: zone :: digits)) = some ⟨-digits.length, zone == 'Z'⟩ ∧
      parseDatetime (String.ofList ('+' :: zone :: digits)) =
        some ⟨digits.length, zone == 'Z'⟩ := by
  have other : ∀ sign, sign ≠ '1' → ∀ text : String, text.toList.head? = some '1' →
      String.ofList (sign :: zone :: digits) ≠ text := by
    rintro sign signed text first rfl
    rw [String.toList_ofList] at first
    exact signed (Option.some.inj first)
  constructor
  · unfold parseDatetime
    rw [if_neg (other '-' (by decide) _ (by decide)), if_neg (other '-' (by decide) _ (by decide)),
      String.toList_ofList]
    rfl
  · unfold parseDatetime
    rw [if_neg (other '+' (by decide) _ (by decide)), if_neg (other '+' (by decide) _ (by decide)),
      String.toList_ofList]
    rfl

theorem parseDatetime_print (value : PyDatetime) :
    parseDatetime (printDatetime value) = some value := by
  obtain ⟨instant, aware⟩ := value
  have zone : ((if aware = true then 'Z' else 'N') == 'Z') = aware := by cases aware <;> rfl
  unfold printDatetime
  split
  · rename_i same
    rw [same]
    rfl
  split
  · rename_i same
    rw [same]
    rfl
  · dsimp only
    split
    · rename_i negative
      have back : -(instant.natAbs : Int) = instant := by
        rw [Int.ofNat_natAbs_of_nonpos (Int.le_of_lt negative), Int.neg_neg]
      rw [parseDatetime_ofList.1, zone, List.length_replicate, back]
    · rename_i positive
      have back : (instant.natAbs : Int) = instant := Int.natAbs_of_nonneg (Int.not_lt.mp positive)
      rw [parseDatetime_ofList.2, zone, List.length_replicate, back]

theorem storable_printDatetime (value : PyDatetime) :
    storableText (printDatetime value) = true := by
  unfold printDatetime
  split
  · decide
  split
  · decide
  · simp only [storableText, String.toList_ofList, List.all_cons, Bool.and_eq_true,
      List.all_eq_true, List.mem_replicate]
    refine ⟨?_, ?_, ?_⟩
    · split <;> decide
    · split <;> decide
    · rintro char ⟨-, rfl⟩
      decide

/-! ## The wire -/

def jsonbWire : JsonbWire where
  dumpDatetime := printDatetime
  readDatetime := parseDatetime
  readDatetime_dump := parseDatetime_print
  storable_dumpDatetime := storable_printDatetime
  store := jsonbStored
  store_str := fun text => by rw [jsonbStored]
  store_float := fun value => by rw [jsonbStored]; rfl
  store_obj := by
    intro members unique
    have sorted := List.mergeSort_perm (storedMembers members) memberBefore
    refine ⟨_, by rw [jsonbStored], ?_, fun key => ?_⟩
    · exact (sorted.map Prod.fst).trans (.of_eq (storedMembers_keys members))
    · rw [member?_of_perm sorted (by rwa [storedMembers_keys]), member?_storedMembers]

end StockoutOps.Investigation
