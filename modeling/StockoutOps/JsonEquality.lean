import Mathlib.Data.List.Forall2
import Mathlib.Data.List.Nodup
import StockoutOps.Json

/-!
Contract: JSON values as Python compares them.

Owns: the induction over a value, its items and its members; the values whose
objects have one member per key; and equality up to the order of the members, at
every level.

Does not own: the texts of values.

`True` and `1`, which Python holds to be equal, are different values here.
-/

namespace StockoutOps.Json

/-! ## Induction -/

/-- Induction over a value: its items, and the values of its members, come before it. -/
@[elab_as_elim]
theorem value_induction {motive : Json → Prop} (null : motive .null)
    (bool : ∀ value, motive (.bool value)) (int : ∀ value, motive (.int value))
    (float : ∀ value, motive (.float value)) (str : ∀ value, motive (.str value))
    (arr : ∀ items, (∀ item ∈ items, motive item) → motive (.arr items))
    (obj : ∀ members, (∀ member ∈ members, motive member.2) → motive (.obj members))
    (value : Json) : motive value := by
  refine @Json.rec motive (fun items => ∀ item ∈ items, motive item)
    (fun members => ∀ member ∈ members, motive member.2) (fun member => motive member.2)
    null bool int float str arr obj (fun _ => nofun) (fun head tail first rest => ?_)
    (fun _ => nofun) (fun head tail first rest => ?_) (fun _ _ value => value) value
  · exact List.forall_mem_cons.mpr ⟨first, rest⟩
  · exact List.forall_mem_cons.mpr ⟨first, rest⟩

/-! ## Objects with distinct keys -/

mutual

/-- No object has two members of one key. -/
def distinctKeys : Json → Bool
  | .arr items => distinctItems items
  | .obj members => decide (members.map Prod.fst).Nodup && distinctMembers members
  | .null | .bool _ | .int _ | .float _ | .str _ => true

def distinctItems : List Json → Bool
  | [] => true
  | item :: items => distinctKeys item && distinctItems items

def distinctMembers : List (String × Json) → Bool
  | [] => true
  | (_, value) :: members => distinctKeys value && distinctMembers members

end

theorem distinctItems_iff {items : List Json} :
    distinctItems items = true ↔ ∀ item ∈ items, item.distinctKeys = true := by
  induction items with
  | nil => simp [distinctItems]
  | cons head tail inductionHypothesis => simp [distinctItems, inductionHypothesis]

theorem distinctMembers_iff {members : List (String × Json)} :
    distinctMembers members = true ↔ ∀ member ∈ members, member.2.distinctKeys = true := by
  induction members with
  | nil => simp [distinctMembers]
  | cons head tail inductionHypothesis =>
      rw [distinctMembers, Bool.and_eq_true, inductionHypothesis, List.forall_mem_cons]

theorem distinctKeys_arr {items : List Json} :
    (Json.arr items).distinctKeys = true ↔ ∀ item ∈ items, item.distinctKeys = true := by
  rw [distinctKeys, distinctItems_iff]

theorem distinctKeys_obj {members : List (String × Json)} :
    (Json.obj members).distinctKeys = true ↔ (members.map Prod.fst).Nodup ∧
      ∀ member ∈ members, member.2.distinctKeys = true := by
  rw [distinctKeys, Bool.and_eq_true, decide_eq_true_iff, distinctMembers_iff]

/-- With distinct keys the lookup finds the members. -/
theorem member?_eq_some {members : List (String × Json)}
    (distinct : (members.map Prod.fst).Nodup) {key : String} {value : Json} :
    (Json.obj members).member? key = some value ↔ (key, value) ∈ members := by
  simp only [member?]
  induction members with
  | nil => simp
  | cons head tail inductionHypothesis =>
      obtain ⟨fresh, rest⟩ := List.nodup_cons.mp distinct
      obtain ⟨headKey, headValue⟩ := head
      by_cases same : headKey = key
      · subst same
        have absent : (headKey, value) ∉ tail := fun member =>
          fresh (List.mem_map.mpr ⟨_, member, rfl⟩)
        simp [absent, eq_comm]
      · rw [List.find?_cons_of_neg (by simpa using same), inductionHypothesis rest]
        simp [Ne.symm same]

/-- The members of a value with distinct keys have distinct keys. -/
theorem distinctKeys_member {members : List (String × Json)} {name : String} {member : Json}
    (distinct : (Json.obj members).distinctKeys = true)
    (found : (Json.obj members).member? name = some member) : member.distinctKeys = true := by
  obtain ⟨keys, each⟩ := Json.distinctKeys_obj.mp distinct
  exact each _ ((Json.member?_eq_some keys).mp found)

/-! ## Equality up to the order of the members -/

mutual

/-- The values are equal, whatever the order of the members of their objects. -/
def sameUpToOrder : Json → Json → Bool
  | .arr left, .arr right => sameItems left right
  | .obj left, .obj right => left.length == right.length && sameMembers left (.obj right)
  | .null, right => right = .null
  | .bool left, right => right = .bool left
  | .int left, right => right = .int left
  | .float left, right => right = .float left
  | .str left, right => right = .str left
  | .arr _, _ | .obj _, _ => false

def sameItems : List Json → List Json → Bool
  | [], [] => true
  | left :: lefts, right :: rights => sameUpToOrder left right && sameItems lefts rights
  | _, _ => false

/-- Every member has one of the same key and the same value in the object. -/
def sameMembers : List (String × Json) → Json → Bool
  | [], _ => true
  | (key, value) :: members, whole =>
      (match whole.member? key with
        | some other => sameUpToOrder value other
        | none => false) && sameMembers members whole

end

theorem sameItems_iff {left right : List Json} : sameItems left right = true ↔
    List.Forall₂ (fun item other => item.sameUpToOrder other = true) left right := by
  induction left generalizing right with
  | nil => cases right <;> simp [sameItems]
  | cons head tail inductionHypothesis =>
      cases right with
      | nil => simp [sameItems]
      | cons other others => simp [sameItems, inductionHypothesis]

theorem sameMembers_iff {members : List (String × Json)} {whole : Json} :
    sameMembers members whole = true ↔ ∀ member ∈ members, ∃ other,
      whole.member? member.1 = some other ∧ member.2.sameUpToOrder other = true := by
  induction members with
  | nil => simp [sameMembers]
  | cons head tail inductionHypothesis =>
      rw [sameMembers, Bool.and_eq_true, inductionHypothesis, List.forall_mem_cons]
      refine and_congr ?_ Iff.rfl
      cases whole.member? head.1 with
      | none => simp
      | some other => simp

theorem sameUpToOrder_arr {left right : List Json} :
    (Json.arr left).sameUpToOrder (.arr right) = true ↔
      List.Forall₂ (fun item other => item.sameUpToOrder other = true) left right := by
  rw [sameUpToOrder, sameItems_iff]

theorem sameUpToOrder_obj {left right : List (String × Json)} :
    (Json.obj left).sameUpToOrder (.obj right) = true ↔ left.length = right.length ∧
      ∀ member ∈ left, ∃ other, (Json.obj right).member? member.1 = some other ∧
        member.2.sameUpToOrder other = true := by
  rw [sameUpToOrder, Bool.and_eq_true, beq_iff_eq, sameMembers_iff]

/-- Objects with members of the same names agree where these do. -/
theorem sameUpToOrder_of_names {left right : List (String × Json)}
    (distinct : (left.map Prod.fst).Nodup) (distinct' : (right.map Prod.fst).Nodup)
    (within : ∀ member ∈ right, member.1 ∈ left.map Prod.fst)
    (agree : ∀ member ∈ left, ∃ other, (Json.obj right).member? member.1 = some other ∧
      member.2.sameUpToOrder other = true) :
    (Json.obj left).sameUpToOrder (.obj right) = true := by
  refine sameUpToOrder_obj.mpr ⟨?_, agree⟩
  have forth : left.map Prod.fst ⊆ right.map Prod.fst := by
    intro name inside
    obtain ⟨member, there, rfl⟩ := List.mem_map.mp inside
    obtain ⟨other, found, -⟩ := agree member there
    exact List.mem_map.mpr ⟨_, (member?_eq_some distinct').mp found, rfl⟩
  have back : right.map Prod.fst ⊆ left.map Prod.fst := by
    intro name inside
    obtain ⟨member, there, rfl⟩ := List.mem_map.mp inside
    exact within member there
  simpa using Nat.le_antisymm (distinct.length_le_of_subset forth)
    (distinct'.length_le_of_subset back)

end StockoutOps.Json
