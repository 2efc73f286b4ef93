import Mathlib.Algebra.BigOperators.Group.List.Basic
import Mathlib.Algebra.Ring.Nat
import Mathlib.Data.List.Induction
import Mathlib.Data.List.Nodup
import Mathlib.Data.List.Sort

/-!
Contract: insertion-ordered tables of one entry a key.

Owns: the update of an entry, the groups of a list by a key, the counts of its
items, and the laws of groups: each holds exactly the items of its key, and a sum
over the groups is the sum over the list.

Does not own: what the items are.
-/

namespace StockoutOps.Foundation.Grouping

variable {α β κ M : Type} [DecidableEq κ]

/-- `table[key] = change(table.get(key))`; a new key goes to the end. -/
def upsert (key : κ) (change : Option β → β) : List (κ × β) → List (κ × β)
  | [] => [(key, change none)]
  | (other, value) :: rest =>
      if other = key then (other, change (some value)) :: rest
      else (other, value) :: upsert key change rest

/-- `table[key].append(item)` on a `defaultdict(list)`. -/
def push (key : κ) (item : α) : List (κ × List α) → List (κ × List α) :=
  upsert key (fun group => group.getD [] ++ [item])

def grouped (key : α → κ) (items : List α) : List (κ × List α) :=
  items.foldl (fun table item => push (key item) item table) []

/-- `counter[item] += 1` -/
def tally (counter : List (κ × Nat)) (item : κ) : List (κ × Nat) :=
  upsert item (fun count => count.getD 0 + 1) counter

/-- `counter.update(items)` -/
def update (counter : List (κ × Nat)) (items : List κ) : List (κ × Nat) :=
  items.foldl tally counter

/-- `sorted(table.items())`; the keys differ, so the values are never compared. -/
def sortedItems [LinearOrder κ] (table : List (κ × β)) : List (κ × β) :=
  table.mergeSort (fun left right => decide (left.1 ≤ right.1))

/-! ## Keys -/

theorem keys_upsert (key : κ) (change : Option β → β) (table : List (κ × β)) :
    (upsert key change table).map Prod.fst =
      if key ∈ table.map Prod.fst then table.map Prod.fst else table.map Prod.fst ++ [key] := by
  induction table with
  | nil => rfl
  | cons head rest inductionHypothesis =>
      obtain ⟨other, value⟩ := head
      by_cases same : other = key
      · simp [upsert, same]
      · rw [upsert, if_neg same, List.map_cons, inductionHypothesis]
        simp only [List.map_cons, List.mem_cons, Ne.symm same, false_or]
        split <;> rfl

theorem nodup_keys_upsert {key : κ} {change : Option β → β} {table : List (κ × β)}
    (unique : (table.map Prod.fst).Nodup) : ((upsert key change table).map Prod.fst).Nodup := by
  rw [keys_upsert]
  split
  · exact unique
  · rename_i fresh
    exact List.nodup_append.mpr ⟨unique, List.nodup_singleton key, by
      intro left member right single same
      exact fresh (List.mem_singleton.mp single ▸ same ▸ member)⟩

theorem grouped_concat (key : α → κ) (items : List α) (item : α) :
    grouped key (items ++ [item]) = push (key item) item (grouped key items) := by
  simp [grouped]

theorem nodup_keys_grouped (key : α → κ) (items : List α) :
    ((grouped key items).map Prod.fst).Nodup := by
  induction items using List.reverseRecOn with
  | nil => exact List.nodup_nil
  | append_singleton items item inductionHypothesis =>
      rw [grouped_concat]
      exact nodup_keys_upsert inductionHypothesis

theorem mem_keys_grouped {key : α → κ} {items : List α} {group : κ} :
    group ∈ (grouped key items).map Prod.fst ↔ ∃ item ∈ items, key item = group := by
  induction items using List.reverseRecOn with
  | nil => simp [grouped]
  | append_singleton items item inductionHypothesis =>
      rw [grouped_concat, push, keys_upsert]
      simp only [List.mem_append, List.mem_singleton, or_and_right, exists_or, exists_eq_left,
        ← inductionHypothesis]
      split
      · rename_i known
        exact ⟨.inl, Or.rec id (fun same => same ▸ known)⟩
      · rw [List.mem_append, List.mem_singleton, eq_comm (a := group)]

/-! ## Groups -/

/-- A group after a push is an old one, or that of the key with the item behind it. -/
theorem mem_push {key : κ} {item : α} {table : List (κ × List α)}
    (unique : (table.map Prod.fst).Nodup) {entry : κ × List α}
    (member : entry ∈ push key item table) :
    (entry.1 ≠ key ∧ entry ∈ table) ∨
      (entry.1 = key ∧ ((∃ old, (key, old) ∈ table ∧ entry.2 = old ++ [item]) ∨
        (key ∉ table.map Prod.fst ∧ entry.2 = [item]))) := by
  induction table with
  | nil =>
      obtain rfl := List.mem_singleton.mp member
      exact .inr ⟨rfl, .inr ⟨List.not_mem_nil, rfl⟩⟩
  | cons head rest inductionHypothesis =>
      obtain ⟨other, value⟩ := head
      obtain ⟨fresh, unique⟩ := List.nodup_cons.mp unique
      by_cases same : other = key
      · subst same
        rw [push, upsert, if_pos rfl] at member
        rcases List.mem_cons.mp member with rfl | member
        · exact .inr ⟨rfl, .inl ⟨value, List.mem_cons_self, rfl⟩⟩
        · exact .inl ⟨fun equal => fresh (List.mem_map.mpr ⟨entry, member, equal⟩),
            List.mem_cons_of_mem _ member⟩
      · rw [push, upsert, if_neg same] at member
        rcases List.mem_cons.mp member with rfl | member
        · exact .inl ⟨same, List.mem_cons_self⟩
        · rcases inductionHypothesis unique member with ⟨different, old⟩ | ⟨equal, rest_⟩
          · exact .inl ⟨different, List.mem_cons_of_mem _ old⟩
          · refine .inr ⟨equal, rest_.imp ?_ ?_⟩
            · exact fun ⟨old, stored, grown⟩ => ⟨old, List.mem_cons_of_mem _ stored, grown⟩
            · exact fun ⟨absent, single⟩ => ⟨by simp [Ne.symm same, absent], single⟩

/-- A group holds the items of its key, in their order. -/
theorem group_eq_filter {key : α → κ} {items : List α} {entry : κ × List α}
    (member : entry ∈ grouped key items) :
    entry.2 = items.filter (fun item => decide (key item = entry.1)) := by
  induction items using List.reverseRecOn generalizing entry with
  | nil => cases member
  | append_singleton items item inductionHypothesis =>
      rw [grouped_concat] at member
      rw [List.filter_append]
      rcases mem_push (nodup_keys_grouped key items) member with
        ⟨different, old⟩ | ⟨same, ⟨old, stored, grown⟩ | ⟨absent, single⟩⟩
      · rw [inductionHypothesis old, List.filter_singleton,
          decide_eq_false (Ne.symm different)]
        exact (List.append_nil _).symm
      · have before : old = items.filter (fun other => decide (key other = key item)) :=
          inductionHypothesis stored
        rw [grown, before, same]
        simp
      · have before : items.filter (fun other => decide (key other = key item)) = [] := by
          rw [List.filter_eq_nil_iff]
          intro other earlier equal
          exact absent (mem_keys_grouped.mpr ⟨other, earlier, of_decide_eq_true equal⟩)
        rw [single, same, before]
        simp

theorem group_ne_nil {key : α → κ} {items : List α} {entry : κ × List α}
    (member : entry ∈ grouped key items) : entry.2 ≠ [] := by
  obtain ⟨item, listed, same⟩ := mem_keys_grouped.mp (List.mem_map_of_mem member)
  rw [group_eq_filter member]
  exact List.ne_nil_of_mem (List.mem_filter.mpr ⟨listed, decide_eq_true same⟩)

theorem upsert_map {γ : Type} (f : β → γ) (key : κ) (change : Option β → β)
    (change' : Option γ → γ) (commutes : ∀ old, f (change old) = change' (old.map f))
    (table : List (κ × β)) :
    (upsert key change table).map (fun entry => (entry.1, f entry.2)) =
      upsert key change' (table.map fun entry => (entry.1, f entry.2)) := by
  induction table with
  | nil => simp [upsert, commutes]
  | cons head rest inductionHypothesis =>
      obtain ⟨other, value⟩ := head
      by_cases same : other = key
      · simp [upsert, same, commutes]
      · simp [upsert, same, inductionHypothesis]

/-- A table of translated items has the translated groups. -/
theorem foldl_push (key : α → κ) (value : α → β) (items : List α) :
    items.foldl (fun table item => push (key item) (value item) table) [] =
      (grouped key items).map (fun entry => (entry.1, entry.2.map value)) := by
  induction items using List.reverseRecOn with
  | nil => rfl
  | append_singleton items item inductionHypothesis =>
      rw [List.foldl_append, inductionHypothesis, grouped_concat, push]
      refine (upsert_map (List.map value) _ _ _ (fun old => ?_) _).symm
      cases old <;> simp

/-! ## Sums -/

section Sums

variable [AddCommMonoid M]

theorem sum_push (f : α → M) (key : κ) (item : α) (table : List (κ × List α)) :
    ((push key item table).map fun entry => (entry.2.map f).sum).sum =
      (table.map fun entry => (entry.2.map f).sum).sum + f item := by
  induction table with
  | nil => simp [push, upsert]
  | cons head rest inductionHypothesis =>
      obtain ⟨other, value⟩ := head
      by_cases same : other = key
      · simp [push, upsert, same, add_assoc, add_comm (f item)]
      · rw [push, upsert, if_neg same, List.map_cons, List.sum_cons, ← push,
          inductionHypothesis, List.map_cons, List.sum_cons, add_assoc]

/-- A sum over the groups is the sum over the list. -/
theorem sum_grouped (f : α → M) (key : α → κ) (items : List α) :
    ((grouped key items).map fun entry => (entry.2.map f).sum).sum = (items.map f).sum := by
  induction items using List.reverseRecOn with
  | nil => rfl
  | append_singleton items item inductionHypothesis =>
      rw [grouped_concat, sum_push, inductionHypothesis]
      simp

end Sums

/-! ## Order -/

omit [DecidableEq κ] in
theorem sortedItems_perm [LinearOrder κ] (table : List (κ × β)) :
    (sortedItems table).Perm table :=
  List.mergeSort_perm _ _

omit [DecidableEq κ] in
theorem sortedItems_map {γ : Type} [LinearOrder κ] (f : β → γ) (table : List (κ × β)) :
    sortedItems (table.map fun entry => (entry.1, f entry.2)) =
      (sortedItems table).map fun entry => (entry.1, f entry.2) := by
  unfold sortedItems
  rw [List.map_mergeSort]
  exact fun _ _ _ _ => rfl

end StockoutOps.Foundation.Grouping
