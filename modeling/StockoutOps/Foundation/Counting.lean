import Mathlib.Data.Nat.Cast.Basic
import Mathlib.Order.Basic
import StockoutOps.Foundation.Grouping

/-!
Contract: counters, and sorts by a key, of lists in another order.

Owns: what a counter holds for each item, its total, and that its sorted entries
do not depend on the order of the items; the same for a list sorted by a key that
tells its items apart.

Does not own: what is counted.
-/

namespace StockoutOps.Foundation.Grouping

variable {α β κ : Type}

/-! ## Sorting by a key -/

theorem mergeSort_eq_of_perm [LinearOrder κ] (key : α → κ) {left right : List α}
    (permuted : left.Perm right) (distinct : (left.map key).Nodup) :
    left.mergeSort (fun first second => decide (key first ≤ key second)) =
      right.mergeSort (fun first second => decide (key first ≤ key second)) := by
  have sorted (items : List α) :
      (items.mergeSort (fun first second => decide (key first ≤ key second))).Pairwise
        (fun first second => decide (key first ≤ key second) = true) :=
    List.pairwise_mergeSort
      (fun first second third => by simpa using le_trans)
      (fun first second => by simpa using le_total (key first) (key second)) items
  have injective := List.inj_on_of_nodup_map distinct
  refine (((List.mergeSort_perm left _).trans permuted).trans
    (List.mergeSort_perm right _).symm).eq_of_pairwise ?_ (sorted left) (sorted right)
  intro first second firstMember secondMember below above
  refine injective ((List.mergeSort_perm left _).mem_iff.mp firstMember)
    (permuted.mem_iff.mpr ((List.mergeSort_perm right _).mem_iff.mp secondMember)) ?_
  exact le_antisymm (of_decide_eq_true below) (of_decide_eq_true above)

/-! ## Counters -/

section Counters

variable [DecidableEq κ]

/-- A counter holds the sizes of the groups. -/
theorem update_eq_grouped (items : List κ) :
    update [] items = (grouped id items).map fun entry => (entry.1, entry.2.length) := by
  induction items using List.reverseRecOn with
  | nil => rfl
  | append_singleton items item inductionHypothesis =>
      have last : update [] (items ++ [item]) = tally (update [] items) item := by
        simp [update]
      rw [last, inductionHypothesis, grouped_concat, push, tally]
      refine (upsert_map List.length _ _ _ (fun old => ?_) _).symm
      cases old <;> simp

theorem update_append (counter : List (κ × Nat)) (first second : List κ) :
    update (update counter first) second = update counter (first ++ second) :=
  List.foldl_append.symm

theorem nodup_keys_update (items : List κ) : ((update [] items).map Prod.fst).Nodup := by
  rw [update_eq_grouped, List.map_map]
  exact nodup_keys_grouped id items

theorem mem_update {items : List κ} {entry : κ × Nat} :
    entry ∈ update [] items ↔ entry.1 ∈ items ∧ entry.2 = items.count entry.1 := by
  rw [update_eq_grouped, List.mem_map]
  constructor
  · rintro ⟨group, member, rfl⟩
    have known := mem_keys_grouped.mp (List.mem_map_of_mem member)
    obtain ⟨item, listed, same⟩ := known
    refine ⟨same ▸ listed, ?_⟩
    rw [group_eq_filter member, List.count_eq_length_filter]
    rfl
  · rintro ⟨listed, counted⟩
    have known : entry.1 ∈ (grouped id items).map Prod.fst :=
      mem_keys_grouped.mpr ⟨entry.1, listed, rfl⟩
    obtain ⟨group, member, same⟩ := List.mem_map.mp known
    refine ⟨group, member, Prod.ext same ?_⟩
    rw [group_eq_filter member, counted, List.count_eq_length_filter, same]
    rfl

theorem total_update (items : List κ) : ((update [] items).map Prod.snd).sum = items.length := by
  have sizes := sum_grouped (fun _ => 1) id items
  simpa [update_eq_grouped, Function.comp_def] using sizes

/-- The order of the items does not change what a counter holds. -/
theorem update_perm {left right : List κ} (permuted : left.Perm right) :
    (update [] left).Perm (update [] right) := by
  refine (List.perm_ext_iff_of_nodup (nodup_keys_update left).of_map
    (nodup_keys_update right).of_map).mpr fun entry => ?_
  rw [mem_update, mem_update, permuted.mem_iff, permuted.count_eq]

theorem sortedItems_update_eq [LinearOrder κ] {left right : List κ} (permuted : left.Perm right) :
    sortedItems (update [] left) = sortedItems (update [] right) :=
  mergeSort_eq_of_perm Prod.fst (update_perm permuted) (nodup_keys_update left)

theorem upsert_upsert (key : κ) (first second : Option β → β) (table : List (κ × β)) :
    upsert key second (upsert key first table) =
      upsert key (fun old => second (some (first old))) table := by
  induction table with
  | nil => simp [upsert]
  | cons head rest inductionHypothesis =>
      obtain ⟨other, value⟩ := head
      by_cases same : other = key
      · simp [upsert, same]
      · simp [upsert, same, inductionHypothesis]

/-- `counter[key] += count` is `count` single steps, unless there is none. -/
theorem upsert_add_eq_update (key : κ) (count : Nat) (counter : List (κ × Nat)) :
    upsert key (fun old => old.getD 0 + (count + 1)) counter =
      update counter (List.replicate (count + 1) key) := by
  induction count with
  | zero => rfl
  | succ count inductionHypothesis =>
      have last : update counter (List.replicate (count + 1 + 1) key) =
          tally (update counter (List.replicate (count + 1) key)) key := by
        rw [List.replicate_succ', update, List.foldl_append]
        rfl
      rw [last, ← inductionHypothesis, tally, upsert_upsert]
      rfl

end Counters

end StockoutOps.Foundation.Grouping
