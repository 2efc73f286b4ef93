import Mathlib.Algebra.Order.Field.Rat
import Mathlib.Data.List.Dedup
import Mathlib.Data.String.Basic
import StockoutOps.Shadow.Comparison

/-!
Contract: what a comparison keeps when the evidence of the outcome changes.

Owns: that `compare` reads the evidence tools and the citations as sets, that more
of them never makes an entry worse, and that the summaries of a comparison say what
its entries do.

Does not own: the other fields of an outcome.
-/

namespace StockoutOps.Shadow

open StockoutOps.Investigation StockoutOps.Sql

/-- `disagree < partial < exact` -/
def Agreement.rank : Agreement → Nat
  | .disagree => 0
  | .partly => 1
  | .exact => 2

/-- The outcomes differ at most in their evidence tools and their citations. -/
def SameOtherwise (left right : ShadowActualOutcome) : Prop :=
  { left with evidenceTools := right.evidenceTools, citationIds := right.citationIds } = right

/-- The entry of the one outcome is no worse in the other. -/
structure NoWorse (entry other : ShadowDiffEntry) : Prop where
  fieldName : entry.fieldName = other.fieldName
  agreement : entry.agreement.rank ≤ other.agreement.rank

theorem NoWorse.refl (entry : ShadowDiffEntry) : NoWorse entry entry := ⟨rfl, le_rfl⟩

/-! ## Sets -/

section Sets

variable {left right : List String}

theorem sortedSet_eq (same : ∀ item, item ∈ left ↔ item ∈ right) :
    sortedSet left = sortedSet right := by
  have permuted : left.dedup.Perm right.dedup := by
    refine (List.perm_ext_iff_of_nodup (List.nodup_dedup _) (List.nodup_dedup _)).mpr ?_
    simpa using same
  have sorted : ∀ items : List String, (sortedSet items).Pairwise (· ≤ ·) := by
    intro items
    have pairwise := @List.pairwise_mergeSort String (fun left right => decide (left ≤ right))
      (fun first second third => by simpa using String.le_trans)
      (fun first second => by simpa using String.le_total first second) items.dedup
    simpa [sortedSet] using pairwise
  have reordered : (sortedSet left).Perm (sortedSet right) :=
    ((List.mergeSort_perm _ _).trans permuted).trans (List.mergeSort_perm _ _).symm
  exact reordered.eq_of_pairwise (fun _ _ _ _ => String.le_antisymm) (sorted left) (sorted right)

theorem dedup_length_mono (included : left ⊆ right) : left.dedup.length ≤ right.dedup.length :=
  (List.nodup_dedup left).length_le_of_subset fun _ member =>
    List.mem_dedup.mpr (included (List.mem_dedup.mp member))

end Sets

/-! ## Agreements -/

section Agreements

variable {expected left right : List String}

theorem evidenceAgreement_congr (same : ∀ item, item ∈ left ↔ item ∈ right) :
    evidenceAgreement expected left = evidenceAgreement expected right := by
  simp only [evidenceAgreement, same]

theorem evidenceAgreement_mono (included : left ⊆ right) :
    (evidenceAgreement expected left).rank ≤ (evidenceAgreement expected right).rank := by
  by_cases all : ∀ tool ∈ expected, tool ∈ right
  · rw [evidenceAgreement, evidenceAgreement, if_pos all]
    split
    · exact le_rfl
    · split <;> decide
  · have fewer : ¬ ∀ tool ∈ expected, tool ∈ left := fun inside =>
      all fun tool member => included (inside tool member)
    rw [evidenceAgreement, evidenceAgreement, if_neg all, if_neg fewer]
    split
    case isTrue some_ =>
      obtain ⟨tool, member, inside⟩ := some_
      rw [if_pos ⟨tool, member, included inside⟩]
    case isFalse => exact Nat.zero_le _

theorem citationAgreement_mono {minimum fewer more : Nat} (bound : fewer ≤ more) :
    (citationAgreement minimum fewer).rank ≤ (citationAgreement minimum more).rank := by
  unfold citationAgreement
  split
  case isTrue enough => rw [if_pos (enough.trans bound)]
  case isFalse =>
    split
    case isTrue =>
      split
      · decide
      · rw [if_pos (by omega)]
    case isFalse => exact Nat.zero_le _

theorem evidenceAgreement_exact_iff :
    evidenceAgreement expected left = .exact ↔ missingCount expected left = 0 := by
  have none_ : missingCount expected left = 0 ↔ ∀ tool ∈ expected, tool ∈ left := by
    rw [missingCount, List.length_eq_zero_iff, List.filter_eq_nil_iff]
    simp
  rw [none_]
  unfold evidenceAgreement
  split
  case isTrue all => exact iff_of_true rfl all
  case isFalse some_ =>
    refine iff_of_false ?_ some_
    split <;> decide

theorem missingCount_anti (included : left ⊆ right) :
    missingCount expected right ≤ missingCount expected left :=
  (List.monotone_filter_right _ fun tool => by
    simpa using fun absent inside => absent (included inside)).length_le

end Agreements

/-! ## Comparisons -/

/-- The categories of the entries that are not exact. -/
def disagreements (entries : List ShadowDiffEntry) : List String :=
  sortedSet ((entries.filter fun entry => entry.agreement ≠ .exact).map ShadowDiffEntry.category)

/-- The share of the required tools that were retrieved. -/
def toolCoverage (case : ShadowCase) (evidenceTools : List String) : ℚ :=
  let expectedTools := case.minimumEvidenceCitationExpectations.toolNames
  ratio (expectedTools.dedup.filter fun tool => tool ∈ evidenceTools).length
    expectedTools.dedup.length

theorem toolNames_ne_nil (case : ShadowCase) :
    case.minimumEvidenceCitationExpectations.toolNames ≠ [] := by
  simpa [MinimumEvidenceExpectation.toolNames] using
    case.minimumEvidenceCitationExpectations.notEmpty

theorem compare_eq (case : ShadowCase) (actual : ShadowActualOutcome) :
    compare case actual = .ok
      { exactAgreement := (disagreements (entries case actual)).isEmpty
        entries := entries case actual
        disagreementCategories := disagreements (entries case actual)
        unsupportedCitationCount := actual.unsupportedCitationCount
        missingRequiredEvidenceCount :=
          missingCount case.minimumEvidenceCitationExpectations.toolNames actual.evidenceTools
        citationCoverage := toolCoverage case actual.evidenceTools } := by
  simp only [compare, missingRequiredEvidenceCount_eq_ok, if_neg (toolNames_ne_nil case)]
  rfl

/-- No category disagrees where every entry is exact. -/
theorem disagreements_eq_nil {entries : List ShadowDiffEntry} :
    disagreements entries = [] ↔ ∀ entry ∈ entries, entry.agreement = .exact := by
  rw [disagreements, sortedSet, ← List.length_eq_zero_iff, List.length_mergeSort,
    List.length_eq_zero_iff, List.dedup_eq_nil, List.map_eq_nil_iff, List.filter_eq_nil_iff]
  simp

theorem toolCoverage_mono {case : ShadowCase} {left right : List String}
    (included : left ⊆ right) : toolCoverage case left ≤ toolCoverage case right := by
  have more := (List.monotone_filter_right
    case.minimumEvidenceCitationExpectations.toolNames.dedup (p := (· ∈ left)) (q := (· ∈ right))
    fun tool => by simpa using @included tool).length_le
  exact div_le_div_of_nonneg_right (Nat.cast_le.mpr more) (Nat.cast_nonneg _)

/-- The required tools that are absent, one by one. -/
theorem missingCount_eq (expectation : MinimumEvidenceExpectation) (evidenceTools : List String) :
    missingCount expectation.toolNames evidenceTools =
      (expectation.requiredTools.filter fun tool => tool.value ∉ evidenceTools).length := by
  rw [missingCount, MinimumEvidenceExpectation.toolNames,
    (List.Nodup.map ToolName.value_injective expectation.unique).dedup, List.filter_map,
    List.length_map]
  rfl

/-- The entry of the required evidence tools. -/
def toolsEntry (case : ShadowCase) (actual : ShadowActualOutcome) : ShadowDiffEntry :=
  let expectedTools := case.minimumEvidenceCitationExpectations.toolNames
  entry "required_evidence_tools" (texts (sortedSet expectedTools))
    (texts (sortedSet actual.evidenceTools)) "evidence_coverage"
    (some (evidenceAgreement expectedTools actual.evidenceTools))

theorem filter_toolsEntry (case : ShadowCase) (actual : ShadowActualOutcome) :
    (entries case actual).filter (·.fieldName = "required_evidence_tools") =
      [toolsEntry case actual] := by
  simp [entries, entry, toolsEntry]

section Pairs

variable {case : ShadowCase} {left right : ShadowActualOutcome}

/-- `compare` sees the sets only. -/
theorem compare_congr (otherwise : SameOtherwise left right)
    (tools : ∀ tool, tool ∈ left.evidenceTools ↔ tool ∈ right.evidenceTools)
    (citations : ∀ citation, citation ∈ left.citationIds ↔ citation ∈ right.citationIds) :
    compare case left = compare case right := by
  have count : left.citationIds.dedup.length = right.citationIds.dedup.length :=
    Nat.le_antisymm (dedup_length_mono fun _ => (citations _).mp)
      (dedup_length_mono fun _ => (citations _).mpr)
  have agreement : ∀ expected, evidenceAgreement expected left.evidenceTools =
      evidenceAgreement expected right.evidenceTools := fun _ => evidenceAgreement_congr tools
  rw [compare_eq, compare_eq, ← otherwise]
  simp only [entries, toolCoverage, missingCount, agreement, sortedSet_eq tools, count, tools]

/-- More evidence and more citations make no entry worse. -/
theorem entries_noWorse (otherwise : SameOtherwise left right)
    (tools : left.evidenceTools ⊆ right.evidenceTools)
    (citations : left.citationIds ⊆ right.citationIds) :
    List.Forall₂ NoWorse (entries case left) (entries case right) := by
  rw [← otherwise]
  simp only [entries, List.forall₂_cons, NoWorse.refl, true_and, List.forall₂_nil_left_iff,
    and_true]
  exact ⟨⟨rfl, evidenceAgreement_mono tools⟩,
    ⟨rfl, citationAgreement_mono (dedup_length_mono citations)⟩⟩

end Pairs

/-- `compare` reads the evidence as sets, more evidence is never worse, and its
summaries say what its entries do. -/
theorem compare_laws (case : ShadowCase) :
    (∀ left right, SameOtherwise left right →
      (∀ tool, tool ∈ left.evidenceTools ↔ tool ∈ right.evidenceTools) →
      (∀ citation, citation ∈ left.citationIds ↔ citation ∈ right.citationIds) →
        compare case left = compare case right) ∧
    (∀ left right, SameOtherwise left right → left.evidenceTools ⊆ right.evidenceTools →
      left.citationIds ⊆ right.citationIds → ∃ comparison other,
        compare case left = .ok comparison ∧ compare case right = .ok other ∧
        List.Forall₂ NoWorse comparison.entries other.entries ∧
        other.missingRequiredEvidenceCount ≤ comparison.missingRequiredEvidenceCount ∧
        comparison.citationCoverage ≤ other.citationCoverage) ∧
    ∀ actual, ∃ comparison, compare case actual = .ok comparison ∧
      comparison.entries.length = 11 ∧
      comparison.missingRequiredEvidenceCount =
        (case.minimumEvidenceCitationExpectations.requiredTools.filter fun tool =>
          tool.value ∉ actual.evidenceTools).length ∧
      (∃ entry, comparison.entries.filter (·.fieldName = "required_evidence_tools") = [entry] ∧
        (entry.agreement = .exact ↔ comparison.missingRequiredEvidenceCount = 0)) ∧
      (comparison.exactAgreement = true ↔
        ∀ entry ∈ comparison.entries, entry.agreement = .exact) ∧
      ((∀ entry ∈ comparison.entries, entry.agreement = .exact) ↔
        comparison.disagreementCategories = []) := by
  refine ⟨fun left right => compare_congr, fun left right otherwise tools citations => ?_,
    fun actual => ⟨_, compare_eq case actual, rfl, missingCount_eq _ _, ?_, ?_, ?_⟩⟩
  · exact ⟨_, _, compare_eq case left, compare_eq case right,
      entries_noWorse otherwise tools citations, missingCount_anti tools, toolCoverage_mono tools⟩
  · exact ⟨toolsEntry case actual, filter_toolsEntry case actual, evidenceAgreement_exact_iff⟩
  · rw [List.isEmpty_iff, disagreements_eq_nil]
  · exact disagreements_eq_nil.symm

end StockoutOps.Shadow
