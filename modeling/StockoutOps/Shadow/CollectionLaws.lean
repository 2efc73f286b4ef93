import StockoutOps.Alerting.ShadowAggregations
import StockoutOps.PrintedFloats
import StockoutOps.Shadow.CollectionReport

/-!
Contract: the readiness report counts every record once, in any order.

Owns: exactly when the aggregation raises, that its counts add up to the cases and
the records, that the eligible count is that of the official conditions and of the
audit rows, and that the order of records and results does not show in the counts.

Does not own: how the records and the results are read.
-/

namespace StockoutOps.Shadow

open StockoutOps.Foundation.Grouping

/-! ## The statement -/

/-- The comparison of the result is one that `compare` made. -/
def MadeByCompare (result : ShadowResult) : Prop :=
  ∃ case actual, compare case actual = .ok result.comparison

namespace CollectionInput

/-- The four conditions of the official M2-05 genuine-100 count. -/
def countsTowardM205 (input : CollectionInput) (record : ShadowIntakeRow) : Bool :=
  record.provenanceLabel = .genuineUatAnalystLabelled &&
    record.baselineSource = .analystReference && record.intakeId ∈ input.acceptedIds &&
    record.intakeId ∉ input.excludedIds

/-- What the records and the results come with. -/
structure Admissible (input : CollectionInput) : Prop where
  intakeIds : (input.intakeRecords.map ShadowIntakeRow.intakeId).Nodup
  identities : (input.intakeRecords.map ShadowIntakeRow.caseIdentity).Nodup
  simulated : ∀ result ∈ input.simulatedResults, MadeByCompare result
  genuine : ∀ result ∈ input.genuineResults, MadeByCompare result

/-- An official record has the identity of a pack case, or a genuine result is
SIMULATED. -/
def Mixed (input : CollectionInput) : Prop :=
  (∃ record ∈ input.intakeRecords, input.countsTowardM205 record = true ∧
    ∃ case ∈ input.cases, case.caseId = record.caseId ∧ case.caseVersion = record.caseVersion) ∨
  ∃ result ∈ input.genuineResults, result.provenanceLabel = .simulated

/-- The same input with its records and its results in another order. -/
structure Reordered (input other : CollectionInput) : Prop where
  loaded : other.loaded = input.loaded
  gitSha : other.gitSha = input.gitSha
  generatedAt : other.generatedAt = input.generatedAt
  acceptedIds : other.acceptedIds = input.acceptedIds
  excluded : other.excluded = input.excluded
  intakeRecords : input.intakeRecords.Perm other.intakeRecords
  simulatedResults : input.simulatedResults.Perm other.simulatedResults
  genuineResults : input.genuineResults.Perm other.genuineResults

end CollectionInput

/-- A counter of the report, with its total. -/
def HasTotal (report : Json) (key : String) (total : Nat) : Prop :=
  ∃ counts : List (String × Nat),
    (report.member? "cumulative").bind (Json.member? key) =
      some (.obj (counts.map fun entry => (entry.1, .int entry.2))) ∧
    (counts.map Prod.snd).sum = total

/-- The counts of a report are those of its input. -/
structure CountsEveryRecord (input : CollectionInput) (report : Json) : Prop where
  provenance : HasTotal report "provenance_counts"
    (input.cases.length + input.intakeRecords.length)
  categories : HasTotal report "category_distribution"
    (input.cases.length + input.intakeRecords.length)
  eligible : (report.member? "official_m2_05").bind (Json.member? "eligible_count") =
    some (.int (input.intakeRecords.countP input.countsTowardM205))
  audit : ∃ rows, report.member? "per_case_audit" = some (.arr rows) ∧
    rows.countP markedEligible = input.intakeRecords.countP input.countsTowardM205

/-- The members in which the order of records and results does not show. -/
def orderlessMembers : List String :=
  ["genuine_intake", "cumulative", "agreement", "official_m2_05"]

/-! ## The statistics -/

section Statistics

variable {left right : List ShadowResult}

def escalationAgrees (result : ShadowResult) : Bool :=
  match escalationEntry result.comparison with
  | .ok entry => entry.agreement = .exact
  | .error _ => false

/-- Every comparison that was made has its escalation entry. -/
theorem MadeByCompare.escalationEntry {result : ShadowResult} (made : MadeByCompare result) :
    ∃ entry, escalationEntry result.comparison = .ok entry ∧
      escalationAgrees result = decide (entry.agreement = .exact) := by
  obtain ⟨case, actual, same⟩ := made
  obtain ⟨comparison, compared, listed, -⟩ := compare_eq_ok case actual
  obtain rfl := Except.ok.inj (same.symm.trans compared)
  have found : ∃ entry, Shadow.escalationEntry result.comparison = .ok entry := by
    rw [Shadow.escalationEntry, listed]
    exact ⟨_, rfl⟩
  obtain ⟨entry, found⟩ := found
  exact ⟨entry, found, by rw [escalationAgrees, found]⟩

theorem foldl_update_eq (results : List ShadowResult) :
    results.foldl (fun counter result => update counter result.comparison.disagreementCategories)
        [] =
      update [] (results.flatMap fun result => result.comparison.disagreementCategories) := by
  induction results using List.reverseRecOn with
  | nil => rfl
  | append_singleton results result inductionHypothesis =>
      rw [List.foldl_append, inductionHypothesis, List.flatMap_append, ← update_append]
      simp

/-- The statistics of results that `compare` made. -/
def madeStats (results : List ShadowResult) : Json :=
  .obj [("case_count", .int results.length), ("exact_agreements", .int (exactAgreements results)),
    ("partial_agreements", .int (partialAgreements results)),
    ("disagreements", .int (results.length - exactAgreements results)),
    ("escalation_agreements", .int (results.countP escalationAgrees)),
    ("unsupported_claim_count", .int
      ((results.map fun result => result.comparison.unsupportedCitationCount).sum : Nat)),
    ("missing_required_evidence_count", .int
      ((results.map fun result => result.comparison.missingRequiredEvidenceCount).sum : Nat)),
    ("disagreement_categories", sortedCounts (update []
      (results.flatMap fun result => result.comparison.disagreementCategories))),
    ("status", .str (if results = [] then "UNMEASURED" else "SIMULATED"))]

theorem agreementStats_eq (made : ∀ result ∈ left, MadeByCompare result) :
    agreementStats left = .ok (madeStats left) := by
  unfold agreementStats
  split
  case isTrue empty =>
    subst empty
    simp [madeStats, exactAgreements, partialAgreements, sortedCounts, sortedItems, update]
  case isFalse nonempty =>
    rw [foldlM_countAgreement fun result member => (made result member).escalationEntry]
    simp [madeStats, nonempty, foldl_update_eq, bind, Except.bind, pure, Except.pure]

theorem madeStats_perm (permuted : left.Perm right) : madeStats left = madeStats right := by
  have exact : exactAgreements left = exactAgreements right := permuted.countP_eq _
  have partly : partialAgreements left = partialAgreements right := permuted.countP_eq _
  have categories := sortedItems_update_eq (permuted.flatMap_right
    fun result => result.comparison.disagreementCategories)
  have empty : left = [] ↔ right = [] := by
    rw [← List.length_eq_zero_iff, permuted.length_eq, List.length_eq_zero_iff]
  simp only [madeStats, sortedCounts, permuted.length_eq, exact, partly, categories, empty,
    permuted.countP_eq, (permuted.map _).sum_eq]

end Statistics

/-! ## The official records -/

namespace CollectionInput

section Official

variable {input : CollectionInput}

/-- The records that `official_m2_05_records` returns. -/
def official (input : CollectionInput) : List ShadowIntakeRow :=
  input.intakeRecords.filter (officiallyEligible input.acceptedIds input.excludedIds)

theorem officiallyEligible_eq (input : CollectionInput) :
    officiallyEligible input.acceptedIds input.excludedIds = input.countsTowardM205 := by
  funext record
  rw [Bool.eq_iff_iff, officiallyEligible_iff]
  simp [countsTowardM205, and_assoc]

theorem length_official (input : CollectionInput) :
    input.official.length = input.intakeRecords.countP input.countsTowardM205 := by
  rw [official, officiallyEligible_eq, List.countP_eq_length_filter]

/-- Where ids are distinct, an id is official when its record is. -/
theorem mem_officialIds (distinct : (input.intakeRecords.map ShadowIntakeRow.intakeId).Nodup)
    {record : ShadowIntakeRow} (member : record ∈ input.intakeRecords) :
    record.intakeId ∈ input.official.map ShadowIntakeRow.intakeId ↔
      input.countsTowardM205 record = true := by
  rw [List.mem_map]
  constructor
  · rintro ⟨other, eligible, same⟩
    rw [official, officiallyEligible_eq, List.mem_filter] at eligible
    obtain rfl := List.inj_on_of_nodup_map distinct eligible.1 member same
    exact eligible.2
  · intro counts
    refine ⟨record, ?_, rfl⟩
    rw [official, officiallyEligible_eq]
    exact List.mem_filter.mpr ⟨member, counts⟩

theorem markedEligible_packAuditRow (case : ShadowCase) :
    markedEligible (packAuditRow case) = false := by
  simp [markedEligible, packAuditRow, Json.member?]

theorem markedEligible_intakeAuditRow (uuidText : IntakeId → String) (ids : List IntakeId)
    (record : ShadowIntakeRow) :
    markedEligible (intakeAuditRow uuidText ids record) = decide (record.intakeId ∈ ids) := by
  rw [Bool.eq_iff_iff, markedEligible, beq_iff_eq]
  simp [intakeAuditRow, Json.member?]

/-- The rows marked eligible are those of the official records. -/
theorem countP_perCaseAudit (uuidText : IntakeId → String)
    (distinct : (input.intakeRecords.map ShadowIntakeRow.intakeId).Nodup) :
    (input.perCaseAudit uuidText input.official).countP markedEligible =
      input.intakeRecords.countP input.countsTowardM205 := by
  have pack : (input.cases.map packAuditRow).countP markedEligible = 0 := by
    rw [List.countP_map, List.countP_eq_zero]
    intro case _
    simp [markedEligible_packAuditRow]
  rw [perCaseAudit, List.countP_append, pack, Nat.zero_add, List.countP_map]
  refine List.countP_congr fun record member => ?_
  simp only [Function.comp_apply, markedEligible_intakeAuditRow, decide_eq_true_eq]
  exact mem_officialIds distinct member

end Official

/-! ## The checks -/

section Checks

variable {input : CollectionInput}

theorem packCases_accepted (input : CollectionInput) :
    input.cases.forM (fun case => raiseWhen (case.provenanceLabel ≠ .simulated)
      "Controlled-synthetic pack contained a non-SIMULATED case") = .ok () := by
  refine forM_passes fun case member => ?_
  rw [raiseWhen, if_neg (by simp [input.loaded.pack.simulated case member])]

/-- The pack is never empty, so the overlap is always looked for. -/
theorem overlap_eq (input : CollectionInput) :
    ((input.cases.any fun case => case.provenanceLabel = .simulated) && input.official ≠ [] &&
      input.official.any fun record =>
        (input.cases.map ShadowCase.identity).contains (record.caseId, record.caseVersion)) =
    input.official.any fun record =>
      (input.cases.map ShadowCase.identity).contains (record.caseId, record.caseVersion) := by
  cases shared : input.official.any fun record =>
      (input.cases.map ShadowCase.identity).contains (record.caseId, record.caseVersion) with
  | false => exact Bool.and_false _
  | true =>
      obtain ⟨record, member, -⟩ := List.any_eq_true.mp shared
      have official : input.official ≠ [] := List.ne_nil_of_mem member
      have filled : 0 < input.cases.length :=
        Nat.lt_of_lt_of_le (by decide) input.loaded.pack.cases_length
      obtain ⟨case, rest, pack⟩ := List.exists_cons_of_length_pos filled
      have listed : case ∈ input.cases := pack ▸ List.mem_cons_self
      have simulated : case.provenanceLabel = .simulated := input.loaded.pack.simulated case listed
      simp [official, pack, simulated]

theorem overlap_iff (input : CollectionInput) :
    (input.official.any fun record =>
      (input.cases.map ShadowCase.identity).contains (record.caseId, record.caseVersion)) = true ↔
    ∃ record ∈ input.intakeRecords, input.countsTowardM205 record = true ∧
      ∃ case ∈ input.cases, case.caseId = record.caseId ∧
        case.caseVersion = record.caseVersion := by
  rw [List.any_eq_true, official, officiallyEligible_eq]
  simp only [List.mem_filter, List.contains_iff_mem, List.mem_map, ShadowCase.identity,
    Prod.mk.injEq, and_assoc]

end Checks

/-! ## The report -/

/-- The report of an input whose comparisons were made. -/
def report (input : CollectionInput) (provenance : Provenance) (uuidText : IntakeId → String) :
    Json :=
  let members := input.reportMembers provenance uuidText input.official
    (madeStats input.simulatedResults) (madeStats input.genuineResults) 0
  .obj (members ++ [("report_sha256", .str (provenance.canonicalHash (.obj members)))])

section Report

variable {input : CollectionInput} (provenance : Provenance) (uuidText : IntakeId → String)

theorem aggregateCollection_eq (admissible : input.Admissible) :
    aggregateCollection provenance uuidText input = (do
      raiseWhen (input.official.any fun record =>
        (input.cases.map ShadowCase.identity).contains (record.caseId, record.caseVersion))
        syntheticOverlap
      raiseWhen (input.genuineResults.any fun result => result.provenanceLabel = .simulated)
        simulatedGenuineResult
      pure (input.report provenance uuidText)) := by
  have audit : ((input.perCaseAudit uuidText input.official).filter markedEligible).length =
      input.official.length := by
    rw [← List.countP_eq_length_filter, countP_perCaseAudit uuidText admissible.intakeIds,
      length_official]
  have selected : officialM205Records input.intakeRecords input.acceptedIds input.excludedIds =
      .ok input.official := officialM205Records_eq _ _ _
  have contribution : officialM205ContributionFromSyntheticPack input.cases.length = .ok 0 :=
    if_neg (by omega)
  have none_ : raiseWhen (decide ((0 : Int) ≠ 0))
      "Synthetic cases cannot count toward the official M2-05 total" = .ok () := rfl
  have agrees : raiseWhen (input.official.length ≠
      ((input.perCaseAudit uuidText input.official).filter markedEligible).length)
      "Official M2-05 audit rows diverged from the eligible count" = .ok () := by
    simp [raiseWhen, audit]
  unfold aggregateCollection
  rw [packCases_accepted, selected, agreementStats_eq admissible.simulated,
    agreementStats_eq admissible.genuine]
  simp only [raising, counting, bind, Except.bind, overlap_eq, contribution, none_, agrees]
  rfl

theorem aggregateCollection_ok_iff (admissible : input.Admissible) {report : Json} :
    aggregateCollection provenance uuidText input = .ok report ↔
      ¬ input.Mixed ∧ report = input.report provenance uuidText := by
  rw [aggregateCollection_eq provenance uuidText admissible, Mixed, ← overlap_iff]
  cases overlap : input.official.any fun record =>
      (input.cases.map ShadowCase.identity).contains (record.caseId, record.caseVersion) with
  | true => exact iff_of_false nofun fun accepted => accepted.1 (.inl rfl)
  | false =>
      cases labelled : input.genuineResults.any fun result =>
          result.provenanceLabel = .simulated with
      | true =>
          obtain ⟨result, member, simulated⟩ := List.any_eq_true.mp labelled
          exact iff_of_false nofun fun accepted =>
            accepted.1 (.inr ⟨result, member, of_decide_eq_true simulated⟩)
      | false =>
          have genuine : ¬ ∃ result ∈ input.genuineResults,
              result.provenanceLabel = .simulated := by
            rintro ⟨result, member, simulated⟩
            have other := List.any_eq_false.mp labelled result member
            simp [simulated] at other
          constructor
          · intro accepted
            exact ⟨by simpa using genuine, (Except.ok.inj accepted).symm⟩
          · rintro ⟨-, rfl⟩
            rfl

end Report

/-! ## Counts -/

section Counts

variable {input : CollectionInput} (provenance : Provenance) (uuidText : IntakeId → String)

/-- The items that `provenance_counts` counts. -/
theorem provenanceCounts_eq (input : CollectionInput) (records : List ShadowIntakeRow) :
    provenanceCounts input.cases records =
      update [] ((records.map fun record => record.provenanceLabel.value) ++
        List.replicate input.cases.length ProvenanceLabel.simulated.value) := by
  have filled : 0 < input.cases.length :=
    Nat.lt_of_lt_of_le (by decide) input.loaded.pack.cases_length
  obtain ⟨count, same⟩ := Nat.exists_eq_add_of_lt filled
  rw [Nat.zero_add] at same
  rw [provenanceCounts, same, upsert_add_eq_update, update_append]

theorem categoryDistribution_eq (cases : List ShadowCase) (records : List ShadowIntakeRow) :
    categoryDistribution cases records =
      update [] (cases.map ShadowCase.category ++ records.map ShadowIntakeRow.category) := by
  rw [categoryDistribution, update_append]

theorem hasTotal_of_update {report : Json} {key : String} {items : List String}
    (member : (report.member? "cumulative").bind (Json.member? key) =
      some (sortedCounts (update [] items))) : HasTotal report key items.length := by
  refine ⟨sortedItems (update [] items), member, ?_⟩
  rw [((sortedItems_perm _).map Prod.snd).sum_eq, total_update]

/-- A member of the report, with those that go before it left out. -/
theorem report_cumulative : (input.report provenance uuidText).member? "cumulative" =
    some (cumulative input.cases input.intakeRecords input.official.length input.excluded) := by
  simp [report, reportMembers, Json.member?]

theorem countsEveryRecord (admissible : input.Admissible) :
    CountsEveryRecord input (input.report provenance uuidText) where
  provenance := by
    have counted : ((input.report provenance uuidText).member? "cumulative").bind
        (Json.member? "provenance_counts") = some (sortedCounts (update []
          ((input.intakeRecords.map fun record => record.provenanceLabel.value) ++
            List.replicate input.cases.length ProvenanceLabel.simulated.value))) := by
      rw [report_cumulative, ← provenanceCounts_eq]
      simp [cumulative, Json.member?]
    simpa [Nat.add_comm] using hasTotal_of_update counted
  categories := by
    have counted : ((input.report provenance uuidText).member? "cumulative").bind
        (Json.member? "category_distribution") = some (sortedCounts (update []
          (input.cases.map ShadowCase.category ++
            input.intakeRecords.map ShadowIntakeRow.category))) := by
      rw [report_cumulative, ← categoryDistribution_eq]
      simp [cumulative, Json.member?]
    simpa using hasTotal_of_update counted
  eligible := by
    have member : (input.report provenance uuidText).member? "official_m2_05" =
        some (officialM205 input.official.length input.cases.length 0) := by
      simp [report, reportMembers, Json.member?]
    rw [member, ← length_official]
    simp [officialM205, Json.member?]
  audit := by
    refine ⟨input.perCaseAudit uuidText input.official, ?_,
      countP_perCaseAudit uuidText admissible.intakeIds⟩
    simp [report, reportMembers, Json.member?]

end Counts

/-! ## Order -/

section Order

variable {input other : CollectionInput} (provenance : Provenance) (uuidText : IntakeId → String)

theorem Reordered.cases (reordered : input.Reordered other) : other.cases = input.cases :=
  congrArg (fun loaded => loaded.pack.cases) reordered.loaded

theorem Reordered.countsTowardM205 (reordered : input.Reordered other) :
    other.countsTowardM205 = input.countsTowardM205 := by
  unfold CollectionInput.countsTowardM205 excludedIds
  rw [reordered.acceptedIds, reordered.excluded]

theorem Reordered.length_official (reordered : input.Reordered other) :
    other.official.length = input.official.length := by
  rw [CollectionInput.length_official, CollectionInput.length_official,
    reordered.countsTowardM205]
  exact (reordered.intakeRecords.countP_eq _).symm

theorem Reordered.admissible (reordered : input.Reordered other) (admissible : input.Admissible) :
    other.Admissible where
  intakeIds := (reordered.intakeRecords.map _).nodup_iff.mp admissible.intakeIds
  identities := (reordered.intakeRecords.map _).nodup_iff.mp admissible.identities
  simulated := fun result member =>
    admissible.simulated result (reordered.simulatedResults.mem_iff.mpr member)
  genuine := fun result member =>
    admissible.genuine result (reordered.genuineResults.mem_iff.mpr member)

theorem Reordered.mixed (reordered : input.Reordered other) : other.Mixed ↔ input.Mixed := by
  simp only [Mixed, reordered.cases, reordered.countsTowardM205,
    reordered.intakeRecords.mem_iff, reordered.genuineResults.mem_iff]

/-- Sorted by distinct keys, the manifest has one order of the records. -/
theorem genuineIntakeManifest_perm {left right : List ShadowIntakeRow}
    (permuted : left.Perm right) (identities : (left.map ShadowIntakeRow.caseIdentity).Nodup) :
    genuineIntakeManifest provenance left = genuineIntakeManifest provenance right := by
  have keys : (left.map manifestKey).Nodup := by
    rw [List.nodup_map_iff_inj_on (List.Nodup.of_map _ identities)]
    intro first firstMember second secondMember same
    refine List.inj_on_of_nodup_map identities firstMember secondMember ?_
    have parts := Prod.ext_iff.mp (toLex.injective same)
    have inner := Prod.ext_iff.mp (toLex.injective parts.2)
    exact Prod.ext parts.1 (Prod.ext inner.1 inner.2)
  rw [genuineIntakeManifest, mergeSort_eq_of_perm manifestKey permuted keys]
  rfl

theorem cumulative_perm (input : CollectionInput) {left right : List ShadowIntakeRow}
    (permuted : left.Perm right) (officialCount : Nat) (excluded : List (IntakeId × String)) :
    cumulative input.cases left officialCount excluded =
      cumulative input.cases right officialCount excluded := by
  have coverage : analystReferenceCoverage left = analystReferenceCoverage right :=
    permuted.countP_eq _
  have labels := sortedItems_update_eq ((permuted.map fun record : ShadowIntakeRow =>
    record.provenanceLabel.value).append_right
      (List.replicate input.cases.length ProvenanceLabel.simulated.value))
  have categories := sortedItems_update_eq ((permuted.map ShadowIntakeRow.category).append_left
    (input.cases.map ShadowCase.category))
  simp only [cumulative, permuted.length_eq, coverage, sortedCounts, provenanceCounts_eq,
    categoryDistribution_eq, labels, categories]

theorem Reordered.orderless (reordered : input.Reordered other) (admissible : input.Admissible)
    {key : String} (member : key ∈ orderlessMembers) :
    ∃ value, (input.report provenance uuidText).member? key = some value ∧
      (other.report provenance uuidText).member? key = some value := by
  have manifest := genuineIntakeManifest_perm provenance reordered.intakeRecords
    admissible.identities
  have counts := cumulative_perm input reordered.intakeRecords input.official.length input.excluded
  have simulated := madeStats_perm reordered.simulatedResults
  have genuine := madeStats_perm reordered.genuineResults
  have empty : input.genuineResults = [] ↔ other.genuineResults = [] := by
    rw [← List.length_eq_zero_iff, reordered.genuineResults.length_eq, List.length_eq_zero_iff]
  simp only [orderlessMembers, List.mem_cons, List.not_mem_nil, or_false] at member
  rcases member with rfl | rfl | rfl | rfl
  all_goals
    refine ⟨_, rfl, ?_⟩
    simp [report, reportMembers, Json.member?, manifest, counts, simulated, genuine, empty,
      agreementSection, reordered.cases, reordered.length_official, reordered.excluded]

end Order

end CollectionInput

/-- The aggregation raises on mixed evidence alone; its report counts every record
once, and the order of the records and the results does not show. -/
theorem collection_counts_once (provenance : Provenance) (uuidText : IntakeId → String)
    (input : CollectionInput) (admissible : input.Admissible) :
    ((∃ failure, aggregateCollection provenance uuidText input = .error failure) ↔ input.Mixed) ∧
    ∀ report, aggregateCollection provenance uuidText input = .ok report →
      CountsEveryRecord input report ∧
      ∀ other, input.Reordered other →
        ∃ reordered, aggregateCollection provenance uuidText other = .ok reordered ∧
          ∀ key ∈ orderlessMembers, ∃ value, report.member? key = some value ∧
            reordered.member? key = some value := by
  have returned {input : CollectionInput} (admissible : input.Admissible) {report : Json} :
      aggregateCollection provenance uuidText input = .ok report ↔
        ¬ input.Mixed ∧ report = input.report provenance uuidText :=
    CollectionInput.aggregateCollection_ok_iff provenance uuidText admissible
  refine ⟨?_, fun report accepted => ?_⟩
  · cases result : aggregateCollection provenance uuidText input with
    | ok report =>
        have clean := ((returned admissible).mp result).1
        exact iff_of_false (fun ⟨_, raised⟩ => nomatch raised) clean
    | error failure =>
        refine iff_of_true ⟨failure, rfl⟩ (Classical.byContradiction fun clean => ?_)
        rw [(returned admissible).mpr ⟨clean, rfl⟩] at result
        cases result
  · obtain ⟨clean, rfl⟩ := (returned admissible).mp accepted
    refine ⟨CollectionInput.countsEveryRecord provenance uuidText admissible, ?_⟩
    intro other reordered
    refine ⟨other.report provenance uuidText, ?_, fun key member =>
      reordered.orderless provenance uuidText admissible member⟩
    exact (returned (reordered.admissible admissible)).mpr
      ⟨fun mixed => clean (reordered.mixed.mp mixed), rfl⟩

/-! ### Two imported cases, one of them withdrawn -/

def importedCase (intakeId : IntakeId) (caseId : String) : ShadowIntakeRow where
  intakeId := intakeId
  tenantId := "t_alpha"
  caseId := caseId
  caseVersion := "v1"
  caseContractVersion := caseContractVersion
  payloadHash := "e3b0c44298fc1c149afbf4c8996fb92427ae41e4649b934ca495991b7852b855"
  provenanceLabel := .genuineUatAnalystLabelled
  baselineSource := .analystReference
  deidentificationStatus := .deidentifiedOwnerAttested
  consentDataUseStatus := .ownerAttestedConsentHeldOffline
  consentDataUseReference := some "OFFLINE-CONSENT-00000001"
  category := "supplier_delay"
  execute := false
  externalActionCount := 0
  caseJson := .obj []
  createdBy := "operator-1"
  createdAt := 0

def importedInput : CollectionInput where
  loaded := Alerting.rehearsalPack
  gitSha := "0000000"
  generatedAt := "2026-08-13T00:00:00+00:00"
  intakeRecords := [importedCase 1 "uat-001", importedCase 2 "uat-002"]
  acceptedIds := [1, 2]
  excluded := [(2, "participant_withdrawal")]
  simulatedResults := [Alerting.agreed, Alerting.escalatedInstead]
  genuineResults := []

def importedUuid : IntakeId → String
  | 1 => "00000000-0000-4000-8000-000000000001"
  | _ => "00000000-0000-4000-8000-000000000002"

/-- The digests of the canonical manifest and of the canonical report. -/
def importedDigest (text : String) : String :=
  if text.toList.take 7 = "\x7b\"case_".toList then
    "7a79b6026c1bc25efdb46b6db763dddc28c487617194e3cfc902efc072fcace7"
  else "007050630336ff5d10d10c83c197c3073b687f00681f42fdb6173222a7471371"

theorem importedDigest_hex (text : String) : Sql.isHex64 (importedDigest text) = true := by
  unfold importedDigest
  split <;> decide +kernel

def collectionProvenance : Provenance :=
  canonicalProvenance printedFloats importedDigest importedDigest_hex

theorem importedInput_admissible : importedInput.Admissible := by
  refine ⟨?_, ?_, ?_, ?_⟩
  · show [1, 2].Nodup
    decide
  · show [("t_alpha", "uat-001", "v1"), ("t_alpha", "uat-002", "v1")].Nodup
    decide
  · intro result member
    change result ∈ [Alerting.agreed, Alerting.escalatedInstead] at member
    rcases List.mem_cons.mp member with rfl | other
    · exact ⟨Alerting.supplierDelay, Alerting.rehearsalOutcome false none,
        Alerting.compare_eq_comparisonOf _ _⟩
    · rw [List.mem_singleton.mp other]
      exact ⟨Alerting.demandSpike, Alerting.rehearsalOutcome true (some "EVIDENCE_MISSING"),
        Alerting.compare_eq_comparisonOf _ _⟩
  · intro result member
    change result ∈ [] at member
    cases member

theorem imported_counts_once : ∃ report,
    aggregateCollection collectionProvenance importedUuid importedInput = .ok report ∧
      CountsEveryRecord importedInput report ∧
      importedInput.intakeRecords.countP importedInput.countsTowardM205 = 1 := by
  have laws := collection_counts_once collectionProvenance importedUuid importedInput
    importedInput_admissible
  have separate : ¬ importedInput.Mixed := by
    rintro (shared | ⟨result, member, -⟩)
    · have overlap := (CollectionInput.overlap_iff importedInput).mpr shared
      have none_ : (importedInput.official.any fun record =>
          (importedInput.cases.map ShadowCase.identity).contains
            (record.caseId, record.caseVersion)) = false := by
        decide +kernel
      rw [none_] at overlap
      cases overlap
    · cases member
  cases result : aggregateCollection collectionProvenance importedUuid importedInput with
  | error failure => exact absurd (laws.1.mp ⟨failure, result⟩) separate
  | ok report => exact ⟨report, rfl, (laws.2 report result).1, by decide⟩

end StockoutOps.Shadow
