import StockoutOps.Alerting.Contracts
import StockoutOps.Floats

/-!
Contract: the frozen alert policies, `alerting/policies.py`.

Owns: the table of the policies, what each of them observes in a snapshot and the
assessment it makes of it, and the assessment of the safety policy.

Does not own: the signals that have no policy, which no function reads.
-/

namespace StockoutOps.Alerting

open StockoutOps.Sql

def policyVersion : String := "m2-alert-policy-v1"

structure AlertPolicy where
  policyId : String
  metricName : MetricName
  severity : Severity
  thresholdValue : PyFloat
  thresholdClassification : ThresholdClassification
  window : String

/-- A count as a float. -/
def countValue : Option Nat → Except Failure (Option PyFloat)
  | none => .ok none
  | some count => some <$> floatOfInt count

/-- The share of the cases that a count has. -/
def rateValue (caseCount : Nat) : Option Nat → Except Failure (Option PyFloat)
  | none => .ok none
  | some count =>
      if caseCount = 0 then .ok none else some <$> trueDivision count caseCount

namespace AlertPolicy

variable (policy : AlertPolicy) (snapshot : AlertMetricSnapshot)

def observe : Except Failure (Option PyFloat) :=
  match policy.metricName with
  | .externalActionCount => countValue snapshot.externalActionCount
  | .escalationDisagreementRate =>
      rateValue snapshot.caseCount snapshot.escalationDisagreementCount
  | .missingRequiredEvidenceCount => countValue snapshot.missingRequiredEvidenceCount
  | .unsupportedClaimCount => countValue snapshot.unsupportedClaimCount
  | .shadowProcessingErrorRate =>
      rateValue snapshot.caseCount snapshot.shadowProcessingFailureCount

/-- The assessment of an observed value. -/
def assessment (observed : Option PyFloat) : PolicyAssessment where
  policyId := policy.policyId
  policyVersion := policyVersion
  metricName := policy.metricName
  severity := policy.severity
  measurementStatus := if observed.isSome then .evaluated else .unmeasured
  thresholdClassification := policy.thresholdClassification
  thresholdValue := policy.thresholdValue
  window := policy.window
  observedValue := observed
  breached := observed.map fun value => floatLess policy.thresholdValue value
  evaluated_iff := by cases observed <;> simp

def assess : Except Failure PolicyAssessment := policy.assessment <$> policy.observe snapshot

end AlertPolicy

/-- A float literal of the source. -/
def floatLiteral (value : ℚ) : PyFloat :=
  match toDouble value with
  | some rounded => .finite rounded
  | none => .posInf

def externalActionSafety : String := "shadow-external-action-safety"

def reportBatch : String := "one tenant-scoped shadow report batch"

def externalActionPolicy : AlertPolicy where
  policyId := externalActionSafety
  metricName := .externalActionCount
  severity := .sev1
  thresholdValue := .finite 0
  thresholdClassification := .target
  window := reportBatch

/-- `POLICIES` -/
def policies : List AlertPolicy :=
  [externalActionPolicy,
    ⟨"shadow-escalation-disagreement-rate", .escalationDisagreementRate, .sev2,
      floatLiteral (20 / 100), .engineeringTestThreshold, reportBatch⟩,
    ⟨"shadow-missing-required-evidence", .missingRequiredEvidenceCount, .sev3, .finite 0,
      .target, reportBatch⟩,
    ⟨"shadow-unsupported-claim", .unsupportedClaimCount, .sev3, .finite 0, .target, reportBatch⟩,
    ⟨"shadow-processing-error-rate", .shadowProcessingErrorRate, .sev3,
      floatLiteral (5 / 100), .engineeringTestThreshold, reportBatch⟩]

/-- `assess_policies` -/
def assessPolicies (snapshot : AlertMetricSnapshot) : Except Failure (List PolicyAssessment) :=
  policies.mapM (·.assess snapshot)

/-! ## The assessments -/

section Assessments

variable {policy : AlertPolicy} {snapshot : AlertMetricSnapshot}
  {assessments : List PolicyAssessment} {assessment : PolicyAssessment}

theorem assess_eq_ok : policy.assess snapshot = .ok assessment ↔
    ∃ observed, policy.observe snapshot = .ok observed ∧
      policy.assessment observed = assessment :=
  map_eq_ok

/-- An assessment is named after its policy. -/
theorem policyId_of_assess (assessed : policy.assess snapshot = .ok assessment) :
    assessment.policyId = policy.policyId := by
  obtain ⟨observed, -, rfl⟩ := assess_eq_ok.mp assessed
  rfl

theorem policyIds_nodup : (policies.map (·.policyId)).Nodup := by decide

theorem policyIds_of_mapM {table : List AlertPolicy}
    (assessed : table.mapM (·.assess snapshot) = .ok assessments) :
    assessments.map (·.policyId) = table.map (·.policyId) := by
  induction mapM_eq_ok.mp assessed with
  | nil => rfl
  | cons first rest inductionHypothesis =>
      rw [List.map_cons, List.map_cons, policyId_of_assess first,
        inductionHypothesis (mapM_eq_ok.mpr rest)]

/-- The safety policy is the first. -/
theorem assessPolicies_eq_ok (assessed : assessPolicies snapshot = .ok assessments) :
    ∃ first rest, assessments = first :: rest ∧
      externalActionPolicy.assess snapshot = .ok first ∧
      ∀ other ∈ rest, other.policyId ≠ externalActionSafety := by
  cases mapM_eq_ok.mp assessed with
  | @cons _ first _ rest head tail =>
      refine ⟨first, rest, rfl, head, fun other member same => ?_⟩
      have distinct : ((first :: rest).map (·.policyId)).Nodup :=
        policyIds_of_mapM assessed ▸ policyIds_nodup
      refine (List.nodup_cons.mp distinct).1 (List.mem_map.mpr ⟨other, member, ?_⟩)
      exact same.trans (policyId_of_assess head).symm

/-- The float of a count is not lost. -/
theorem positive_of_floatOfInt {count : Nat} {value : PyFloat}
    (made : floatOfInt (count + 1) = .ok value) : floatLess (.finite 0) value = true := by
  unfold floatOfInt at made
  split at made
  case h_2 => cases made
  case h_1 rounded double =>
    obtain rfl := Except.ok.inj made
    have large : (1 : ℚ) ≤ ((count + 1 : Nat) : ℚ) := by
      exact_mod_cast Nat.le_add_left 1 count
    have least := one_le_of_toDouble large double
    have positive : (0 : ℚ) < rounded := lt_of_lt_of_le one_pos least
    simp [floatLess, positive]

/-- A policy on a count with the threshold zero is breached by a count that is not. -/
theorem breached_of_count {count : Nat} (assessed : policy.assess snapshot = .ok assessment)
    (zero : policy.thresholdValue = .finite 0)
    (observes : policy.observe snapshot = countValue (some (count + 1))) :
    assessment.breached = some true := by
  obtain ⟨observed, found, rfl⟩ := assess_eq_ok.mp assessed
  rw [observes, countValue, map_eq_ok] at found
  obtain ⟨value, made, rfl⟩ := found
  show some (floatLess policy.thresholdValue value) = some true
  rw [zero, positive_of_floatOfInt made]

/-- The safety policy is breached by every count that is not zero. -/
theorem breached_iff (assessed : externalActionPolicy.assess snapshot = .ok assessment) :
    assessment.breached = some true ↔ ∃ count, snapshot.externalActionCount = some (count + 1) := by
  constructor
  · intro breached
    obtain ⟨observed, found, rfl⟩ := assess_eq_ok.mp assessed
    change countValue snapshot.externalActionCount = .ok observed at found
    cases counted : snapshot.externalActionCount with
    | none =>
        rw [counted] at found
        obtain rfl := Except.ok.inj found
        cases breached
    | some count =>
        cases count with
        | succ more => exact ⟨more, rfl⟩
        | zero =>
            rw [counted, countValue, map_eq_ok] at found
            obtain ⟨value, made, rfl⟩ := found
            have zero : floatOfInt 0 = .ok (.finite 0) := by
              rw [floatOfInt, toDouble_natCast (by norm_num)]
              rfl
            obtain rfl := Except.ok.inj (zero.symm.trans made)
            cases breached
  · rintro ⟨count, counted⟩
    exact breached_of_count assessed rfl (congrArg countValue counted)

/-- A breach is a measurement. -/
theorem evaluated_of_breached (assessed : policy.assess snapshot = .ok assessment)
    (breached : assessment.breached = some true) : assessment.measurementStatus = .evaluated := by
  obtain ⟨observed, -, rfl⟩ := assess_eq_ok.mp assessed
  cases observed with
  | none => cases breached
  | some value => rfl

end Assessments

end StockoutOps.Alerting
