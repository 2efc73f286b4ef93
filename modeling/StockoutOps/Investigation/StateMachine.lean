/-!
Contract: the transition table of an investigation run.

Owns: the run states with their stored texts, `TRANSITIONS`, and
`can_transition`.

Does not own: who performs a transition, or when.
-/

namespace StockoutOps.Investigation

inductive RunState where
  | created
  | validating
  | gatheringEvidence
  | qualityChecks
  | reasoning
  | draftingRecommendation
  | awaitingHuman
  | approved
  | editedAndApproved
  | rejected
  | escalated
  | closed
  | failedAuthz
deriving DecidableEq, Repr

namespace RunState

/-- The text stored in the `state` columns. -/
def value : RunState → String
  | .created => "created"
  | .validating => "validating"
  | .gatheringEvidence => "gathering_evidence"
  | .qualityChecks => "quality_checks"
  | .reasoning => "reasoning"
  | .draftingRecommendation => "drafting_recommendation"
  | .awaitingHuman => "awaiting_human"
  | .approved => "approved"
  | .editedAndApproved => "edited_and_approved"
  | .rejected => "rejected"
  | .escalated => "escalated"
  | .closed => "closed"
  | .failedAuthz => "failed_authz"

end RunState

/-- `TRANSITIONS[current]` -/
def transitions : RunState → List RunState
  | .created => [.validating, .failedAuthz]
  | .validating => [.gatheringEvidence, .escalated, .failedAuthz]
  | .gatheringEvidence => [.qualityChecks, .escalated]
  | .qualityChecks => [.reasoning, .escalated]
  | .reasoning => [.draftingRecommendation, .escalated]
  | .draftingRecommendation => [.awaitingHuman, .escalated]
  | .awaitingHuman => [.approved, .editedAndApproved, .rejected, .escalated]
  | .approved => [.closed]
  | .editedAndApproved => [.closed]
  | .rejected => [.closed]
  | .escalated => [.closed]
  | .closed => []
  | .failedAuthz => []

def canTransition (current target : RunState) : Bool :=
  target ∈ transitions current

/-- No edge of the table is a loop: a transition is visible in the audit log. -/
theorem ne_of_canTransition {current target : RunState}
    (allowed : canTransition current target = true) : current ≠ target := by
  rintro rfl
  cases current <;> simp [canTransition, transitions] at allowed

end StockoutOps.Investigation
