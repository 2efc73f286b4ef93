import StockoutOps.Investigation.Schema

/-!
Contract: the API request contracts.

Owns: `IntakeRequest` and `ReviewRequest`, which satisfy their field
constraints and validators by construction.
-/

namespace StockoutOps.Investigation

open StockoutOps.Sql

/-- `IntakeRequest`; every timestamp carries a time zone. -/
structure IntakeRequest where
  skuId : String
  storeId : String
  supplierId : String
  asOfTs : Timestamp
  windowStart : Timestamp
  windowEnd : Timestamp
  skuId_bounds : lengthBetween 1 80 skuId = true
  storeId_bounds : lengthBetween 1 80 storeId = true
  supplierId_bounds : lengthBetween 1 80 supplierId = true
  timestamps : windowStart < windowEnd ∧ windowEnd ≤ asOfTs

/-- `ReviewRequest.validate_action_fields` -/
def validateActionFields (action : ReviewAction) (editedPayload : Option Json)
    (reason : Option String) : Except String Unit := do
  if action = .editApprove ∧ editedPayload.isNone then
    throw "edited_payload is required for edit_approve"
  if action ≠ .editApprove ∧ editedPayload.isSome then
    throw "edited_payload is only permitted for edit_approve"
  if (action = .reject ∨ action = .escalate) ∧ ¬ reason.any (· ≠ "") then
    throw "reason is required for reject and escalate"
  if (action = .approve ∨ action = .editApprove) ∧ reason.any (· ≠ "") then
    throw "reason is not permitted for approve actions"

structure ReviewRequest where
  action : ReviewAction
  draftHash : String
  editedPayload : Option Json
  reason : Option String
  draftHash_hex : isHex64 draftHash = true
  reason_bounds : nullOr (lengthBetween 1 1000) reason = true
  actionFields : validateActionFields action editedPayload reason = .ok ()

/-- An edited payload is present exactly for `edit_approve`. -/
theorem ReviewRequest.editedPayload_isSome (request : ReviewRequest) :
    request.editedPayload.isSome = true ↔ request.action = .editApprove := by
  have fields := request.actionFields
  unfold validateActionFields at fields
  cases payload : request.editedPayload <;> by_cases edits : request.action = .editApprove <;>
    simp_all [throw, throwThe, MonadExceptOf.throw, bind, Except.bind]

end StockoutOps.Investigation
