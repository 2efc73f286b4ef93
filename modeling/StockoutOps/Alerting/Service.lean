import Mathlib.Data.Nat.Pairing
import StockoutOps.Alerting.Policies
import StockoutOps.Alerting.RecordRuns
import StockoutOps.Foundation.Sessions

/-!
Contract: the evaluation of a snapshot, `alerting/service.py`.

Owns: `AlertService.evaluate` over the statements of the repository, and the
system of its concurrent calls.

Does not own: what the calls store and return.

`record` opens a connection each time, so a call has a session for each policy.
What the clock will read is part of a call; what holds of every call holds of every clock.
-/

namespace StockoutOps.Alerting

open StockoutOps.Foundation.Interleaving

/-- `AlertSink.deliver`, which returns nothing or raises. -/
abbrev AlertSink := Principal → AlertEvaluation → Except Failure Unit

/-- `DisabledAlertSink`, the result of `build_alert_sink`. -/
def disabledAlertSink : AlertSink := fun _ _ => .ok ()

structure AlertService where
  repository : AlertRepository
  sink : AlertSink := disabledAlertSink

/-- One call of `evaluate`: the service, the arguments, and what the clock will read
for the policy with an index. -/
structure EvaluateCall where
  service : AlertService
  clock : Nat → Timestamp
  principal : Principal
  snapshot : AlertMetricSnapshot
  idempotencyPrefix : String

def shadowExternalActionDetected : Failure :=
  .conflict "SHADOW_EXTERNAL_ACTION_DETECTED"
    "Shadow external_action_count exceeded zero; evaluation failed closed"

/-- The session in which the caller records the policy with an index. -/
def policySession (index : Nat) (u : Caller) : Caller := Nat.pair u index

/-- The caller whose session it is. -/
def sessionCaller (session : Caller) : Caller := session.unpair.1

namespace EvaluateCall

variable (platform : EvaluationPlatform) (call : EvaluateCall)

/-- The call of `record` for the policy with an index. -/
def submission (index : Nat) (assessment : PolicyAssessment) : Submission where
  repository := call.service.repository
  request :=
    { principal := call.principal
      snapshot := call.snapshot
      assessment := assessment
      idempotencyKey := call.idempotencyPrefix ++ ":" ++ assessment.policyId
      evaluatedAt := call.clock index }

/-- The loop over the assessments, from the one with an index. -/
def evaluateFrom : Nat → List PolicyAssessment → RecordProgram (List AlertEvaluation)
  | _, [] => pure []
  | index, assessment :: rest => do
      let evaluation ←
        ((call.submission index assessment).program platform).inSession (policySession index)
      match call.service.sink call.principal evaluation with
      | .error failure => Call.raise failure
      | .ok () =>
          if assessment.policyId = externalActionSafety ∧ evaluation.state = some .firing then
            Call.raise shadowExternalActionDetected
          else do
            let results ← evaluateFrom (index + 1) rest
            pure (evaluation :: results)

/-- `AlertService.evaluate` -/
def evaluate : RecordProgram (List AlertEvaluation) :=
  if call.principal.hasRole "operator" = false then
    Call.raise (.stockoutOps (.authorizationError "Alert evaluation requires the operator role"))
  else if call.snapshot.correlation.tenantId ≠ call.principal.tenantId then
    Call.raise (.stockoutOps .notFoundError)
  else
    match assessPolicies call.snapshot with
    | .error failure => Call.raise failure
    | .ok assessments => call.evaluateFrom platform 0 assessments

/-- The assessment with an index; beyond the last there is no session to use it. -/
def assessment (index : Nat) : PolicyAssessment :=
  match assessPolicies call.snapshot with
  | .error _ => externalActionPolicy.assessment none
  | .ok assessments => assessments.getD index (externalActionPolicy.assessment none)

end EvaluateCall

/-- The calls of `record` that the calls of `evaluate` make, by session. -/
def recordCalls (calls : Caller → EvaluateCall) (session : Caller) : Submission :=
  let call := calls (sessionCaller session)
  call.submission session.unpair.2 (call.assessment session.unpair.2)

/-- The exceptions of the outside are not those of the application. -/
def RecordInput.Outside (input : RecordInput) : Prop :=
  ∀ error, input.fault ≠ some (.stockoutOps error)

/-- The end of every session of a caller. -/
def RecordWorld.leave (world : RecordWorld) (u : Caller) : RecordWorld :=
  (List.range policies.length).foldl
    (fun world index => world.abandon (policySession index u)) world

/-- Every caller makes its call at any time; a retry is another caller with the same
arguments. A crash ends the sessions of the caller. -/
def evaluateSystem (platform : EvaluationPlatform) (calls : Caller → EvaluateCall) :
    System EvaluateCall Caller RecordInput RecordWorld
      (Except Failure (List AlertEvaluation)) where
  body := EvaluateCall.evaluate platform
  Starts u call := call = calls u
  Allowed _ input := input.Outside
  Crash u before after := after = before.leave u
  Disturb := (recordSystem platform (recordCalls calls)).Disturb

abbrev EvaluatePool :=
  Pool EvaluateCall Caller RecordInput RecordWorld (Except Failure (List AlertEvaluation))

/-- The pools that the calls can lead to. -/
def EvaluatePool.Reachable (platform : EvaluationPlatform) (calls : Caller → EvaluateCall)
    (pool : EvaluatePool) : Prop :=
  Reaches (evaluateSystem platform calls) (Pool.start RecordWorld.initial) pool

end StockoutOps.Alerting
