import StockoutOps.Investigation.Schema

/-!
Contract: the tables of shadow processing.

Owns: the rows of `shadow_run`, its CHECK constraints, and the tables of one
database.

Does not own: the statements of the role and the trigger of the table.

A row is split into the columns that identify the run, which the trigger keeps,
and those that hold its outcome. The role may write all of them.
-/

namespace StockoutOps.Shadow

open StockoutOps.Investigation StockoutOps.Sql

abbrev ShadowRunId := Nat

inductive ProvenanceLabel where
  | simulated
  | genuineUatAnalystLabelled
deriving DecidableEq, Repr

inductive BaselineSource where
  | controlledSyntheticReference
  | analystReference
deriving DecidableEq, Repr

inductive ShadowStatus where
  | started
  | completed
  | escalated
deriving DecidableEq, Repr

inductive CostEvidenceLabel where
  | simulated
  | unmeasured
deriving DecidableEq, Repr

/-- `shadow_run immutable control fields` -/
structure ShadowRunControl where
  shadowRunId : ShadowRunId
  tenantId : String
  idempotencyKey : String
  payloadHash : String
  caseId : String
  caseVersion : String
  casePackVersion : String
  processorVersion : String
  promptVersion : String
  toolSchemaVersion : String
  provenanceLabel : ProvenanceLabel
  baselineSource : BaselineSource
  execute : Bool
  externalActionCount : Int
  createdBy : String
  createdAt : Timestamp
deriving DecidableEq

structure ShadowRunOutcome where
  status : ShadowStatus
  investigationRunId : Option RunId
  providerLabel : Option String
  outputJson : Option Json
  diffJson : Option Json
  outputHash : Option String
  diffHash : Option String
  latencyMs : Option PyFloat
  estimatedCostUsd : Option PyFloat
  costEvidenceLabel : Option CostEvidenceLabel
  completedAt : Option Timestamp
deriving DecidableEq

structure ShadowRunRow extends ShadowRunControl, ShadowRunOutcome
deriving DecidableEq

/-- `value >= 0` on a `numeric`, where NaN is above every number. -/
def numericNonneg : PyFloat → Bool
  | .finite value => 0 ≤ value
  | .posInf | .nan => true
  | .negInf => false

/-- `shadow_run_provenance_baseline_consistent` -/
def provenanceBaselineConsistent (row : ShadowRunControl) : Bool :=
  row.provenanceLabel == .simulated && row.baselineSource == .controlledSyntheticReference ||
    row.provenanceLabel == .genuineUatAnalystLabelled && row.baselineSource == .analystReference

def ShadowRunRow.checks (row : ShadowRunRow) : List (String × Bool) :=
  [("idempotency_key", lengthBetween 1 200 row.idempotencyKey),
    ("payload_hash", isHex64 row.payloadHash), ("case_id", notEmpty row.caseId),
    ("case_version", notEmpty row.caseVersion),
    ("case_pack_version", notEmpty row.casePackVersion),
    ("processor_version", notEmpty row.processorVersion),
    ("prompt_version", notEmpty row.promptVersion),
    ("tool_schema_version", row.toolSchemaVersion == "v1"), ("execute", !row.execute),
    ("output_hash", nullOr isHex64 row.outputHash), ("diff_hash", nullOr isHex64 row.diffHash),
    ("latency_ms", nullOr numericNonneg row.latencyMs),
    ("estimated_cost_usd", nullOr numericNonneg row.estimatedCostUsd),
    ("external_action_count", row.externalActionCount == 0),
    ("shadow_run_provenance_baseline_consistent",
      provenanceBaselineConsistent row.toShadowRunControl)]

/-- `(tenant_id, idempotency_key)` -/
def ShadowRunControl.keyId (row : ShadowRunControl) : String × String :=
  (row.tenantId, row.idempotencyKey)

/-- `(tenant_id, case_id, case_version, processor_version)` -/
def ShadowRunControl.caseIdentity (row : ShadowRunControl) : String × String × String × String :=
  (row.tenantId, row.caseId, row.caseVersion, row.processorVersion)

end StockoutOps.Shadow
