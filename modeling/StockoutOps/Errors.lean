import StockoutOps.Sql

/-!
Contract: the exceptions the application code raises.

Owns: the domain errors of `errors.py` with their codes, messages and status
codes, and the other exceptions a modelled function can let through.
-/

namespace StockoutOps

inductive StockoutOpsError where
  | authorizationError (message : String)
  | notFoundError
  | conflictError (code message : String)
  | validationError (code message : String)
deriving DecidableEq, Repr

namespace StockoutOpsError

def code : StockoutOpsError → String
  | .authorizationError _ => "FORBIDDEN"
  | .notFoundError => "NOT_FOUND"
  | .conflictError code _ => code
  | .validationError code _ => code

def message : StockoutOpsError → String
  | .authorizationError message => message
  | .notFoundError => "Investigation not found"
  | .conflictError _ message => message
  | .validationError _ message => message

def statusCode : StockoutOpsError → Nat
  | .authorizationError _ => 403
  | .notFoundError => 404
  | .conflictError _ _ => 409
  | .validationError _ _ => 422

end StockoutOpsError

/-- Any exception that leaves a modelled function. -/
inductive Failure where
  | stockoutOps (error : StockoutOpsError)
  | valueError (message : String)
  | runtimeError (message : String)
  | assertionError
  | overflowError (message : String)
  | keyError (key : String)
  | database (error : Sql.SqlError)
  /-- `psycopg.OperationalError`: the session is gone. -/
  | connectionLost
  | evidenceFailure (code message : String)
  | reasoningFailure (code message : String)
  /-- `_IdempotencyRaceLost`, which never leaves `begin_intake`. -/
  | idempotencyRaceLost
deriving DecidableEq, Repr

namespace Failure

/-- `ConflictError(code, message)` -/
def conflict (code message : String) : Failure :=
  .stockoutOps (.conflictError code message)

end Failure

end StockoutOps
