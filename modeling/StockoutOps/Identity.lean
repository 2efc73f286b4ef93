/-!
Contract: the principal that every tenant-scoped operation receives first.

Owns: `identity.Principal` and its role check.

Does not own: how a request's bearer token is resolved to a principal.
-/

namespace StockoutOps

/-- `identity.Principal` -/
structure Principal where
  actorId : String
  tenantId : String
  roles : List String
deriving DecidableEq, Repr

def Principal.hasRole (principal : Principal) (role : String) : Bool :=
  role ∈ principal.roles

end StockoutOps
