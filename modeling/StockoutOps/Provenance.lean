import StockoutOps.Json
import StockoutOps.Sql

/-!
Contract: the deterministic hashes of `evidence/provenance.py`.

Owns: the canonical hash of a value and the expected id of an evidence item.

Does not own: the digest and the texts it is computed from; they are a
`Provenance`, of which only the shape of a digest is used.
-/

namespace StockoutOps

open StockoutOps.Sql

/-- A Python `datetime`: a naive one has no time zone. -/
structure PyDatetime where
  instant : Timestamp
  aware : Bool
deriving DecidableEq, Repr

/-- `evidence/provenance.py`, over the digest and the texts of the standard library. -/
structure Provenance where
  sha256Text : String → String
  canonicalJson : Json → String
  isoUtc : PyDatetime → String
  isoformat : Timestamp → String
  sha256Text_hex : ∀ text, isHex64 (sha256Text text) = true

namespace Provenance

def canonicalHash (provenance : Provenance) (value : Json) : String :=
  provenance.sha256Text (provenance.canonicalJson value)

def expectedEvidenceId (provenance : Provenance) (sourceRef contentHash : String) : String :=
  "ev_" ++ provenance.sha256Text (sourceRef ++ ":" ++ contentHash)

theorem canonicalHash_hex (provenance : Provenance) (value : Json) :
    isHex64 (provenance.canonicalHash value) = true :=
  provenance.sha256Text_hex _

end Provenance

end StockoutOps
