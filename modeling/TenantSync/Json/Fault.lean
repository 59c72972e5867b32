/-! # Why a text does not decode -/

namespace TenantSync.Json

/-- The three ways in which reading a JSON text can fail; the first problem in reading order
    decides. -/
inductive Fault where
  /-- The text is not well formed. -/
  | malformed
  /-- The text ends too early. -/
  | truncated
  /-- The text is well formed so far but does not hold what was asked for. -/
  | unexpected
  deriving DecidableEq, Repr

/-- The wording of a decoding fault. -/
def Fault.message : Fault → String
  | malformed => "malformed JSON"
  | truncated => "JSON text ended early"
  | unexpected => "unexpected JSON content"

end TenantSync.Json
