/-! # Ranges of characters

A property that only some characters have is given by the ranges of their code points. -/

namespace TenantSync

/-- Ranges of code points, the first and the last of each. -/
abbrev Ranges := List (Nat × Nat)

/-- Whether a character lies in one of the ranges. -/
def Ranges.holds (rs : Ranges) (c : Char) : Bool :=
  rs.any fun r => r.1 ≤ c.toNat && c.toNat ≤ r.2

end TenantSync
