/-! # Rounding

`roundDiv` divides and rounds to the nearest whole number, a half to the even neighbour.
`toPrecision` keeps the leading binary digits of a number, rounded in the same way, so it
gives the floating-point neighbour of a whole number. -/

namespace TenantSync

/-- The quotient rounded to the nearest whole number, a half to the even neighbour. -/
def roundDiv (num den : Nat) : Nat :=
  let q := num / den
  let r := num % den
  if 2 * r > den then q + 1
  else if 2 * r = den ∧ q % 2 = 1 then q + 1
  else q

/-- The number rounded to `bits` leading binary digits. -/
def toPrecision (bits n : Nat) : Nat :=
  let unit := Nat.pow 2 (n.log2 + 1 - bits)
  roundDiv n unit * unit

end TenantSync
