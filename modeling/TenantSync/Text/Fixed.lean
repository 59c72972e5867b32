import TenantSync.Text.Rounding

/-! # Numbers with a fixed number of decimals

`Fixed.hundredths` rounds the exact value of a floating-point number to hundredths. -/

namespace TenantSync

namespace Fixed

/-- A finite non-negative floating-point number as `m * 2 ^ q`. -/
def scaled (x : Float) : Nat × Int :=
  let one : Nat := 0x10000000000000
  let bits : Nat := x.toBits.toNat
  let exponent : Nat := bits / one % 0x800
  let fraction : Nat := bits % one
  if exponent = 0 then (fraction, -1074) else (fraction + one, (exponent : Int) - 1075)

/-- The nearest whole number of hundredths. -/
def hundredths (x : Float) : Nat :=
  let (m, q) := scaled x
  if q ≥ 0 then m * 100 * Nat.pow 2 q.toNat else roundDiv (m * 100) (Nat.pow 2 (-q).toNat)

/-- A whole number of hundredths with two decimals. -/
def text (n : Nat) : String := s!"{n / 100}.{n / 10 % 10}{n % 10}"

end Fixed

/-- A time span in nanoseconds as seconds with two decimals.  The seconds are a
    floating-point number: whole seconds plus the rest divided by a thousand million. -/
def secondsText (nanoseconds : Nat) : String :=
  let unit := 1000000000
  let seconds :=
    Float.ofNat (nanoseconds / unit) + Float.ofNat (nanoseconds % unit) / Float.ofNat unit
  Fixed.text (Fixed.hundredths seconds)

end TenantSync
