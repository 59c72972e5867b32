/-! # Hexadecimal digits -/

namespace TenantSync.Hex

/-- The last digit of a number. -/
def digit (n : Nat) : Fin 16 := ⟨n % 16, Nat.mod_lt n (by decide)⟩

/-- The value of a digit of either case. -/
def value? (c : Char) : Option (Fin 16) :=
  if '0' ≤ c ∧ c ≤ '9' then some (digit (c.toNat - '0'.toNat))
  else if 'a' ≤ c ∧ c ≤ 'f' then some (digit (c.toNat - 'a'.toNat + 10))
  else if 'A' ≤ c ∧ c ≤ 'F' then some (digit (c.toNat - 'A'.toNat + 10))
  else none

/-- The lower-case character of a digit. -/
def lower (d : Fin 16) : Char :=
  if d.val < 10 then Char.ofNat ('0'.toNat + d.val) else Char.ofNat ('a'.toNat + (d.val - 10))

/-- The upper-case character of a digit. -/
def upper (d : Fin 16) : Char :=
  if d.val < 10 then Char.ofNat ('0'.toNat + d.val) else Char.ofNat ('A'.toNat + (d.val - 10))

/-- Whether a character is a digit. -/
def isDigit (c : Char) : Bool := (value? c).isSome

/-- Small letters are read as they are written. -/
theorem value?_lower (d : Fin 16) : value? (lower d) = some d := by
  revert d; decide

/-- So are capital ones. -/
theorem value?_upper (d : Fin 16) : value? (upper d) = some d := by
  revert d; decide

end TenantSync.Hex
