/-! # Reading whole numbers

`Numeral.parse?` reads decimal digits after an optional plus sign; the value must not
exceed a given bound. -/

namespace TenantSync.Numeral

/-- Why a text is not a whole number in range. -/
inductive Fault where
  | empty
  | digit
  | large
  deriving DecidableEq, Repr

/-- The wording of a fault. -/
def Fault.message : Fault → String
  | empty => "cannot parse integer from empty string"
  | digit => "invalid digit found in string"
  | large => "number too large to fit in target type"

/-- The value of a decimal digit. -/
def digit? (c : Char) : Option Nat :=
  if '0' ≤ c ∧ c ≤ '9' then some (c.toNat - '0'.toNat) else none

/-- Reads digits from the left; the first digit that is none, or the first that passes the
    bound, decides. -/
def digits (bound : Nat) (acc : Nat) : List Char → Except Fault Nat
  | [] => .ok acc
  | c :: cs =>
    match digit? c with
    | none => .error .digit
    | some d => if acc * 10 + d ≤ bound then digits bound (acc * 10 + d) cs else .error .large

/-- Reads a whole number that is at most `bound`. -/
def parse (bound : Nat) (s : String) : Except Fault Nat :=
  match s.toList with
  | [] => .error .empty
  | '+' :: [] => .error .digit
  | '+' :: cs => digits bound 0 cs
  | cs => digits bound 0 cs

/-- The largest number of 64 bits. -/
def max64 : Nat := 0xFFFFFFFFFFFFFFFF

end TenantSync.Numeral
