/-! # Bytes as text

`Utf8.decode` reads bytes as UTF-8.  The first place where they are none decides; a
sequence that could still be completed is told apart from one that could not. -/

namespace TenantSync.Utf8

/-- Why bytes are not text. -/
inductive Fault where
  /-- The given number of bytes can start no character. -/
  | invalid (length index : Nat)
  /-- The bytes end within a character. -/
  | incomplete (index : Nat)
  deriving DecidableEq, Repr

/-- The wording of a fault. -/
def Fault.message : Fault → String
  | invalid length index => s!"invalid utf-8 sequence of {length} bytes from index {index}"
  | incomplete index => s!"incomplete utf-8 byte sequence from index {index}"

/-- Whether a byte continues a character. -/
def continues (b : UInt8) : Bool := 0x80 ≤ b && b < 0xC0

/-- Whether a byte can follow the first of three. -/
def secondOfThree (a b : UInt8) : Bool :=
  continues b && !(a == 0xE0 && b < 0xA0) && !(a == 0xED && 0xA0 ≤ b)

/-- Whether a byte can follow the first of four. -/
def secondOfFour (a b : UInt8) : Bool :=
  continues b && !(a == 0xF0 && b < 0x90) && !(a == 0xF4 && 0x90 ≤ b)

/-- The bits that a byte behind the first adds. -/
def low (b : UInt8) : Nat := b.toNat % 64

/-- Reads bytes from an index on. -/
def decodeFrom (i : Nat) : List UInt8 → Except Fault (List Char)
  | [] => .ok []
  | a :: rest =>
    if a < 0x80 then (decodeFrom (i + 1) rest).map (Char.ofNat a.toNat :: ·)
    else if 0xC2 ≤ a ∧ a < 0xE0 then
      match rest with
      | [] => .error (.incomplete i)
      | b :: rest =>
        if continues b then
          (decodeFrom (i + 2) rest).map (Char.ofNat (a.toNat % 32 * 64 + low b) :: ·)
        else .error (.invalid 1 i)
    else if 0xE0 ≤ a ∧ a < 0xF0 then
      match rest with
      | [] => .error (.incomplete i)
      | [b] => .error (if secondOfThree a b then .incomplete i else .invalid 1 i)
      | b :: c :: rest =>
        if !secondOfThree a b then .error (.invalid 1 i)
        else if continues c then
          (decodeFrom (i + 3) rest).map
            (Char.ofNat ((a.toNat % 16 * 64 + low b) * 64 + low c) :: ·)
        else .error (.invalid 2 i)
    else if 0xF0 ≤ a ∧ a < 0xF5 then
      match rest with
      | [] => .error (.incomplete i)
      | [b] => .error (if secondOfFour a b then .incomplete i else .invalid 1 i)
      | [b, c] =>
        .error <|
          if !secondOfFour a b then .invalid 1 i
          else if continues c then .incomplete i
          else .invalid 2 i
      | b :: c :: d :: rest =>
        if !secondOfFour a b then .error (.invalid 1 i)
        else if !continues c then .error (.invalid 2 i)
        else if continues d then
          (decodeFrom (i + 4) rest).map
            (Char.ofNat (((a.toNat % 8 * 64 + low b) * 64 + low c) * 64 + low d) :: ·)
        else .error (.invalid 3 i)
    else .error (.invalid 1 i)

/-- Reads bytes as text. -/
def decode (bytes : List UInt8) : Except Fault String :=
  (decodeFrom 0 bytes).map String.ofList

end TenantSync.Utf8
