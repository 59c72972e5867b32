/-! # Base64

`Base64.decode` reads the standard alphabet with padding.  A text is cut into groups of
four; the last one, which may be shorter, is the only one that may hold padding.  Bits
that the bytes do not need must be zero. -/

namespace TenantSync.Base64

/-- Why a text is not in base 64. -/
inductive Fault where
  | symbol (byte : UInt8) (offset : Nat)
  | lastSymbol (byte : UInt8) (offset : Nat)
  | length (n : Nat)
  | padding
  deriving DecidableEq, Repr

/-- The wording of a fault. -/
def Fault.message : Fault → String
  | symbol byte offset => s!"Invalid symbol {byte.toNat}, offset {offset}."
  | lastSymbol byte offset => s!"Invalid last symbol {byte.toNat}, offset {offset}."
  | length n => s!"Invalid input length: {n}"
  | padding => "Invalid padding"

/-- The value of a symbol. -/
def value? (b : UInt8) : Option Nat :=
  let c := Char.ofNat b.toNat
  if 'A' ≤ c ∧ c ≤ 'Z' then some (b.toNat - 'A'.toNat)
  else if 'a' ≤ c ∧ c ≤ 'z' then some (b.toNat - 'a'.toNat + 26)
  else if '0' ≤ c ∧ c ≤ '9' then some (b.toNat - '0'.toNat + 52)
  else if c = '+' then some 62
  else if c = '/' then some 63
  else none

/-- The padding symbol. -/
def pad : UInt8 := 61

/-- The values of symbols that stand at an offset. -/
def values (offset : Nat) : List UInt8 → Except Fault (List Nat)
  | [] => .ok []
  | b :: bs =>
    match value? b with
    | some v => (values (offset + 1) bs).map (v :: ·)
    | none => .error (.symbol b offset)

/-- The bytes of four values. -/
def bytes (a b c d : Nat) : List UInt8 :=
  let n := ((a * 64 + b) * 64 + c) * 64 + d
  [UInt8.ofNat (n / 65536), UInt8.ofNat (n / 256), UInt8.ofNat n]

/-- Checks the padding of the last group: none before the third symbol, nothing behind it.
    Returns the symbols before it. -/
def beforePadding (offset : Nat) (group : List UInt8) : Except Fault (List UInt8) :=
  let symbols := group.takeWhile (· ≠ pad)
  let bad := (symbols.zipIdx offset).find? fun p => (value? p.1).isNone
  match bad with
  | some (b, i) => .error (.symbol b i)
  | none =>
    let behind := group.drop symbols.length
    if behind.isEmpty then .ok symbols
    else if symbols.length < 2 ∨ behind.any (· ≠ pad) then
      .error (.symbol pad (offset + symbols.length))
    else .ok symbols

/-- The bytes of the last group, which stands at an offset. -/
def lastGroup (offset : Nat) (group : List UInt8) : Except Fault (List UInt8) := do
  let symbols ← beforePadding offset group
  let vs ← values offset symbols
  let nth (i : Nat) := vs.getD i 0
  let all := bytes (nth 0) (nth 1) (nth 2) (nth 3)
  let unit := if vs.length = 2 then 16 else if vs.length = 3 then 4 else 1
  let spare := (nth (vs.length - 1)) % unit
  if group.isEmpty then return []
  else if vs.length < 2 then throw (.length (offset + vs.length))
  else if group.length ≠ 4 then throw .padding
  else if spare ≠ 0 then
    throw (.lastSymbol (symbols.getLastD 0) (offset + symbols.length - 1))
  else return all.take (vs.length - 1)

/-- Reads groups from an offset on. -/
def groups (offset : Nat) : List UInt8 → Except Fault (List UInt8)
  | a :: b :: c :: d :: e :: rest => do
    match ← values offset [a, b, c, d] with
    | [w, x, y, z] => return bytes w x y z ++ (← groups (offset + 4) (e :: rest))
    | _ => throw .padding
  | group => lastGroup offset group

/-- Reads a text in base 64.  A symbol that stands alone behind the last whole group and is
    none counts before all else. -/
def decode (input : List UInt8) : Except Fault (List UInt8) :=
  match input.getLast? with
  | some b =>
    if input.length % 4 = 1 ∧ b ≠ pad ∧ (value? b).isNone then
      .error (.symbol b (input.length - 1))
    else groups 0 input
  | none => .ok []

end TenantSync.Base64
