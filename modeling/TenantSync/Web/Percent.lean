import TenantSync.Text.Hex

/-! # Percent-encoding

A character that may not stand in a part of an address is written as the bytes of its
UTF-8 form, each as a percent sign and two hexadecimal digits.  Which characters these
are depends on the part; characters outside ASCII are never written as they are. -/

namespace TenantSync.Percent

/-- A byte as a percent sign and two upper-case digits. -/
def encodeByte (b : UInt8) : List Char :=
  ['%', Hex.upper (Hex.digit (b.toNat / 16)), Hex.upper (Hex.digit b.toNat)]

/-- The bytes of a character, encoded. -/
def encodeChar (c : Char) : List Char := (String.utf8EncodeChar c).flatMap encodeByte

/-- Encodes the characters that a part of an address does not admit. -/
def encode (reserved : Char → Bool) (cs : List Char) : List Char :=
  cs.flatMap fun c => if reserved c || 0x80 ≤ c.toNat then encodeChar c else [c]

/-- Control characters. -/
def controls (c : Char) : Bool := c.toNat < 0x20 || c.toNat == 0x7F

/-- What a fragment does not admit. -/
def inFragment (c : Char) : Bool := controls c || " \"<>\x60".toList.contains c

/-- What a path does not admit. -/
def inPath (c : Char) : Bool := inFragment c || "#?\x7b\x7d".toList.contains c

/-- What user and password do not admit. -/
def inUserinfo (c : Char) : Bool := inPath c || "/:;=@[\\]^|".toList.contains c

/-- What a query does not admit. -/
def inQuery (c : Char) : Bool := controls c || " \"#<>'".toList.contains c

/-- The bytes of a text in which some are encoded.  A percent sign that two digits do not
    follow stands for itself. -/
def decode : List Char → List UInt8
  | '%' :: a :: b :: cs =>
    match Hex.value? a, Hex.value? b with
    | some x, some y => UInt8.ofNat (x.val * 16 + y.val) :: decode cs
    | _, _ => 0x25 :: decode (a :: b :: cs)
  | c :: cs => String.utf8EncodeChar c ++ decode cs
  | [] => []

end TenantSync.Percent
