import TenantSync.Text.Hex

/-! # Identifiers

Every entity of an authorization graph is known by a 128-bit identifier.  A `Uuid` is
its thirty-two hexadecimal digits; `Uuid.text` writes the one form used in output
(lower case, hyphens after the 8th, 12th, 16th and 20th digit) and `Uuid.parse?` reads
the four forms accepted in input: bare, hyphenated, hyphenated in braces, and
hyphenated after `urn:uuid:`. -/

namespace TenantSync

/-- A 128-bit identifier as its hexadecimal digits, most significant first. -/
structure Uuid where
  digits : List (Fin 16)
  length_digits : digits.length = 32
  deriving DecidableEq

namespace Uuid

/-- The identifier whose digits are all zero. -/
def zero : Uuid := ⟨List.replicate 32 (Hex.digit 0), by simp⟩

instance : Inhabited Uuid := ⟨zero⟩

/-- The identifier with the given digits, if there are thirty-two of them. -/
def ofDigits? (ds : List (Fin 16)) : Option Uuid :=
  if h : ds.length = 32 then some ⟨ds, h⟩ else none

/-- The hyphenated form: groups of 8, 4, 4, 4 and 12 digits. -/
def chars (u : Uuid) : List Char :=
  let group (i n : Nat) := ((u.digits.drop i).take n).map Hex.lower
  group 0 8 ++ '-' :: group 8 4 ++ '-' :: group 12 4 ++ '-' :: group 16 4 ++ '-' :: group 20 12

/-- The written form of an identifier. -/
def text (u : Uuid) : String := String.ofList u.chars

instance : ToString Uuid := ⟨text⟩
instance : Repr Uuid := ⟨fun u _ => u.text⟩

/-- Reads thirty-two digits and nothing else. -/
def ofBare? (cs : List Char) : Option Uuid := cs.mapM Hex.value? >>= ofDigits?

/-- Reads the hyphenated form: thirty-six characters with hyphens where `chars` puts them. -/
def ofHyphenated? (cs : List Char) : Option Uuid :=
  if cs[8]? = some '-' ∧ cs[13]? = some '-' ∧ cs[18]? = some '-' ∧ cs[23]? = some '-' then
    ofBare? (cs.take 8 ++ (cs.drop 9).take 4 ++ (cs.drop 14).take 4 ++ (cs.drop 19).take 4 ++
      cs.drop 24)
  else none

/-- Reads an identifier in any of the accepted forms. -/
def parse? (s : String) : Option Uuid :=
  let cs := s.toList
  match cs.length with
  | 32 => ofBare? cs
  | 36 => ofHyphenated? cs
  | 38 =>
    if cs.head? = some '{' ∧ cs.getLast? = some '}' then ofHyphenated? (cs.drop 1).dropLast
    else none
  | 45 =>
    if (cs.take 9).map Char.toLower = "urn:uuid:".toList then ofHyphenated? (cs.drop 9) else none
  | _ => none

end Uuid

end TenantSync
