/-! # Blank characters

The characters that count as white space when text is trimmed: those with the property
`White_Space`. -/

namespace TenantSync

/-- Whether a character is white space. -/
def isWhiteSpace (c : Char) : Bool :=
  let n := c.toNat
  (9 ≤ n && n ≤ 13) || n == 0x20 || n == 0x85 || n == 0xA0 || n == 0x1680 ||
    (0x2000 ≤ n && n ≤ 0x200A) || n == 0x2028 || n == 0x2029 || n == 0x202F || n == 0x205F ||
    n == 0x3000

/-- The list without the elements at both ends that satisfy `p`. -/
def trimList {α : Type} (p : α → Bool) (xs : List α) : List α :=
  ((xs.dropWhile p).reverse.dropWhile p).reverse

/-- The text without the white space around it. -/
def trim (s : String) : String := String.ofList (trimList isWhiteSpace s.toList)

/-- Whether a text holds nothing but white space. -/
def isBlankText (s : String) : Bool := s.toList.all isWhiteSpace

/-- The text without the characters at its end that satisfy `p`. -/
def trimRight (p : Char → Bool) (s : String) : String :=
  String.ofList (s.toList.reverse.dropWhile p).reverse

end TenantSync
