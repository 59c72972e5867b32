import TenantSync.Text.Unassigned
import TenantSync.Web.Domain.Replacement

/-! # The characters of a domain

A character that is written in a domain stays, is dropped, stands for others or makes the
whole domain invalid.  `Domain.resolve?` carries that out for a text. -/

namespace TenantSync.Domain

/-- What becomes of a character that is written in a domain. -/
inductive Fate where
  | stays
  | dropped
  | replaced (cs : List Char)
  | refused
  deriving DecidableEq, Repr

/-- The ranges of the characters that are dropped: they only say how others are shown. -/
def droppedRanges : Ranges :=
  [(0xAD, 0xAD), (0x34F, 0x34F), (0x115F, 0x1160), (0x17B4, 0x17B5), (0x180B, 0x180F),
    (0x200B, 0x200B), (0x2060, 0x2064), (0x206A, 0x206F), (0x3164, 0x3164), (0xFE00, 0xFE0F),
    (0xFEFF, 0xFEFF), (0xFFA0, 0xFFA0), (0x1BCA0, 0x1BCA3), (0x1D173, 0x1D17A), (0xE0100, 0xE01EF)]

/-- The ranges of the characters that are refused, other than code points without a character. -/
def refusedRanges : Ranges :=
  [(0x80, 0x9F), (0x600, 0x605), (0x61C, 0x61C), (0x6DD, 0x6DD), (0x70F, 0x70F), (0x890, 0x891),
    (0x8E2, 0x8E2), (0x1680, 0x1680), (0x200E, 0x200F), (0x2024, 0x2026), (0x2028, 0x202E),
    (0x2066, 0x2069), (0x2488, 0x249B), (0x2FF0, 0x2FFF), (0x31EF, 0x31EF), (0x33C2, 0x33C2),
    (0x33C7, 0x33C7), (0x33D8, 0x33D8), (0xE000, 0xF8FF), (0xFE12, 0xFE12), (0xFE19, 0xFE19),
    (0xFE30, 0xFE30), (0xFE52, 0xFE52), (0xFFF9, 0xFFFD), (0x110BD, 0x110BD), (0x110CD, 0x110CD),
    (0x13430, 0x1343F), (0x1F100, 0x1F100), (0xE0001, 0xE007F), (0xF0000, 0x10FFFD)]

/-- What becomes of a character. -/
def fate (c : Char) : Fate :=
  if droppedRanges.holds c then .dropped
  else
    match Replacement.of? c with
    | some cs => .replaced cs
    | none => if refusedRanges.holds c || isUnassigned c then .refused else .stays

/-- Whether a character has a meaning of its own in an address, and so stands in no domain. -/
def isReserved (c : Char) : Bool :=
  c.toNat < 0x20 || c.toNat == 0x7F || " %#/:<>?@[\\]^|".toList.contains c

/-- Whether a domain in its final form holds a character. -/
def admits (c : Char) : Bool := fate c = .stays && !isReserved c

/-- The text in which every character is what it stands for, unless one is refused. -/
def resolve? : List Char → Option (List Char)
  | [] => some []
  | c :: cs =>
    match fate c with
    | .stays => (resolve? cs).map (c :: ·)
    | .dropped => resolve? cs
    | .replaced ds => (resolve? cs).map (ds ++ ·)
    | .refused => none

end TenantSync.Domain
