import TenantSync.Text.Composition
import TenantSync.Text.Direction
import TenantSync.Text.Joining
import TenantSync.Web.Domain.Character
import TenantSync.Web.Punycode

/-! # The labels of a domain

A domain consists of labels between dots.  `Label.read?` reads a label: one that begins
with the marker is written in ASCII and stands for another text.  A label beyond ASCII
begins with no mark, and characters that join or separate letters stand only where they do
so.  `Label.agree` says whether the directions of all labels can be told apart. -/

namespace TenantSync.Domain

/-- A label: how it is written in ASCII, and the text that it stands for. -/
structure Label where
  written : List Char
  text : List Char
  deriving DecidableEq, Repr

namespace Label

/-! ## Joining -/

/-- The character that keeps letters from joining. -/
def separator : Char := '\u200C'

/-- The character that makes letters join. -/
def joiner : Char := '\u200D'

/-- The class of the marks that take a consonant's vowel away. -/
def vowelKiller : Nat := 9

/-- Whether the first character that does not join through is of a kind. -/
def meets (kind : Joining → Bool) (cs : List Char) : Bool :=
  (((cs.map Joining.ofChar).find? (· ≠ .through)).map kind).getD false

/-- Whether each separator and joiner has a place where it can stand: behind a mark that takes a
    vowel away, or, for a separator, between two letters that would join.  `before` is what stands
    before the text, the last character first. -/
def joinsWell (before : List Char) : List Char → Bool
  | [] => true
  | c :: cs =>
    let killed := before.head?.any fun b => Composition.markClass b == vowelKiller
    let separates := meets Joining.joinsBehind before && meets Joining.joinsBefore cs
    (killed || (c ≠ joiner && (c ≠ separator || separates))) && joinsWell (c :: before) cs

/-! ## Directions -/

/-- Whether a character can stand inside a label that is written from left to right. -/
def goesRight (d : Direction) : Bool :=
  d = .leftToRight || d = .number || d = .neutral || d = .mark

/-- Whether a label that is written from left to right can end in a character. -/
def endsRight (d : Direction) : Bool := d = .leftToRight || d = .number

/-- Whether a character can stand inside a label that is written from right to left. -/
def goesLeft (d : Direction) : Bool := d ≠ .leftToRight

/-- Whether a label that is written from right to left can end in a character. -/
def endsLeft (d : Direction) : Bool := d = .rightToLeft || d = .number || d = .arabicNumber

/-- Whether the directions of a label can be told apart: the first character says how the label is
    written, and all others agree with it. -/
def isDirected (label : List Char) : Bool :=
  match label.map Direction.ofChar with
  | [] => true
  | first :: rest =>
    let rest := (rest.reverse.dropWhile (· = .mark)).reverse
    let last := rest.getLast?
    match first with
    | .leftToRight => rest.all goesRight && last.all endsRight
    | .rightToLeft =>
      rest.all goesLeft && last.all endsLeft &&
        !(rest.contains .number && rest.contains .arabicNumber)
    | _ => false

/-- Whether a character makes the directions of a domain matter. -/
def turns (c : Char) : Bool :=
  let d := Direction.ofChar c
  d = .rightToLeft || d = .arabicNumber

/-- Whether the directions of the labels of a domain can be told apart. -/
def agree (labels : List Label) : Bool :=
  !(labels.any fun l => l.text.any turns) || labels.all fun l => isDirected l.text

/-! ## Reading -/

/-- The marker of a label that is written in ASCII and stands for another text. -/
def marker : List Char := ['x', 'n', '-', '-']

/-- The length up to which a text behind the marker is read. -/
def longestWritten : Nat := 2000

/-- The length up to which a text is written behind the marker. -/
def longestText : Nat := 1000

/-- Whether a text beyond ASCII can be a label. -/
def isWellFormed (label : List Char) : Bool :=
  !label.head?.any isMark && joinsWell [] label && label.length ≤ longestText

/-- Reads what stands behind the marker. -/
def ofWritten? (cs : List Char) : Option (List Char) :=
  if cs.isEmpty ∨ cs.getLast? = some '-' ∨ longestWritten < cs.length ∨
      cs.any (fun c => 0x80 ≤ c.toNat) then none
  else
    (Punycode.decode? cs).filter fun label =>
      label.all admits && Composition.normalize label == label && isWellFormed label

/-- Reads a label. -/
def read? (cs : List Char) : Option Label :=
  if marker.isPrefixOf cs then (ofWritten? (cs.drop marker.length)).map fun text => ⟨cs, text⟩
  else if cs.all fun c => c.toNat < 0x80 then some ⟨cs, cs⟩
  else if isWellFormed cs then some ⟨marker ++ Punycode.encode cs, cs⟩
  else none

end Label

/-- The dot between two labels. -/
def dot : Char := '.'

/-- The domain that a text names, written in ASCII. -/
def canonical? (cs : List Char) : Option (List Char) := do
  let resolved := Composition.normalize (← resolve? cs)
  if resolved.any isReserved then none
  let labels ← (resolved.splitOn dot).mapM Label.read?
  if Label.agree labels then return [dot].intercalate (labels.map (·.written)) else none

end TenantSync.Domain
