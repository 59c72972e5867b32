import TenantSync.Text.Ranges

/-! # Patterns

A `Pattern` describes texts, and `Pattern.occursIn` says whether some part of a text is
one of them.  A pattern is followed through the text from all places at once: `reach` takes
the places at which a match stands so far and returns those at which it may stand when the
pattern is passed, each as a list with a mark for every place between two characters. -/

namespace TenantSync

/-- A set of characters. -/
inductive CharSet where
  | ranges (rs : Ranges)
  | union (a b : CharSet)
  | inter (a b : CharSet)
  | compl (a : CharSet)
  /-- The set with the letters of the other case, among those of ASCII. -/
  | bothCases (a : CharSet)
  deriving DecidableEq, Repr

namespace CharSet

/-- The letter of the other case, among those of ASCII. -/
def otherCase (c : Char) : Char := if c.isUpper then c.toLower else c.toUpper

/-- Whether a set has a character. -/
def holds : CharSet → Char → Bool
  | ranges rs, c => rs.holds c
  | union a b, c => a.holds c || b.holds c
  | inter a b, c => a.holds c && b.holds c
  | compl a, c => !a.holds c
  | bothCases a, c => a.holds c || a.holds (otherCase c)

/-- The set with one character. -/
def single (c : Char) : CharSet := ranges [(c.toNat, c.toNat)]

/-- Whether a set is given by what it does not have. -/
def isWide : CharSet → Bool
  | ranges _ => false
  | union a b => a.isWide || b.isWide
  | inter a b => a.isWide && b.isWide
  | compl _ => true
  | bothCases a => a.isWide

end CharSet

/-- A place in a text by the characters before and behind it. -/
structure Gap where
  before? : Option Char
  behind? : Option Char
  deriving DecidableEq, Repr

/-- The places in a text. -/
def Gap.all (text : List Char) : List Gap :=
  List.zipWith Gap.mk (none :: text.map some) (text.map some ++ [none])

/-- What can be asked of a place by the words of ASCII letters, digits and underscores around
    it. -/
inductive WordEdge where
  /-- A word starts or ends. -/
  | either
  | neither
  | start
  | stop
  /-- No character of a word stands before. -/
  | startHalf
  /-- No character of a word stands behind. -/
  | stopHalf
  deriving DecidableEq, Repr

/-- What can be asked of a place in a text.  The end of a line is a line feed; if `crlf`, also a
    carriage return or both together. -/
inductive Anchor where
  | textStart
  | textEnd
  | lineStart (crlf : Bool)
  | lineEnd (crlf : Bool)
  | word (edge : WordEdge)
  deriving DecidableEq, Repr

/-- The characters of a word. -/
def wordRanges : Ranges := [(0x30, 0x39), (0x41, 0x5A), (0x5F, 0x5F), (0x61, 0x7A)]

/-- Whether a place stands as is asked for, by whether characters of a word stand before and
    behind it. -/
def WordEdge.holds (before behind : Bool) : WordEdge → Bool
  | either => before != behind
  | neither => before == behind
  | start => !before && behind
  | stop => before && !behind
  | startHalf => !before
  | stopHalf => !behind

/-- Whether a place is one of those that are asked for. -/
def Anchor.holds (g : Gap) : Anchor → Bool
  | textStart => g.before?.isNone
  | textEnd => g.behind?.isNone
  | lineStart crlf =>
    g.before?.isNone || g.before? == some '\n' ||
      (crlf && g.before? == some '\r' && g.behind? != some '\n')
  | lineEnd crlf =>
    g.behind?.isNone || (g.behind? == some '\n' && !(crlf && g.before? == some '\r')) ||
      (crlf && g.behind? == some '\r')
  | word edge => edge.holds (g.before?.any wordRanges.holds) (g.behind?.any wordRanges.holds)

/-- A description of texts. -/
inductive Pattern where
  /-- The text without characters. -/
  | empty
  | one (s : CharSet)
  | anchor (a : Anchor)
  | seq (p q : Pattern)
  | either (p q : Pattern)
  /-- At least `min` texts in a row, and no more than `max?`. -/
  | repeated (min : Nat) (max? : Option Nat) (p : Pattern)
  deriving DecidableEq, Repr

namespace Pattern

/-- The marks of both lists. -/
def join (a b : List Bool) : List Bool := List.zipWith or a b

/-- Takes a step a number of times.  What does not change any more stays. -/
def times (step : List Bool → List Bool) : Nat → List Bool → List Bool
  | 0, marks => marks
  | n + 1, marks =>
    let next := step marks
    if next = marks then marks else times step n next

/-- Adds the marks after each of a number of steps.  What does not change any more stays. -/
def spread (step : List Bool → List Bool) : Nat → List Bool → List Bool
  | 0, marks => marks
  | n + 1, marks =>
    let next := join marks (step marks)
    if next = marks then marks else spread step n next

/-- The places of a text at which a match may stand when the pattern is passed. -/
def reach (text : List Char) : Pattern → List Bool → List Bool
  | empty, marks => marks
  | one s, marks => false :: List.zipWith (fun mark c => mark && s.holds c) marks text
  | anchor a, marks => List.zipWith (fun mark g => mark && a.holds g) marks (Gap.all text)
  | seq p q, marks => reach text q (reach text p marks)
  | either p q, marks => join (reach text p marks) (reach text q marks)
  | repeated min max? p, marks =>
    let more := match max? with
      | some max => max - min
      | none => text.length + 1
    spread (reach text p) more (times (reach text p) min marks)

/-- Whether some part of a text is one that the pattern describes. -/
def occursIn (p : Pattern) (text : String) : Bool :=
  let cs := text.toList
  (reach cs p (List.replicate (cs.length + 1) true)).any id

/-- The space that a pattern takes, in bytes: each state takes thirty-two, and the characters
    beyond ASCII take several states. -/
def space : Pattern → Nat
  | empty => 32
  | one (.ranges [(a, b)]) => if a = b then 32 * (Char.ofNat a).utf8Size else 72
  | one s => if s.isWide then 480 else 96
  | anchor _ => 32
  | seq p q => space p + space q
  | either p q => space p + space q + 72
  | repeated min none p => space p * max min 1 + 64
  | repeated min (some max) p => space p * max + 40 * (max - min)

/-- The space that a pattern may take. -/
def longest : Nat := 10485760

end Pattern

end TenantSync
