/-! # Why a text is not a pattern

A fault names what is wrong and where.  `Pattern.Fault.text` shows the text of the pattern
and marks the place below it. -/

namespace TenantSync.Pattern

/-- A place in the text of a pattern: line and column, from one on. -/
structure Position where
  line : Nat := 1
  column : Nat := 1
  deriving DecidableEq, Repr, Inhabited

/-- The place behind a character. -/
def Position.after (p : Position) (c : Char) : Position :=
  if c = '\n' then ⟨p.line + 1, 1⟩ else ⟨p.line, p.column + 1⟩

/-- A part of the text of a pattern. -/
structure Span where
  start : Position
  stop : Position
  deriving DecidableEq, Repr, Inhabited

namespace Span

/-- The part without characters at a place. -/
def at' (p : Position) : Span := ⟨p, p⟩

/-- Whether one part starts no later than another. -/
def isBefore (a b : Span) : Bool :=
  a.start.line < b.start.line || (a.start.line == b.start.line && a.start.column ≤ b.start.column)

/-- Whether a part stands in one line. -/
def isInLine (s : Span) : Bool := s.start.line == s.stop.line

end Span

/-- What is wrong with the text of a pattern. -/
inductive Problem where
  | classEscape
  | classRange
  | classRangeEnd
  | classOpen
  | decimalTooLarge
  | escapeEnds
  | escapeUnknown
  | hexEmpty
  | hexTooLarge
  | hexDigit
  | flagNothingNegated
  | flagTwice
  | flagTwiceNegated
  | flagEnds
  | flagUnknown
  | nameTwice
  | nameEmpty
  | nameCharacter
  | nameEnds
  | groupOpen
  | groupNotOpen
  | tooDeep (limit : Nat)
  | countOrder
  | countEmpty
  | countOpen
  | nothingRepeated
  | wordEdgeOpen
  | wordEdgeUnknown
  | wordEdgeEnds
  | propertyName
  | backreference
  | lookAround
  | beyondAscii
  | notUtf8
  | propertyUnknown
  | propertyValueUnknown
  | noPerlClass
  | noOtherCase
  deriving DecidableEq, Repr

/-- The wording of a problem. -/
def Problem.message : Problem → String
  | classEscape => "invalid escape sequence found in character class"
  | classRange => "invalid character class range, the start must be <= the end"
  | classRangeEnd => "invalid range boundary, must be a literal"
  | classOpen => "unclosed character class"
  | decimalTooLarge => "decimal literal invalid"
  | escapeEnds => "incomplete escape sequence, reached end of pattern prematurely"
  | escapeUnknown => "unrecognized escape sequence"
  | hexEmpty => "hexadecimal literal empty"
  | hexTooLarge => "hexadecimal literal is not a Unicode scalar value"
  | hexDigit => "invalid hexadecimal digit"
  | flagNothingNegated => "dangling flag negation operator"
  | flagTwice => "duplicate flag"
  | flagTwiceNegated => "flag negation operator repeated"
  | flagEnds => "expected flag but got end of regex"
  | flagUnknown => "unrecognized flag"
  | nameTwice => "duplicate capture group name"
  | nameEmpty => "empty capture group name"
  | nameCharacter => "invalid capture group character"
  | nameEnds => "unclosed capture group name"
  | groupOpen => "unclosed group"
  | groupNotOpen => "unopened group"
  | tooDeep limit => s!"exceed the maximum number of nested parentheses/brackets ({limit})"
  | countOrder => "invalid repetition count range, the start must be <= the end"
  | countEmpty => "repetition quantifier expects a valid decimal"
  | countOpen => "unclosed counted repetition"
  | nothingRepeated => "repetition operator missing expression"
  | wordEdgeOpen =>
    "special word boundary assertion is either unclosed or contains an invalid character"
  | wordEdgeUnknown =>
    "unrecognized special word boundary assertion, valid choices are: " ++
      "start, end, start-half or end-half"
  | wordEdgeEnds =>
    "found either the beginning of a special word boundary or a bounded repetition on a \\b " ++
      "with an opening brace, but no closing brace"
  | propertyName => "invalid Unicode character class"
  | backreference => "backreferences are not supported"
  | lookAround => "look-around, including look-ahead and look-behind, is not supported"
  | beyondAscii => "Unicode not allowed here"
  | notUtf8 => "pattern can match invalid UTF-8"
  | propertyUnknown => "Unicode property not found"
  | propertyValueUnknown => "Unicode property value not found"
  | noPerlClass =>
    "Unicode-aware Perl class not found (make sure the unicode-perl feature is enabled)"
  | noOtherCase =>
    "Unicode-aware case insensitivity matching is not available " ++
      "(make sure the unicode-case feature is enabled)"

/-- What is wrong and where; something that stands twice is also marked where it stands first. -/
structure Fault where
  problem : Problem
  span : Span
  first? : Option Span := none
  deriving DecidableEq, Repr

namespace Fault

/-- The line without a carriage return at its end. -/
def withoutReturn (line : List Char) : List Char :=
  if line.getLast? = some '\r' then line.dropLast else line

/-- The lines of a text, without the characters that end them. -/
def lines (text : List Char) : List (List Char) :=
  let parts := text.splitOn '\n'
  parts.dropLast.map withoutReturn ++ (parts.getLast?.filter (!·.isEmpty)).toList

/-- The places of a fault, in order. -/
def spans (f : Fault) : List Span :=
  match f.first? with
  | none => [f.span]
  | some s => if s.isBefore f.span then [s, f.span] else [f.span, s]

/-- Marks places below a line, each with at least one mark. -/
def marks (spans : List Span) : List Char :=
  spans.foldl
    (fun line s =>
      line ++ List.replicate (s.start.column - 1 - line.length) ' ' ++
        List.replicate (max 1 (s.stop.column - s.start.column)) '^')
    []

/-- The lines of a pattern, each with `label` in front and the places of the fault marked below. -/
def marked (f : Fault) (label : Nat → String) (text : List Char) : List String :=
  (lines text).zipIdx.flatMap fun (line, i) =>
    let shown := label (i + 1) ++ String.ofList line
    let here := f.spans.filter fun s => s.isInLine && s.start.line == i + 1
    let blanks := List.replicate (label (i + 1)).length ' '
    if here.isEmpty then [shown] else [shown, String.ofList (blanks ++ marks here)]

/-- The number of lines of a pattern; the end of a line begins another one. -/
def lineCount (text : List Char) : Nat := (text.splitOn '\n').length

/-- What is said about a place that goes over several lines. -/
def overLines (s : Span) : String :=
  s!"on line {s.start.line} (column {s.start.column}) through line {s.stop.line} " ++
    s!"(column {s.stop.column - 1})"

/-- The wording of a fault in the text of a pattern. -/
def text (f : Fault) (pattern : String) : String :=
  let cs := pattern.toList
  let width := (toString (lineCount cs)).length
  let number (n : Nat) : String :=
    let digits := toString n
    String.ofList (List.replicate (width - digits.length) ' ') ++ digits ++ ": "
  let body :=
    if cs.contains '\n' then
      let divider := String.ofList (List.replicate 79 '~')
      divider :: f.marked number cs ++ divider :: (f.spans.filter (!·.isInLine)).map overLines
    else f.marked (fun _ => "    ") cs
  "\n".intercalate ("regex parse error:" :: body ++ [s!"error: {f.problem.message}"])

end Fault

end TenantSync.Pattern
