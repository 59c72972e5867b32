import TenantSync.Pattern.Cursor
import TenantSync.Pattern.Syntax
import TenantSync.Text.Hex
import TenantSync.Text.Numeral

/-! # Single characters and escapes in a pattern

An `Atom` is what a character, or a backslash and what follows it, means outside or inside
of brackets. -/

namespace TenantSync.Pattern

/-- The smallest parts of a pattern. -/
inductive Atom where
  | literal (l : Literal)
  | dot (span : Span)
  | anchor (span : Span) (a : Anchor)
  | perl (span : Span) (negated : Bool) (c : PerlClass)
  | property (span : Span) (name : String)

namespace Atom

/-- The place of an atom. -/
def span : Atom → Span
  | literal l => l.span
  | dot s | anchor s _ | perl s .. | property s _ => s

/-- An atom as a part of a pattern. -/
def node : Atom → Node
  | literal l => .literal l
  | dot s => .dot s
  | anchor s a => .anchor s a
  | perl s n c => .perl s n c
  | property s name => .property s name

/-- An atom as a set of characters, if it is one. -/
def set? : Atom → Option ClassSet
  | literal l => some (.literal l)
  | perl s n c => some (.perl s n c)
  | property s name => some (.property s name)
  | dot _ | anchor .. => none

end Atom

open ReaderM

/-! ## Numbers -/

/-- The character with a number in hexadecimal digits. -/
def hexChar? (digits : List Char) : Option Char :=
  let n := digits.foldl (fun n c => n * 16 + ((Hex.value? c).map Fin.val).getD 0) 0
  if n.isValidChar then some (Char.ofNat n) else none

/-- Reads a number of hexadecimal digits.  `first` says whether none was read yet. -/
def hexDigits (first : Bool) : Nat → ReaderM (List Char)
  | 0 => return []
  | n + 1 => do
    if !first then next
    match ← peek? with
    | none => fail .escapeEnds (← at')
    | some c =>
      if Hex.isDigit c then return c :: (← hexDigits false n)
      else fail .hexDigit (← nextSpan)

/-- Reads a character that is written as a number of hexadecimal digits. -/
def fixedHex (escape : Position) (count : Nat) : ReaderM Literal := do
  let start ← here
  let digits ← hexDigits true count
  next
  match hexChar? digits with
  | some char => return ⟨char, ← since escape, count == 2⟩
  | none => fail .hexTooLarge (← since start)

/-- Reads a character that is written as a number in braces. -/
def bracedHex (escape : Position) : ReaderM Literal := do
  let brace ← here
  let start := (← nextSpan).stop
  next
  let digits ← all next Hex.isDigit
  match ← peek? with
  | none => fail .escapeEnds (← since brace)
  | some c =>
    if c ≠ '\x7d' then fail .hexDigit (← nextSpan)
    let stop ← here
    next
    if digits.isEmpty then fail .hexEmpty (← since brace)
    match hexChar? digits with
    | some char => return ⟨char, ← since escape, false⟩
    | none => fail .hexTooLarge ⟨start, stop⟩

/-- Reads a character that is written as a number behind one of three letters. -/
def hexEscape (escape : Position) (letter : Char) : ReaderM Literal := do
  next
  match ← peek? with
  | none => fail .escapeEnds (← at')
  | some c =>
    if c = '\x7b' then bracedHex escape
    else fixedHex escape (if letter = 'x' then 2 else if letter = 'u' then 4 else 8)

/-- The largest number of repetitions. -/
def largestCount : Nat := 0xFFFFFFFF

/-- Reads a number in decimal digits.  What is wrong with it is known only after what follows was
    read, so it is returned. -/
def decimal : ReaderM (Except Fault Nat) := do
  let _ ← all advance isWhiteSpace
  let start ← here
  let digits ← all next fun c => (Numeral.digit? c).isSome
  let span ← since start
  let _ ← all next isWhiteSpace
  let n := digits.foldl (fun n c => n * 10 + (Numeral.digit? c).getD 0) 0
  if digits.isEmpty then return .error ⟨.countEmpty, span, none⟩
  else if largestCount < n then return .error ⟨.decimalTooLarge, span, none⟩
  else return .ok n

/-! ## Classes of characters -/

/-- Reads the name of a property of characters. -/
def propertyEscape (escape : Position) : ReaderM Atom := do
  next
  match ← peek? with
  | none => fail .escapeEnds (← at')
  | some c =>
    if c = '\x7b' then
      next
      let name ← all next (· ≠ '\x7d')
      if (← peek?).isNone then fail .escapeEnds (← at')
      advance
      return .property (← since escape) (String.ofList name)
    else if c = '\\' then fail .propertyName (← nextSpan)
    else
      next
      return .property (← since escape) c.toString

/-- The class of a letter in lower case. -/
def perlClass? (c : Char) : Option PerlClass :=
  match c with
  | 'd' => some .digit
  | 's' => some .space
  | 'w' => some .word
  | _ => none

/-! ## Escapes -/

/-- The characters with a meaning of their own. -/
def isMeta (c : Char) : Bool := "\\.+*?()|[]\x7b\x7d^$#&-~".toList.contains c

/-- Whether an escaped character stands for itself. -/
def standsForItself (c : Char) : Bool :=
  isMeta c || (c.toNat < 0x80 && !c.isAlphanum && c ≠ '<' && c ≠ '>')

/-- The control characters with an escape of one letter. -/
def control? (c : Char) : Option Char :=
  match c with
  | 'a' => some '\x07'
  | 'f' => some '\x0c'
  | 't' => some '\t'
  | 'n' => some '\n'
  | 'r' => some '\r'
  | 'v' => some '\x0b'
  | _ => none

/-- The places with an escape of one letter. -/
def anchor? (c : Char) : Option Anchor :=
  match c with
  | 'A' => some .textStart
  | 'z' => some .textEnd
  | 'b' => some (.word .either)
  | 'B' => some (.word .neither)
  | '<' => some (.word .start)
  | '>' => some (.word .stop)
  | _ => none

/-- The edges of words by name. -/
def wordEdges : List (String × WordEdge) :=
  [("start", .start), ("end", .stop), ("start-half", .startHalf), ("end-half", .stopHalf)]

/-- Reads the name of an edge of words in braces, unless something else stands in them. -/
def wordEdge? (escape : Position) : ReaderM (Option WordEdge) := do
  let before ← get
  let brace ← here
  next
  let isInName (c : Char) : Bool := c.isAlpha || c = '-'
  match ← peek? with
  | none => fail .wordEdgeEnds (← since escape)
  | some c =>
    if !isInName c then
      set before
      return none
    let start ← here
    let name ← all next isInName
    if (← peek?) ≠ some '\x7d' then fail .wordEdgeOpen (← since brace)
    let span ← since start
    advance
    match wordEdges.lookup (String.ofList name) with
    | some edge => return some edge
    | none => fail .wordEdgeUnknown span

/-- Reads what a backslash begins. -/
def escape : ReaderM Atom := do
  let start ← here
  advance
  match ← peek? with
  | none => fail .escapeEnds (← since start)
  | some c =>
    if c.isDigit then fail .backreference ⟨start, (← nextSpan).stop⟩
    if c = 'x' || c = 'u' || c = 'U' then return .literal (← hexEscape start c)
    if c = 'p' || c = 'P' then return (← propertyEscape start)
    advance
    let span ← since start
    if let some cls := perlClass? c.toLower then return .perl span c.isUpper cls
    if standsForItself c then return .literal ⟨c, span, false⟩
    if let some d := control? c then return .literal ⟨d, span, false⟩
    match anchor? c with
    | none => fail .escapeUnknown span
    | some a =>
      if c = 'b' ∧ (← peek?) = some '\x7b' then
        match ← wordEdge? start with
        | some edge => return .anchor (← since start) (.word edge)
        | none => return .anchor span a
      else return .anchor span a

/-- Reads one character, or what a backslash begins, outside of brackets. -/
def atom (c : Char) : ReaderM Atom := do
  if c = '\\' then escape
  else
    let span ← nextSpan
    advance
    return match c with
      | '.' => .dot span
      | '^' => .anchor span (.lineStart false)
      | '$' => .anchor span (.lineEnd false)
      | c => .literal ⟨c, span, false⟩

/-- Reads one character, or what a backslash begins, inside of brackets. -/
def setAtom (c : Char) : ReaderM Atom := do
  if c = '\\' then escape
  else
    let span ← nextSpan
    advance
    return .literal ⟨c, span, false⟩

end TenantSync.Pattern
