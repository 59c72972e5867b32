import TenantSync.Pattern.Fault
import TenantSync.Text.Blank

/-! # Going through the text of a pattern

A `Cursor` stands at a place in the text of a pattern; the steps of a reader move it.  Where
the pattern is loose, blanks between its parts and comments up to the end of a line mean
nothing. -/

namespace TenantSync.Pattern

/-- A place in the text of a pattern, and what is known there. -/
structure Cursor where
  /-- What is left of the text. -/
  rest : List Char
  place : Position := {}
  /-- Whether blanks and comments mean nothing. -/
  loose : Bool := false
  /-- The names of the groups so far. -/
  names : List (List Char × Span) := []

/-- A step of a reader. -/
abbrev ReaderM (α : Type) := StateT Cursor (Except Fault) α

/-- Passes over blanks and comments.  Returns what is left and its place. -/
def passBlanks (inComment : Bool) (place : Position) : List Char → List Char × Position
  | [] => ([], place)
  | c :: cs =>
    if inComment then passBlanks (c ≠ '\n') (place.after c) cs
    else if isWhiteSpace c then passBlanks false (place.after c) cs
    else if c = '#' then passBlanks true (place.after c) cs
    else (c :: cs, place)

/-- The character behind blanks and comments: a comment begins with a number sign and ends at the
    first character that is no blank. -/
def behindBlanks? (inComment : Bool) : List Char → Option Char
  | [] => none
  | c :: cs =>
    if isWhiteSpace c then behindBlanks? inComment cs
    else if !inComment && c = '#' then behindBlanks? true cs
    else some c

namespace ReaderM

/-- Fails. -/
def fail {α : Type} (p : Problem) (span : Span) : ReaderM α := throw ⟨p, span, none⟩

/-- The place of the cursor. -/
def here : ReaderM Position := return (← get).place

/-- The part of the text from a place up to the cursor. -/
def since (start : Position) : ReaderM Span := return ⟨start, ← here⟩

/-- The part of the text without characters at the cursor. -/
def at' : ReaderM Span := return Span.at' (← here)

/-- The next character. -/
def peek? : ReaderM (Option Char) := return (← get).rest.head?

/-- The character behind the next one. -/
def second? : ReaderM (Option Char) := return (← get).rest[1]?

/-- The part that the next character takes. -/
def nextSpan : ReaderM Span := do
  let place ← here
  return ⟨place, ((← peek?).map place.after).getD place⟩

/-- Passes over the next character. -/
def advance : ReaderM Unit :=
  modify fun s =>
    match s.rest with
    | [] => s
    | c :: cs => { s with rest := cs, place := s.place.after c }

/-- Passes over blanks and comments where they mean nothing. -/
def skip : ReaderM Unit :=
  modify fun s =>
    if s.loose then
      let (rest, place) := passBlanks false s.place s.rest
      { s with rest, place }
    else s

/-- Passes over the next character and what means nothing behind it. -/
def next : ReaderM Unit := do
  advance
  skip

/-- The character behind the next one and what means nothing between them. -/
def secondBehindBlanks? : ReaderM (Option Char) := do
  let s ← get
  if s.loose then return behindBlanks? false s.rest.tail else second?

/-- Passes over a text if it stands at the cursor. -/
def accept (word : String) : ReaderM Bool := do
  if word.toList.isPrefixOf (← get).rest then
    word.toList.forM fun _ => advance
    return true
  else return false

/-- What is left of the text, as a bound for what can be read. -/
def bound : ReaderM Nat := return (← get).rest.length + 1

/-- Reads the characters that satisfy `p`, each passed over by `step`, up to a number of them. -/
def many (step : ReaderM Unit) (p : Char → Bool) : Nat → ReaderM (List Char)
  | 0 => return []
  | n + 1 => do
    match ← peek? with
    | none => return []
    | some c =>
      if p c then
        step
        return c :: (← many step p n)
      else return []

/-- Reads all characters that satisfy `p`. -/
def all (step : ReaderM Unit) (p : Char → Bool) : ReaderM (List Char) := do
  many step p (← bound)

end ReaderM

end TenantSync.Pattern
