import TenantSync.Pattern.Escape

/-! # Sets of characters in brackets -/

namespace TenantSync.Pattern

open ReaderM

/-- The classes with a name, among the characters of ASCII. -/
def asciiClasses : List (String × Ranges) :=
  [("alnum", [(0x30, 0x39), (0x41, 0x5A), (0x61, 0x7A)]), ("alpha", [(0x41, 0x5A), (0x61, 0x7A)]),
    ("ascii", [(0x0, 0x7F)]), ("blank", [(0x9, 0x9), (0x20, 0x20)]),
    ("cntrl", [(0x0, 0x1F), (0x7F, 0x7F)]), ("digit", [(0x30, 0x39)]), ("graph", [(0x21, 0x7E)]),
    ("lower", [(0x61, 0x7A)]), ("print", [(0x20, 0x7E)]),
    ("punct", [(0x21, 0x2F), (0x3A, 0x40), (0x5B, 0x60), (0x7B, 0x7E)]),
    ("space", [(0x9, 0xD), (0x20, 0x20)]), ("upper", [(0x41, 0x5A)]), ("word", wordRanges),
    ("xdigit", [(0x30, 0x39), (0x41, 0x46), (0x61, 0x66)])]

/-- The negation, the name and what follows a class that is written with a name. -/
def asciiClass? (cs : List Char) : Option (Bool × Ranges × Nat) :=
  match cs with
  | '[' :: ':' :: cs =>
    let negated := cs.head? == some '^'
    let cs := if negated then cs.tail else cs
    let name := cs.takeWhile (· ≠ ':')
    if (cs.drop name.length).take 2 = [':', ']'] then
      (asciiClasses.lookup (String.ofList name)).map fun rs =>
        (negated, rs, name.length + if negated then 5 else 4)
    else none
  | _ => none

/-- Reads a class that is written with a name, if one stands at the cursor. -/
def readAsciiClass? : ReaderM (Option ClassSet) := do
  match asciiClass? (← get).rest with
  | none => return none
  | some (negated, rs, length) =>
    let start ← here
    (List.range length).forM fun _ => advance
    return some (.ascii (← since start) negated rs)

/-- The items of a set that were read since the last operation. -/
structure Items where
  span : Span
  items : List ClassSet := []

namespace Items

/-- The items with one more. -/
def push (u : Items) (item : ClassSet) : Items :=
  let start := if u.items.isEmpty then item.span.start else u.span.start
  ⟨⟨start, item.span.stop⟩, u.items ++ [item]⟩

/-- The set of all items. -/
def set (u : Items) : ClassSet :=
  match u.items with
  | [] => .empty u.span
  | [item] => item
  | items => .union u.span items

/-- Finishes an operation that waits for its second set. -/
def finish (pending? : Option (SetOperation × ClassSet)) (u : Items) : ClassSet :=
  match pending? with
  | none => u.set
  | some (o, a) => .operation ⟨a.span.start, u.set.span.stop⟩ o a u.set

end Items

/-- The operation that is written as a character twice. -/
def setOperation? (c : Char) : Option SetOperation :=
  match c with
  | '&' => some .intersection
  | '-' => some .difference
  | '~' => some .symmetricDifference
  | _ => none

/-- A bracket that was opened. -/
structure Opened where
  /-- Up to where the bracket begins its set. -/
  span : Span
  negated : Bool
  items : Items

/-- Reads hyphens at the beginning of a set, which stand for themselves. -/
def leadingHyphens (start : Position) : Nat → Items → ReaderM Items
  | 0, u => return u
  | n + 1, u => do
    if (← peek?) ≠ some '-' then return u
    let u := u.push (.literal ⟨'-', ← nextSpan, false⟩)
    next
    if (← peek?).isNone then fail .classOpen (Span.at' start)
    leadingHyphens start n u

/-- Reads an opening bracket, a negation, and what stands for itself at the beginning of a set. -/
def openBracket : ReaderM Opened := do
  let start ← here
  let closeOff : ReaderM Unit := do
    if (← peek?).isNone then fail .classOpen (← since start)
  next
  closeOff
  let negated := (← peek?) == some '^'
  if negated then
    next
    closeOff
  let empty : Items := ⟨← at', []⟩
  let mut u ← leadingHyphens start (← bound) empty
  if u.items.isEmpty ∧ (← peek?) = some ']' then
    u := u.push (.literal ⟨']', ← nextSpan, false⟩)
    next
    closeOff
  return ⟨← since start, negated, u⟩

/-- An atom as a set of characters. -/
def setOf (a : Atom) : ReaderM ClassSet :=
  match a.set? with
  | some s => return s
  | none => fail .classEscape a.span

/-- An atom as an end of a range. -/
def rangeEnd (a : Atom) : ReaderM Literal :=
  match a with
  | .literal l => return l
  | a => fail .classRangeEnd a.span

/-- Reads a character or a range of characters; `opened` is the place of the bracket around it. -/
def setItem (opened : Span) (c : Char) : ReaderM ClassSet := do
  let a ← setAtom c
  skip
  if (← peek?).isNone then fail .classOpen opened
  let behind? ← secondBehindBlanks?
  if (← peek?) ≠ some '-' ∨ behind? = some ']' ∨ behind? = some '-' then setOf a
  else
    next
    match ← peek? with
    | none => fail .classOpen opened
    | some d =>
      let b ← setAtom d
      let first ← rangeEnd a
      let last ← rangeEnd b
      if last.char < first.char then fail .classRange ⟨a.span.start, b.span.stop⟩
      return .range first last

/-- Reads a set up to its closing bracket, at most `fuel` items.  `pending?` is the operation that
    waits for its second set. -/
def bracketBody (opened : Opened) :
    Nat → Option (SetOperation × ClassSet) → Items → ReaderM ClassSet
  | 0, pending?, u => return u.finish pending?
  | fuel + 1, pending?, u => do
    skip
    match ← peek? with
    | none => fail .classOpen opened.span
    | some '[' =>
      match ← readAsciiClass? with
      | some cls => bracketBody opened fuel pending? (u.push cls)
      | none =>
        let inner ← openBracket
        let set ← bracketBody inner fuel none inner.items
        let span ← since inner.span.start
        bracketBody opened fuel pending? (u.push (.bracketed span inner.negated set))
    | some ']' =>
      advance
      return u.finish pending?
    | some c =>
      match setOperation? c, (← second?) == some c with
      | some o, true =>
        advance
        advance
        bracketBody opened fuel (some (o, u.finish pending?)) ⟨← at', []⟩
      | _, _ => bracketBody opened fuel pending? (u.push (← setItem opened.span c))

/-- Reads a set of characters in brackets. -/
def bracketed : ReaderM Node := do
  let opened ← openBracket
  let set ← bracketBody opened (← bound) none opened.items
  return .bracketed (← since opened.span.start) opened.negated set

end TenantSync.Pattern
