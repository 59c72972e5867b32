import TenantSync.Pattern.Brackets
import TenantSync.Text.Alphanumeric

/-! # Reading patterns

`Node.ofText` reads the text of a pattern.  The first problem in reading order decides;
how deep the parts stand in each other is looked at when all was read. -/

namespace TenantSync.Pattern

open ReaderM

/-! ## Groups -/

/-- The switch of a letter. -/
def flag? (c : Char) : Option Flag :=
  match c with
  | 'i' => some .ignoreCase
  | 'm' => some .multiLine
  | 's' => some .dotAll
  | 'U' => some .swapGreed
  | 'u' => some .unicode
  | 'R' => some .crlf
  | 'x' => some .loose
  | _ => none

/-- Reads switches up to the colon or parenthesis behind them.  `minus?` is the place of the minus
    sign that turns switches off, and `done` are the switches so far with their places. -/
def settings (minus? : Option Span) (done : List (Flag × Bool × Span)) :
    Nat → ReaderM Settings
  | 0 => return []
  | n + 1 => do
    match ← peek? with
    | none => fail .flagEnds (← at')
    | some c =>
      let span ← nextSpan
      if c = ':' ∨ c = ')' then
        match minus?, done.getLast? with
        | some minus, some (_, true, _) | some minus, none => fail .flagNothingNegated minus
        | _, _ => return done.map fun (f, on, _) => (f, on)
      else if c = '-' then
        if let some minus := minus? then throw ⟨.flagTwiceNegated, span, some minus⟩
        advance
        settings (some span) done n
      else
        match flag? c with
        | none => fail .flagUnknown span
        | some f =>
          if let some (_, _, first) := done.find? (·.1 == f) then
            throw ⟨.flagTwice, span, some first⟩
          advance
          settings minus? (done ++ [(f, minus?.isNone, span)]) n

/-- Whether a character can stand in the name of a group. -/
def isInGroupName (first : Bool) (c : Char) : Bool :=
  c = '_' || if first then isAlphabetic c else ".[]".toList.contains c || isAlphanumeric c

/-- Reads the name of a group behind its opening bracket. -/
def groupName : ReaderM Unit := do
  let start ← here
  let cs := (← get).rest.takeWhile (· ≠ '>')
  let wrong :=
    if cs.head?.any (isInGroupName true) then cs.tail.dropWhile (isInGroupName false) else cs
  let name := cs.take (cs.length - wrong.length)
  name.forM fun _ => advance
  if !wrong.isEmpty then fail .nameCharacter (← nextSpan)
  if (← peek?).isNone then fail .nameEnds (← at')
  let span ← since start
  advance
  if name.isEmpty then fail .nameEmpty (Span.at' start)
  if let some other := (← get).names.lookup name then throw ⟨.nameTwice, span, some other⟩
  modify fun s => { s with names := s.names ++ [(name, span)] }

/-- What an opening parenthesis begins. -/
inductive GroupStart where
  /-- Switches that are set up to the end of the group around them. -/
  | settings (span : Span) (s : Settings)
  /-- A group, with switches that are set inside of it. -/
  | group (s : Settings)

/-- The beginnings of groups that look around. -/
def lookArounds : List String := ["?=", "?!", "?<=", "?<!"]

/-- Reads what an opening parenthesis begins. -/
def groupStart : ReaderM GroupStart := do
  let start ← nextSpan
  next
  if ← lookArounds.anyM accept then fail .lookAround (← since start.start)
  let inner ← at'
  if ← ["?P<", "?<"].anyM accept then
    groupName
    return .group []
  else if ← accept "?" then
    if (← peek?).isNone then fail .groupOpen start
    let set ← settings none [] (← bound)
    let last? ← peek?
    advance
    if last? = some ')' then
      if set.isEmpty then fail .nothingRepeated inner
      return .settings (← since start.start) set
    else return .group set
  else return .group []

/-! ## Repetitions -/

/-- Passes over a question mark, which says which of several matches is taken. -/
def passGreed : ReaderM Unit := do
  if (← peek?) = some '?' then advance

/-- The parts without the last one, and that one, if it can be repeated. -/
def lastPart (parts : List Node) : ReaderM (List Node × Node) := do
  match parts.getLast? with
  | some last =>
    if last.isRepeatable then return (parts.dropLast, last) else fail .nothingRepeated (← at')
  | none => fail .nothingRepeated (← at')

/-- Reads how often a part is repeated: the sign, or the numbers between braces. -/
def count (c : Char) : ReaderM (Nat × Option Nat) := do
  let start ← here
  if c ≠ '\x7b' then
    advance
    passGreed
    return if c = '?' then (0, some 1) else if c = '*' then (0, none) else (1, none)
  else
    let closeOff : ReaderM Unit := do
      if (← peek?).isNone then fail .countOpen (← since start)
    next
    closeOff
    let min ← decimal
    closeOff
    let (min, max?) ← if (← peek?) = some ',' then do
        next
        closeOff
        if (← peek?) = some '\x7d' then pure (← liftExcept min, none)
        else
          let min ← liftExcept min
          pure (min, some (← liftExcept (← decimal)))
      else do
        let n ← liftExcept min
        pure (n, some n)
    if (← peek?) ≠ some '\x7d' then fail .countOpen (← since start)
    next
    passGreed
    if max?.any (· < min) then fail .countOrder (← since start)
    return (min, max?)
where
  liftExcept (x : Except Fault Nat) : ReaderM Nat := fun s => x.map (·, s)

/-! ## Whole patterns -/

/-- The parts that were read since the last opening parenthesis: finished branches, and the parts of
    the branch that is not finished. -/
structure Branches where
  /-- The place where the group begins. -/
  start : Position
  done : List Node := []
  /-- The place where the branch begins. -/
  branch : Position
  parts : List Node := []

namespace Branches

/-- Nothing was read since a place. -/
def from' (p : Position) : Branches := { start := p, branch := p }

/-- One more part of the branch. -/
def push (b : Branches) (n : Node) : Branches := { b with parts := b.parts ++ [n] }

/-- The branch ends at a place. -/
def branchNode (b : Branches) (stop : Position) : Node :=
  Node.ofParts ⟨b.branch, stop⟩ b.parts

/-- All branches. -/
def node (b : Branches) (stop : Position) : Node :=
  match b.done with
  | [] => b.branchNode stop
  | done => .either ⟨b.start, stop⟩ (done ++ [b.branchNode stop])

end Branches

/-- Reads parts up to the end of a group, or of the pattern if no group is open; at most `fuel`
    parts. -/
def parts (open? : Option Span) : Nat → Branches → ReaderM Node
  | 0, b => return b.node (← here)
  | fuel + 1, b => do
    skip
    match ← peek? with
    | none =>
      match open? with
      | some span => fail .groupOpen span
      | none => return b.node (← here)
    | some ')' =>
      if open?.isNone then fail .groupNotOpen (← nextSpan)
      return b.node (← here)
    | some '|' =>
      let stop ← here
      advance
      let place ← here
      parts open? fuel
        { b with done := b.done ++ [b.branchNode stop], branch := place, parts := [] }
    | some '[' => parts open? fuel (b.push (← bracketed))
    | some '(' =>
      let start ← nextSpan
      let loose := (← get).loose
      match ← groupStart with
      | .settings span s =>
        modify fun c => { c with loose := (s.get? .loose).getD loose }
        parts open? fuel (b.push (.settings span s))
      | .group s =>
        modify fun c => { c with loose := (s.get? .loose).getD loose }
        let body ← parts (some start) fuel (.from' (← here))
        modify fun c => { c with loose }
        advance
        parts open? fuel (b.push (.group (← since start.start) s body))
    | some c =>
      if "?*+\x7b".toList.contains c then
        let (before, last) ← lastPart b.parts
        let (min, max?) ← count c
        let node := .repeated ⟨last.span.start, ← here⟩ min max? last
        parts open? fuel { b with parts := before ++ [node] }
      else parts open? fuel (b.push (← atom c).node)

/-- Reads the text of a pattern. -/
def Node.ofText (text : String) : Except Fault Node := do
  let cs := text.toList
  let (node, _) ← (parts none (cs.length + 1) (.from' {})).run { rest := cs }
  node.checkDepth 0
  return node

end TenantSync.Pattern
