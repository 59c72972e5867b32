import TenantSync.Pattern.Reader

/-! # What a written pattern describes

`Node.pattern` gives the pattern of a node under the flags that are set where it stands.
Without further switches a pattern is one of characters in general; of these it knows no
classes and no letters in two cases.  Switched to single bytes it knows those of ASCII, and
must not describe anything that is no text.  `Pattern.ofText` puts reading and meaning
together. -/

namespace TenantSync.Pattern

/-- The switches at a place of a pattern. -/
structure Flags where
  ignoreCase : Bool := false
  multiLine : Bool := false
  dotAll : Bool := false
  unicode : Bool := true
  crlf : Bool := false
  deriving DecidableEq, Repr

/-- The switches behind a group of switches. -/
def Flags.set (f : Flags) (s : Settings) : Flags where
  ignoreCase := (s.get? .ignoreCase).getD f.ignoreCase
  multiLine := (s.get? .multiLine).getD f.multiLine
  dotAll := (s.get? .dotAll).getD f.dotAll
  unicode := (s.get? .unicode).getD f.unicode
  crlf := (s.get? .crlf).getD f.crlf

/-- Fails. -/
def refuse {α : Type} (p : Problem) (span : Span) : Except Fault α := .error ⟨p, span, none⟩

/-! ## Characters -/

/-- The character of a literal.  A byte beyond ASCII is no character. -/
def Literal.value (f : Flags) (l : Literal) : Except Fault Char :=
  if !f.unicode && l.isByte && 0x80 ≤ l.char.toNat then refuse .notUtf8 l.span else .ok l.char

/-- What a literal describes. -/
def Literal.pattern (f : Flags) (l : Literal) : Except Fault Pattern := do
  let c ← l.value f
  if !f.ignoreCase then return .one (.single c)
  else if f.unicode then refuse .noOtherCase l.span
  else if c.isAlpha then return .one (.bothCases (.single c))
  else return .one (.single c)

/-- The character of a literal in brackets. -/
def Literal.member (f : Flags) (l : Literal) : Except Fault Char := do
  let c ← l.value f
  if !f.unicode && 0x80 ≤ c.toNat then refuse .beyondAscii l.span else return c

/-- The characters of a class with a name of one letter. -/
def perlSet (f : Flags) (span : Span) (negated : Bool) (c : PerlClass) : Except Fault CharSet :=
  if f.unicode then refuse .noPerlClass span
  else if negated then refuse .notUtf8 span
  else .ok (.ranges c.ranges)

/-- The name of a property without what makes no difference in it. -/
def plainName (name : String) : String :=
  let cs := name.toList.map Char.toLower
  let cs := if ['i', 's'].isPrefixOf cs then cs.drop 2 else cs
  String.ofList (cs.filter fun c => c.toNat < 0x80 && c ≠ ' ' && c ≠ '_' && c ≠ '-')

/-- What is wrong with a property: no property is known, and three names are those of values. -/
def propertyProblem (f : Flags) (name : String) : Problem :=
  if !f.unicode then .beyondAscii
  else if ["cf", "sc", "lc"].contains (plainName name) then .propertyValueUnknown
  else .propertyUnknown

/-- Adds the letters of the other case.  No set, as of an empty side of an operation, stays
    none. -/
def fold (f : Flags) (span : Span) (s? : Option CharSet) : Except Fault (Option CharSet) :=
  if !f.ignoreCase ∨ s?.isNone then .ok s?
  else if f.unicode then refuse .noOtherCase span
  else .ok (s?.map .bothCases)

/-- The characters outside of a set, if it is negated. -/
def negate (f : Flags) (span : Span) (negated : Bool) (s? : Option CharSet) :
    Except Fault (Option CharSet) :=
  if !negated then .ok s?
  else if f.unicode then .ok (some (.compl (s?.getD (.ranges []))))
  else refuse .notUtf8 span

/-- The characters of both sets. -/
def unite (a? b? : Option CharSet) : Option CharSet :=
  match a?, b? with
  | some a, some b => some (.union a b)
  | some a, none => some a
  | none, b? => b?

/-- The characters that an operation takes from two sets. -/
def SetOperation.apply (a? b? : Option CharSet) : SetOperation → Option CharSet
  | intersection => do return .inter (← a?) (← b?)
  | difference =>
    match a?, b? with
    | some a, some b => some (.inter a (.compl b))
    | a?, _ => a?
  | symmetricDifference =>
    match a?, b? with
    | some a, some b => some (.inter (.union a b) (.compl (.inter a b)))
    | some a, none => some a
    | none, b? => b?

mutual

/-- The characters of a set in brackets. -/
def ClassSet.chars (f : Flags) : ClassSet → Except Fault (Option CharSet)
  | .empty _ => .ok none
  | .literal l => do return some (.single (← l.member f))
  | .range a b => do return some (.ranges [((← a.member f).toNat, (← b.member f).toNat)])
  | .ascii span negated rs => do negate f span negated (← fold f span (some (.ranges rs)))
  | .perl span negated c => do return some (← perlSet f span negated c)
  | .property span name => refuse (propertyProblem f name) span
  | .bracketed span negated set => do negate f span negated (← fold f span (← set.chars f))
  | .union _ items => ClassSet.allChars f items
  | .operation _ o a b => do
    let first? ← a.chars f
    let second? ← b.chars f
    let second? ← fold f b.span second?
    let first? ← fold f a.span first?
    return o.apply first? second?

/-- The characters of several sets. -/
def ClassSet.allChars (f : Flags) : List ClassSet → Except Fault (Option CharSet)
  | [] => .ok none
  | item :: items => do return unite (← item.chars f) (← ClassSet.allChars f items)

end

/-- The set of all characters that a dot stands for. -/
def Flags.dot (f : Flags) : CharSet :=
  .compl (.ranges (if f.dotAll then [] else if f.crlf then [(0xA, 0xA), (0xD, 0xD)]
    else [(0xA, 0xA)]))

/-- The place that an anchor asks for. -/
def Flags.anchor (f : Flags) : Anchor → Anchor
  | .lineStart _ => if f.multiLine then .lineStart f.crlf else .textStart
  | .lineEnd _ => if f.multiLine then .lineEnd f.crlf else .textEnd
  | a => a

/-! ## Parts -/

/-- What a part describes, and whether it asks for words beyond ASCII. -/
structure Described where
  pattern : Pattern
  wordsBeyondAscii : Bool := false
  deriving DecidableEq, Repr

/-- Describes two parts by one pattern. -/
def Described.join (combine : Pattern → Pattern → Pattern) (a b : Described) : Described :=
  ⟨combine a.pattern b.pattern, a.wordsBeyondAscii || b.wordsBeyondAscii⟩

mutual

/-- What a part describes, and the switches behind it. -/
def Node.describe (f : Flags) : Node → Except Fault (Described × Flags)
  | .empty _ => .ok ({ pattern := .empty }, f)
  | .settings _ s => .ok ({ pattern := .empty }, f.set s)
  | .literal l => do return ({ pattern := ← l.pattern f }, f)
  | .dot span =>
    if f.unicode then .ok ({ pattern := .one f.dot }, f) else refuse .notUtf8 span
  | .anchor _ a =>
    .ok (⟨.anchor (f.anchor a), f.unicode && (a matches .word _)⟩, f)
  | .perl span negated c => do return ({ pattern := .one (← perlSet f span negated c) }, f)
  | .property span name => refuse (propertyProblem f name) span
  | .bracketed span negated set => do
    let s? ← negate f span negated (← fold f span (← set.chars f))
    return ({ pattern := .one (s?.getD (.ranges [])) }, f)
  | .repeated _ min max? body => do
    let (d, _) ← body.describe f
    return ({ d with pattern := .repeated min max? d.pattern }, f)
  | .group _ s body => do
    let (d, _) ← body.describe (f.set s)
    return (d, f)
  | .either _ branches => Node.describeAll .either f branches
  | .sequence _ parts => Node.describeAll .seq f parts

/-- What several parts describe; the switches of each hold in those behind it. -/
def Node.describeAll (combine : Pattern → Pattern → Pattern) (f : Flags) :
    List Node → Except Fault (Described × Flags)
  | [] => .ok ({ pattern := .empty }, f)
  | [node] => node.describe f
  | node :: nodes => do
    let (d, f) ← node.describe f
    let (e, f) ← Node.describeAll combine f nodes
    return (d.join combine e, f)

end

/-- The pattern of a text, or what is said about a text that is none. -/
def ofText (text : String) : Except String Pattern :=
  match Node.ofText text >>= Node.describe {} with
  | .error fault => .error (fault.text text)
  | .ok (d, _) =>
    if longest < d.pattern.space then
      .error s!"Compiled regex exceeds size limit of {longest} bytes."
    else if d.wordsBeyondAscii then .error "error building NFA"
    else .ok d.pattern

end TenantSync.Pattern
