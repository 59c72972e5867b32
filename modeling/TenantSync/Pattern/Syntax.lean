import TenantSync.Pattern.Basic
import TenantSync.Pattern.Fault

/-! # How patterns are written

The text of a pattern is read as a `Node`, which keeps every part together with its place
in the text.  What a node describes depends on the flags that are set where it stands;
`Node.pattern` in `TenantSync.Pattern.Meaning` says so. -/

namespace TenantSync.Pattern

/-- The switches in a pattern. -/
inductive Flag where
  | ignoreCase
  | multiLine
  | dotAll
  | swapGreed
  | unicode
  | crlf
  | loose
  deriving DecidableEq, Repr

/-- What a group of switches sets, in the order of the text. -/
abbrev Settings := List (Flag × Bool)

/-- What a group of switches sets a switch to. -/
def Settings.get? (s : Settings) (f : Flag) : Option Bool :=
  (s.find? (·.1 == f)).map (·.2)

/-- A character of a pattern. -/
structure Literal where
  char : Char
  span : Span
  /-- Whether it is written as the two digits of a byte. -/
  isByte : Bool := false
  deriving DecidableEq, Repr

/-- The classes with a name of one letter. -/
inductive PerlClass where
  | digit
  | space
  | word
  deriving DecidableEq, Repr

/-- The characters of a class, among those of ASCII. -/
def PerlClass.ranges : PerlClass → Ranges
  | digit => [(0x30, 0x39)]
  | space => [(0x9, 0xD), (0x20, 0x20)]
  | word => wordRanges

/-- What can be done with two sets of characters. -/
inductive SetOperation where
  | intersection
  | difference
  | symmetricDifference
  deriving DecidableEq, Repr

/-- A set of characters as it is written in brackets. -/
inductive ClassSet where
  | empty (span : Span)
  | literal (l : Literal)
  | range (first last : Literal)
  | ascii (span : Span) (negated : Bool) (rs : Ranges)
  | perl (span : Span) (negated : Bool) (c : PerlClass)
  | property (span : Span) (name : String)
  | bracketed (span : Span) (negated : Bool) (set : ClassSet)
  | union (span : Span) (items : List ClassSet)
  | operation (span : Span) (o : SetOperation) (a b : ClassSet)

/-- The place of a set. -/
def ClassSet.span : ClassSet → Span
  | empty s | ascii s .. | perl s .. | property s _ | bracketed s .. | union s _ | operation s .. =>
    s
  | literal l => l.span
  | range a b => ⟨a.span.start, b.span.stop⟩

/-- A part of a pattern. -/
inductive Node where
  | empty (span : Span)
  | settings (span : Span) (s : Settings)
  | literal (l : Literal)
  | dot (span : Span)
  | anchor (span : Span) (a : Anchor)
  | perl (span : Span) (negated : Bool) (c : PerlClass)
  | property (span : Span) (name : String)
  | bracketed (span : Span) (negated : Bool) (set : ClassSet)
  | repeated (span : Span) (min : Nat) (max? : Option Nat) (body : Node)
  | group (span : Span) (s : Settings) (body : Node)
  | either (span : Span) (branches : List Node)
  | sequence (span : Span) (parts : List Node)

namespace Node

/-- The place of a part. -/
def span : Node → Span
  | empty s | settings s _ | dot s | anchor s _ | perl s .. | property s _ | bracketed s ..
  | repeated s .. | group s .. | either s _ | sequence s _ => s
  | literal l => l.span

/-- Whether a part can be repeated. -/
def isRepeatable : Node → Bool
  | empty _ | settings .. => false
  | _ => true

/-- Parts in a row. -/
def ofParts (span : Span) : List Node → Node
  | [] => empty span
  | [part] => part
  | parts => sequence span parts

end Node

/-! ## Depth -/

/-- How deep parts may stand in each other. -/
def deepest : Nat := 250

/-- Goes a level down. -/
def enter (depth : Nat) (span : Span) : Except Fault Nat :=
  if deepest ≤ depth then .error ⟨.tooDeep deepest, span, none⟩ else .ok (depth + 1)

mutual

/-- Checks how deep the parts of a set stand in each other. -/
def ClassSet.checkDepth (depth : Nat) : ClassSet → Except Fault Unit
  | .bracketed span _ set => do set.checkDepth (← enter depth span)
  | .union span items => do ClassSet.checkDepths (← enter depth span) items
  | .operation span _ a b => do
    let depth ← enter depth span
    a.checkDepth depth
    b.checkDepth depth
  | _ => .ok ()

@[inherit_doc ClassSet.checkDepth]
def ClassSet.checkDepths (depth : Nat) : List ClassSet → Except Fault Unit
  | [] => .ok ()
  | item :: items => do
    item.checkDepth depth
    ClassSet.checkDepths depth items

end

mutual

/-- Checks how deep the parts of a pattern stand in each other. -/
def Node.checkDepth (depth : Nat) : Node → Except Fault Unit
  | .bracketed span _ set => do set.checkDepth (← enter depth span)
  | .repeated span _ _ body => do body.checkDepth (← enter depth span)
  | .group span _ body => do body.checkDepth (← enter depth span)
  | .either span branches => do Node.checkDepths (← enter depth span) branches
  | .sequence span parts => do Node.checkDepths (← enter depth span) parts
  | _ => .ok ()

@[inherit_doc Node.checkDepth]
def Node.checkDepths (depth : Nat) : List Node → Except Fault Unit
  | [] => .ok ()
  | node :: nodes => do
    node.checkDepth depth
    Node.checkDepths depth nodes

end

end TenantSync.Pattern
