import TenantSync.Json.Scan

/-! # Decoding JSON text

A `Decoder` reads a value of one type.  Records are read from a `Shape`: the fields with
their names and readers, and how the filled fields make a value.  A record may be written
with names, in any order and with unknown fields among them, or as a list of its fields in
order; in both forms only optional fields may be missing. -/

namespace TenantSync.Json

/-- Reads a value from the text that is left.  The number bounds every loop. -/
abbrev Decoder (α : Type) := Nat → List Char → Except Fault (α × List Char)

/-- Reads a whole text as one value. -/
def decode {α : Type} (d : Decoder α) (text : String) : Except Fault α := do
  let cs := text.toList
  let (a, rest) ← d (2 * cs.length + 2) cs
  if (skipBlanks rest).isEmpty then return a else throw .malformed

namespace Decoder

/-! ## Scalars -/

/-- Reads a string. -/
def string : Decoder String := fun _ cs =>
  match skipBlanks cs with
  | '"' :: cs => (stringBody cs).map fun (s, rest) => (String.ofList s, rest)
  | cs => .error (wrongForm cs)

/-- Reads a switch. -/
def bool : Decoder Bool := fun _ cs =>
  match skipBlanks cs with
  | 't' :: cs => (word ['r', 'u', 'e'] cs).map fun rest => (true, rest)
  | 'f' :: cs => (word ['a', 'l', 's', 'e'] cs).map fun rest => (false, rest)
  | cs => .error (wrongForm cs)

/-- Keeps a whole number of 64 bits with sign. -/
def int64 : Number → Except Fault Int
  | .whole n => if n < 0x8000000000000000 then .ok n else .error .unexpected
  | .fractional => .error .unexpected

/-- Reads a whole number of 64 bits with sign. -/
def integer : Decoder Int := fun _ cs =>
  let checked (s : Except Fault (Number × List Char)) : Except Fault (Int × List Char) := do
    let (n, rest) ← s
    return (← int64 n, rest)
  match skipBlanks cs with
  | '-' :: cs => checked (number false cs)
  | c :: cs => if isDigit c then checked (number true (c :: cs)) else .error (wrongForm (c :: cs))
  | [] => .error .truncated

/-- Reads a value that may be absent. -/
def nullable {α : Type} (d : Decoder α) : Decoder (Option α) := fun n cs =>
  match skipBlanks cs with
  | 'n' :: cs => (word ['u', 'l', 'l'] cs).map fun rest => (none, rest)
  | cs => (d n cs).map fun (a, rest) => (some a, rest)

/-- Reads a value and makes something else of it, which may be impossible. -/
def refine {α β : Type} (d : Decoder α) (f : α → Option β) : Decoder β := fun n cs => do
  let (a, rest) ← d n cs
  match f a with
  | some b => return (b, rest)
  | none => throw .unexpected

/-- Takes a value of any form as its text. -/
def verbatim : Decoder String := fun n cs => do
  let cs := skipBlanks cs
  let rest ← skip n cs
  return (String.ofList (cs.take (cs.length - rest.length)), rest)

/-! ## Lists -/

/-- Moves to the next item of a list; the first one has no comma before it. -/
def nextItem (first : Bool) (c : Char) (cs : List Char) : Except Fault (List Char) :=
  if first then .ok (c :: cs)
  else if c = ',' then
    match skipBlanks cs with
    | [] => .error .truncated
    | ']' :: _ => .error .malformed
    | cs => .ok cs
  else .error .malformed

/-- Reads items up to the closing bracket. -/
def items {α : Type} (d : Decoder α) (n : Nat) :
    Nat → Bool → List Char → Except Fault (List α × List Char)
  | 0, _, _ => .error .malformed
  | bound + 1, first, cs =>
    match skipBlanks cs with
    | [] => .error .truncated
    | ']' :: cs => .ok ([], cs)
    | c :: cs => do
      let (a, rest) ← d n (← nextItem first c cs)
      let (as, rest) ← items d n bound false rest
      return (a :: as, rest)

/-- Reads a list. -/
def list {α : Type} (d : Decoder α) : Decoder (List α) := fun n cs =>
  match skipBlanks cs with
  | '[' :: cs => items d n n true cs
  | cs => .error (wrongForm cs)

/-! ## Records -/

/-- A field of a record that is collected in `ρ`. -/
structure Field (ρ : Type) where
  name : String
  required : Bool
  isSet : ρ → Bool
  read : Decoder (ρ → ρ)

/-- A record: what is collected from its fields and the value that they make. -/
structure Shape (ρ α : Type) where
  empty : ρ
  fields : List (Field ρ)
  finish : ρ → Option α

section
variable {ρ α : Type}

/-- A field whose value is read by `d`. -/
def Field.of {β : Type} (name : String) (required : Bool) (get : ρ → Option β)
    (put : β → ρ → ρ) (d : Decoder β) : Field ρ where
  name
  required
  isSet r := (get r).isSome
  read n cs := (d n cs).map fun (b, rest) => (put b, rest)

/-- Reads the colon behind a name. -/
def colon (cs : List Char) : Except Fault (List Char) :=
  match skipBlanks cs with
  | [] => .error .truncated
  | ':' :: cs => .ok cs
  | _ => .error .malformed

/-- Reads a member whose name starts here.  No field may be given twice. -/
def member (fields : List (Field ρ)) (n : Nat) (r : ρ) : List Char → Except Fault (ρ × List Char)
  | [] => .error .truncated
  | '"' :: cs => do
    let (name, cs) ← stringBody cs
    match fields.find? fun f => f.name.toList = name with
    | some f =>
      if f.isSet r then throw .unexpected
      let (put, cs) ← f.read n (← colon cs)
      return (put r, cs)
    | none => return (r, ← skip n (← colon cs))
  | _ => .error .malformed

/-- Reads members up to the closing brace. -/
def members (fields : List (Field ρ)) (n : Nat) :
    Nat → Bool → ρ → List Char → Except Fault (ρ × List Char)
  | 0, _, _, _ => .error .malformed
  | bound + 1, first, r, cs =>
    match skipBlanks cs with
    | [] => .error .truncated
    | '}' :: cs => .ok (r, cs)
    | c :: cs => do
      let cs ←
        if first then pure (c :: cs)
        else if c = ',' then pure (skipBlanks cs)
        else throw .malformed
      let (r, cs) ← member fields n r cs
      members fields n bound false r cs

/-- Reads the fields of a record in order up to the closing bracket. -/
def positional (n : Nat) : List (Field ρ) → Bool → ρ → List Char → Except Fault (ρ × List Char)
  | [], _, r, cs =>
    match skipBlanks cs with
    | [] => .error .truncated
    | ']' :: cs => .ok (r, cs)
    | _ => .error .malformed
  | f :: fs, first, r, cs =>
    match skipBlanks cs with
    | [] => .error .truncated
    | ']' :: cs => if (f :: fs).any (·.required) then .error .unexpected else .ok (r, cs)
    | c :: cs => do
      let (put, cs) ← f.read n (← nextItem first c cs)
      positional n fs false (put r) cs

/-- Reads a record in either form. -/
def record (s : Shape ρ α) : Decoder α := fun n cs => do
  let (r, rest) ←
    match skipBlanks cs with
    | '{' :: cs => members s.fields n n true s.empty cs
    | '[' :: cs => positional n s.fields true s.empty cs
    | cs => throw (wrongForm cs)
  match s.finish r with
  | some a => return (a, rest)
  | none => throw .unexpected

end

end Decoder

end TenantSync.Json
