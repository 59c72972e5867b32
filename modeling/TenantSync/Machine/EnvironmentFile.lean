import TenantSync.Machine.Basic
import TenantSync.Text.Alphanumeric
import TenantSync.Text.Blank

/-! # Environment files

An environment file assigns values to variables.  A value may stand in quotes, in which
case it may go over several lines; outside single quotes a dollar sign stands for the value
of a variable.  `EnvironmentFile.load` sets the variables of the nearest file that are not
set yet; the first line that is not understood ends it. -/

namespace TenantSync

namespace EnvironmentFile

/-- The name of an environment file. -/
def fileName : String := ".env"

/-! ## Lines -/

/-- Where a character of a line stands. -/
inductive Context where
  | plain
  | blank
  | escaped
  | single
  | singleEscaped
  | double
  | doubleEscaped
  deriving DecidableEq, Repr

/-- Where the character behind another one stands. -/
def Context.next : Context → Char → Context
  | escaped, _ => plain
  | doubleEscaped, _ => double
  | singleEscaped, _ => single
  | double, c => if c = '\\' then doubleEscaped else if c = '"' then plain else double
  | single, c => if c = '\\' then singleEscaped else if c = '\'' then plain else single
  | here, c =>
    if c = '\\' then escaped
    else if c = '"' then double
    else if c = '\'' then single
    else if here = plain ∧ isWhiteSpace c ∧ c ≠ '\n' ∧ c ≠ '\r' then blank
    else plain

/-- Goes through a line.  Returns the line up to a comment, and where it ended if there is
    none. -/
def scan : Context → List Char → List Char × Option Context
  | here, [] => ([], some here)
  | here, c :: cs =>
    if here = .blank ∧ c = '#' then ([], none)
    else
      let (kept, rest) := scan (here.next c) cs
      (c :: kept, rest)

/-- The line without the characters that end it. -/
def withoutEnd (cs : List Char) : List Char :=
  match cs.reverse with
  | '\n' :: '\r' :: rest => rest.reverse
  | '\n' :: rest => rest.reverse
  | _ => cs

/-- Whether nothing but a comment stands in a line. -/
def isComment (cs : List Char) : Bool := (cs.dropWhile isWhiteSpace).head? == some '#'

/-- Joins lines as long as a quoted value is not closed.  The value of a line that is not text,
    or that is not closed at the end, is none. -/
def joined (before : List Char) (here : Context) :
    List (Option (List Char)) → List (Option (List Char))
  | [] => if here = .plain then [] else [none]
  | none :: _ => [none]
  | some line :: rest =>
    if isComment (before ++ line) then joined [] .plain rest
    else
      let (kept, here?) := scan here line
      match here? with
      | none => some (before ++ kept) :: joined [] .plain rest
      | some .plain => some (withoutEnd (before ++ line)) :: joined [] .plain rest
      | some open' => joined (before ++ line) open' rest

/-- Cuts bytes behind each end of a line. -/
def byteLines : List UInt8 → List (List UInt8)
  | [] => []
  | b :: bs =>
    if b = 10 then [b] :: byteLines bs
    else
      match byteLines bs with
      | [] => [[b]]
      | line :: rest => (b :: line) :: rest

/-- The byte order mark. -/
def byteOrderMark : List UInt8 := [0xEF, 0xBB, 0xBF]

/-- The lines of a file. -/
def lines (bytes : List UInt8) : List (Option (List Char)) :=
  let bytes := if byteOrderMark.isPrefixOf bytes then bytes.drop 3 else bytes
  joined [] .plain ((byteLines bytes).map fun line => (Utf8.decode line).toOption.map String.toList)

/-! ## Assignments -/

/-- How the next character of a value is taken. -/
inductive Mode where
  | text
  | escaped
  | single
  /-- The name of a variable behind a dollar sign. -/
  | name
  /-- The name of a variable in braces. -/
  | braced
  /-- The value is over; only a comment may follow. -/
  | over
  deriving DecidableEq, Repr

/-- What was read of a value. -/
structure Reading where
  mode : Mode := .text
  /-- Whether double quotes are open. -/
  double : Bool := false
  /-- The name of a variable, as far as it was read. -/
  name : List Char := []
  output : List Char := []
  deriving DecidableEq, Repr

namespace Reading

/-- The reading with a character more in the output. -/
def push (r : Reading) (c : Char) : Reading := { r with mode := .text, output := r.output ++ [c] }

/-- The reading with the value of the named variable in the output. -/
def expand (lookup : String → String) (r : Reading) : Reading :=
  { r with
    mode := .text
    name := []
    output := r.output ++ (lookup (String.ofList r.name)).toList }

/-- The value that was read, if it is closed. -/
def close (lookup : String → String) (r : Reading) : Option String :=
  if r.mode = .braced ∨ r.mode = .single ∨ r.double then none
  else some (String.ofList (r.expand lookup).output)

end Reading

/-- The character that an escaped one stands for. -/
def escaped? (c : Char) : Option Char :=
  if c = 'n' then some '\n'
  else if c = '\\' ∨ c = '\'' ∨ c = '"' ∨ c = '$' ∨ c = ' ' then some c
  else none

/-- Reads a value. -/
def value (lookup : String → String) (r : Reading) : List Char → Option String
  | [] => r.close lookup
  | c :: cs =>
    match r.mode with
    | .over =>
      if c = ' ' ∨ c = '\t' then value lookup r cs
      else if c = '#' then r.close lookup
      else none
    | .escaped =>
      match escaped? c with
      | some d => value lookup (r.push d) cs
      | none => none
    | .single =>
      if c = '\'' then value lookup { r with mode := .text } cs
      else value lookup { r with output := r.output ++ [c] } cs
    | .name =>
      if isAlphanumeric c then value lookup { r with name := r.name ++ [c] } cs
      else if c = '\x7b' ∧ r.name.isEmpty then value lookup { r with mode := .braced } cs
      else if c = '$' then value lookup { r.expand lookup with mode := .name } cs
      else value lookup ((r.expand lookup).push c) cs
    | .braced =>
      if c = '\x7d' then value lookup (r.expand lookup) cs
      else value lookup { r with name := r.name ++ [c] } cs
    | .text =>
      if c = '$' then value lookup { r with mode := .name } cs
      else if c = '\\' then value lookup { r with mode := .escaped } cs
      else if c = '"' then value lookup { r with double := !r.double } cs
      else if r.double then value lookup (r.push c) cs
      else if c = '\'' then value lookup { r with mode := .single } cs
      else if c = ' ' ∨ c = '\t' then value lookup { r with mode := .over } cs
      else value lookup (r.push c) cs

/-- What a line says. -/
inductive Line where
  | blank
  | assignment (name value : String)
  | broken
  deriving DecidableEq, Repr

/-- Whether nothing more is said from here on. -/
def isOver (cs : List Char) : Bool := cs.isEmpty || cs.head? == some '#'

/-- The text without white space in front. -/
def skip (cs : List Char) : List Char := cs.dropWhile isWhiteSpace

/-- Reads the name of a variable and skips the white space behind it. -/
def name? (cs : List Char) : Option (String × List Char) :=
  match cs with
  | c :: _ =>
    if c.isAlpha || c = '_' then
      let inside (d : Char) := d.isAlphanum || d = '_' || d = '.'
      some (String.ofList (cs.takeWhile inside), skip (cs.dropWhile inside))
    else none
  | [] => none

/-- Reads the value of a variable behind the equals sign. -/
def assigned (lookup : String → String) (name : String) : List Char → Line
  | '=' :: cs =>
    let cs := skip cs
    if isOver cs then .assignment name ""
    else
      match value lookup {} cs with
      | some text => .assignment name text
      | none => .broken
  | _ => .broken

/-- Reads a line.  The word `export` in front of an assignment means nothing. -/
def parseLine (lookup : String → String) (line : List Char) : Line :=
  let cs := trimList isWhiteSpace line
  if isOver cs then .blank
  else
    match name? cs with
    | none => .broken
    | some (name, rest) =>
      if name = "export" ∧ rest.head? ≠ some '=' then
        match name? rest with
        | some (name, rest) => assigned lookup name rest
        | none => .broken
      else assigned lookup name rest

/-! ## Loading -/

/-- Carries lines out. -/
def apply (m : Machine) : List (Option (List Char)) → Machine
  | [] => m
  | none :: _ => m
  | some line :: rest =>
    match parseLine (fun name => (m.lookup? name).getD "") line with
    | .blank => apply m rest
    | .broken => m
    | .assignment name text =>
      apply (if (m.lookup? name).isSome then m else m.withVariable name text) rest

/-- The bytes of the nearest file of a name, in a directory or above it. -/
def nearest? (t : FileTree) (name : String) (directory : Place) : Option (List UInt8) :=
  ((List.range (directory.length + 1)).reverse).findSome? fun n =>
    match t.node? (directory.take n ++ [name]) with
    | some (.file bytes) => some bytes
    | _ => none

/-- Sets the variables of the nearest environment file that are not set yet. -/
def load (m : Machine) : Machine :=
  match nearest? m.files fileName m.directory with
  | some bytes => apply m (lines bytes)
  | none => m

end EnvironmentFile

end TenantSync
