import TenantSync.Store.Basic
import TenantSync.Text.Numeral
import TenantSync.Text.Utf8
import TenantSync.Web.Percent

/-! # What a store is called

A store is called by the path of its file, or by an address: `file:`, an authority that
nothing depends on, the path, and options behind a question mark.  `Target.ofText` reads
both.  The options say what the store is opened for, and whether it is in a file at all. -/

namespace TenantSync.Store

/-- What a store is opened for. -/
inductive Access where
  | reading
  | writing
  /-- Reading and writing, and creating its file if it is missing. -/
  | creating
  /-- Everything, on a store that is in no file. -/
  | memory
  deriving DecidableEq, Repr

namespace Access

/-- The access that an address names. -/
def ofName? : String → Option Access
  | "ro" => some .reading
  | "rw" => some .writing
  | "rwc" => some .creating
  | "memory" => some .memory
  | _ => none

/-- Whether an access may take the place of another one: what is asked for must not grow, but
    memory allows all and is always allowed. -/
def follows : Access → Access → Bool
  | memory, _ | _, memory | reading, _ | _, creating => true
  | writing, old => old = .writing
  | creating, _ => false

end Access

/-- Where a store is and how it is opened. -/
structure Target where
  path : String
  access : Access := .creating
  /-- Through what its file is reached. -/
  backend? : Option String := none
  /-- Whether its file is taken to stay as it is. -/
  frozen? : Option Bool := none

namespace Target

/-- Ways to reach a file, all alike. -/
def fileBackends : List String := ["unix", "unix-none", "unix-dotfile", "unix-excl"]

/-- The backend that keeps a store in memory. -/
def memoryBackend : String := "memdb"

/-- Whether a store is in no file. -/
def isTransient (t : Target) : Bool :=
  t.path.isEmpty || t.path == ":memory:" || t.access = .memory ||
    t.backend? == some memoryBackend

/-- Whether a store may only be read. -/
def isReadOnly (t : Target) : Bool := t.access = .reading || !t.isTransient && t.frozen?.getD false

/-- The largest number that counts as one in an option. -/
def largest : Nat := 0x7FFFFFFF

/-- Whether the value of an option says yes: a number by its last eight bits, a word by its
    meaning. -/
def saysYes (value : String) : Bool :=
  let leading := value.toList.takeWhile Char.isDigit
  if leading.isEmpty then ["on", "yes", "true"].contains (value.map Char.toLower)
  else
    match Numeral.digits largest 0 leading with
    | .ok n => n % 256 ≠ 0
    | .error _ => false

/-- The text of an encoded piece of an address.  It ends before a zero byte, and bytes that are
    no text are taken one by one. -/
def piece (cs : List Char) : String :=
  let bytes := (Percent.decode cs).takeWhile (· ≠ 0)
  match Utf8.decode bytes with
  | .ok text => text
  | .error _ => String.ofList (bytes.map fun b => Char.ofNat b.toNat)

/-- The characters before the first of a kind and those behind it. -/
def cut (mark : Char) (cs : List Char) : List Char × List Char :=
  (cs.takeWhile (· ≠ mark), (cs.dropWhile (· ≠ mark)).drop 1)

/-- The options of an address by name and value; one without a name says nothing. -/
def options (cs : List Char) : List (String × String) :=
  ((cs.splitOn '&').map fun o => (piece (cut '=' o).1, piece (cut '=' o).2)).filter
    (!·.1.isEmpty)

/-- A target with one more option. -/
def withOption (t : Target) : String × String → Except DatabaseFault Target
  | ("vfs", backend) => .ok { t with backend? := some backend }
  | ("immutable", value) => .ok { t with frozen? := t.frozen?.or (some (saysYes value)) }
  | ("cache", value) =>
    if ["shared", "private"].contains value then .ok t else .error (.unknownCache value)
  | ("mode", value) =>
    match Access.ofName? value with
    | none => .error (.unknownAccess value)
    | some access =>
      if access.follows t.access then .ok { t with access } else .error (.deniedAccess value)
  | _ => .ok t

/-- What stands behind the authority of an address. -/
def behindAuthority : List Char → Except DatabaseFault (List Char)
  | '/' :: '/' :: cs =>
    let authority := String.ofList (cs.takeWhile (· ≠ '/'))
    if ["", "localhost"].contains authority then .ok (cs.dropWhile (· ≠ '/'))
    else .error (.unknownAuthority authority)
  | cs => .ok cs

/-- Checks that there is a backend of that name. -/
def checkBackend (t : Target) : Except DatabaseFault Target :=
  match t.backend? with
  | some backend =>
    if (memoryBackend :: fileBackends).contains backend then .ok t
    else .error (.unknownBackend backend)
  | none => .ok t

/-- Reads an address behind its scheme.  What follows a number sign is left out. -/
def ofAddress (cs : List Char) : Except DatabaseFault Target := do
  let cs := (cut '#' (← behindAuthority cs)).1
  let (path, query) := cut '?' cs
  let t ← (options query).foldlM withOption { path := piece path }
  t.checkBackend

/-- Reads what a store is called. -/
def ofText (text : String) : Except DatabaseFault Target :=
  match text.toList with
  | 'f' :: 'i' :: 'l' :: 'e' :: ':' :: cs => ofAddress cs
  | _ => .ok { path := text }

end Target

end TenantSync.Store
