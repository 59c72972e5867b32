/-! # Web addresses

A `Url` is an absolute `http` or `https` address in its canonical parts.  The path is the
list of its segments, so an address whose path ends in a slash is one whose last segment
is empty (`Url.endsWithSlash`); `Url.join` resolves a relative path against such an
address, and `Url.text` writes the canonical form. -/

namespace TenantSync

/-- The two schemes a tenant can be reached by. -/
inductive WebScheme where
  | http
  | https
  deriving DecidableEq, Repr, Inhabited

namespace WebScheme

/-- The scheme as written before the colon. -/
def text : WebScheme → String
  | http => "http"
  | https => "https"

/-- The port that is not written. -/
def defaultPort : WebScheme → Nat
  | http => 80
  | https => 443

end WebScheme

/-- An absolute web address in canonical form; every part is already percent-encoded. -/
structure Url where
  scheme : WebScheme
  user : String := ""
  password : String := ""
  /-- The host as it is written: a domain, a dotted IPv4 address or a bracketed IPv6 one. -/
  host : String
  /-- The port, when it is not the scheme's own. -/
  port? : Option Nat := none
  /-- The segments between the slashes of the path. -/
  path : List String
  query? : Option String := none
  fragment? : Option String := none
  deriving DecidableEq, Inhabited

namespace Url

/-- User and password before the host, if there are any. -/
def credentialsText (u : Url) : String :=
  if u.user.isEmpty && u.password.isEmpty then ""
  else if u.password.isEmpty then s!"{u.user}@"
  else s!"{u.user}:{u.password}@"

/-- Host and, when it is not the scheme's own, port. -/
def authority (u : Url) : String :=
  match u.port? with
  | some p => s!"{u.host}:{p}"
  | none => u.host

/-- The path with its leading slash. -/
def pathText (u : Url) : String := String.join (u.path.map fun s => s!"/{s}")

/-- The canonical text of an address. -/
def text (u : Url) : String :=
  let query := match u.query? with
    | some q => s!"?{q}"
    | none => ""
  let fragment := match u.fragment? with
    | some f => s!"#{f}"
    | none => ""
  s!"{u.scheme.text}://{u.credentialsText}{u.authority}{u.pathText}{query}{fragment}"

instance : ToString Url := ⟨text⟩

/-- The address without user and password. -/
def bare (u : Url) : Url := { u with user := "", password := "" }

/-- The path ends in a slash. -/
def endsWithSlash (u : Url) : Prop := u.path.getLast? = some ""

/-- Resolves a relative path: its segments replace the last one, and query and fragment
    are dropped. -/
def join (u : Url) (segments : List String) : Url :=
  { u with path := u.path.dropLast ++ segments, query? := none, fragment? := none }

end Url

end TenantSync
