import TenantSync.Failure.Cause
import TenantSync.Text.Blank
import TenantSync.Web.Host
import TenantSync.Web.Url

/-! # Reading web addresses

`Address.parse` reads an absolute address and brings it into canonical form: blanks around
it, tabs and line ends are dropped, scheme and host are lower case, the scheme's own port
is left out, dot segments are resolved and every part is percent-encoded as far as it has
to be.  An address with a scheme other than `http` and `https` is only checked.

`Url.ofTenant` reads the address of a tenant: a slash is added at its end, so that the
paths of the service are resolved below the whole path of the tenant. -/

namespace TenantSync.Address

/-- What an absolute address turns out to be. -/
inductive Parsed where
  | web (u : Url)
  | other (scheme : String)

/-- The characters of the end of a line and the tab are dropped wherever they stand. -/
def isDropped (c : Char) : Bool := c = '\t' || c = '\n' || c = '\r'

/-- The text of an address without what is dropped. -/
def strip (s : String) : List Char :=
  (trimList (fun c => c.toNat ≤ 0x20) s.toList).filter fun c => !isDropped c

/-- Whether a character can stand in a scheme. -/
def isSchemeChar (c : Char) : Bool := c.isAlphanum || c = '+' || c = '-' || c = '.'

/-- Splits an address at the colon behind its scheme. -/
def splitScheme? (cs : List Char) : Option (String × List Char) :=
  let name := cs.takeWhile isSchemeChar
  match (name.head?.map Char.isAlpha).getD false, cs.drop name.length with
  | true, ':' :: rest => some (String.ofList (name.map Char.toLower), rest)
  | _, _ => none

/-- Whether a character ends the authority of an address. -/
def endsAuthority (special : Bool) (c : Char) : Bool :=
  c = '/' || c = '?' || c = '#' || (special && c = '\\')

/-- Splits at the last occurrence of a character. -/
def splitLast? (x : Char) (cs : List Char) : Option (List Char × List Char) :=
  let after := cs.reverse.takeWhile (· ≠ x)
  if after.length < cs.length then
    some (cs.take (cs.length - after.length - 1), after.reverse)
  else none

/-- Reads user and password: what stands before the last at sign of the authority. -/
def userinfo (cs : List Char) : String × String :=
  let user := cs.takeWhile (· ≠ ':')
  let encode (part : List Char) := String.ofList (Percent.encode Percent.inUserinfo part)
  (encode user, encode (cs.drop (user.length + 1)))

/-- The characters of a host: up to a colon outside brackets. -/
def hostChars : Bool → List Char → List Char
  | _, [] => []
  | inside, c :: cs =>
    if c = ':' && !inside then []
    else c :: hostChars (c = '[' || (inside && c ≠ ']')) cs

/-- Reads a port behind its colon.  A slash or backslash ends it. -/
def port (acc : Option Nat) : List Char → Except AddressFault (Option Nat)
  | [] => .ok acc
  | c :: cs =>
    match Numeral.digit? c with
    | some d =>
      let n := acc.getD 0 * 10 + d
      if n ≤ 65535 then port (some n) cs else .error .port
    | none => if c = '\\' then .ok acc else .error .port

/-- A host and a port. -/
structure HostPort where
  host : String
  port? : Option Nat

/-- Reads the host and port of an address whose scheme is well known. -/
def specialHost (cs : List Char) : Except AddressFault HostPort := do
  let host := hostChars false cs
  if host.isEmpty then throw .emptyHost
  let text ← Host.parse host
  match cs.drop host.length with
  | ':' :: rest => return ⟨text, ← port none rest⟩
  | _ => return ⟨text, none⟩

/-- Checks the host and port of an address with another scheme. -/
def otherHost (named : Bool) (cs : List Char) : Except AddressFault Unit := do
  let host := hostChars false cs
  Host.check host
  match cs.drop host.length with
  | ':' :: rest =>
    if host.isEmpty then throw .emptyHost
    let _ ← port none rest
  | _ => if host.isEmpty && named then throw .emptyHost

/-! ## Paths -/

/-- A segment that stands for the current directory. -/
def isSingleDot (seg : List Char) : Bool :=
  [".", "%2e"].contains (String.ofList (seg.map Char.toLower))

/-- A segment that stands for the directory above. -/
def isDoubleDot (seg : List Char) : Bool :=
  ["..", "%2e.", ".%2e", "%2e%2e"].contains (String.ofList (seg.map Char.toLower))

/-- A letter and a colon or bar: such a segment is never removed by a double dot. -/
def isDriveLetter (seg : List Char) : Bool :=
  match seg with
  | [a, b] => a.isAlpha && (b = ':' || b = '|')
  | _ => false

/-- The path without its last segment. -/
def parent (path : List (List Char)) : List (List Char) :=
  match path.getLast? with
  | some last => if isDriveLetter last then path else path.dropLast
  | none => path

/-- Resolves the dot segments of a path; the last segment is what stands behind the last
    slash. -/
def resolveDots (done : List (List Char)) : List (List Char) → List (List Char)
  | [] => done ++ [[]]
  | [seg] =>
    if isDoubleDot seg then parent done ++ [[]]
    else if isSingleDot seg then done ++ [[]]
    else done ++ [seg]
  | seg :: next :: rest =>
    if isDoubleDot seg then resolveDots (parent done) (next :: rest)
    else if isSingleDot seg then resolveDots done (next :: rest)
    else resolveDots (done ++ [seg]) (next :: rest)

/-- The segments of a path; a backslash counts as a slash. -/
def segments (cs : List Char) : List (List Char) :=
  let cs := match cs with
    | '/' :: rest => rest
    | '\\' :: rest => rest
    | cs => cs
  (cs.map fun c => if c = '\\' then '/' else c).splitOn '/'

/-- Reads the path of an address. -/
def path (cs : List Char) : List String :=
  (resolveDots [] ((segments cs).map (Percent.encode Percent.inPath))).map String.ofList

/-! ## Whole addresses -/

/-- Reads the authority of an address with a well-known scheme: user, password, host and
    port. -/
def authority (cs : List Char) : Except AddressFault ((String × String) × HostPort) := do
  match splitLast? '@' cs with
  | none => return (("", ""), ← specialHost cs)
  | some (user, rest) =>
    if rest.isEmpty then throw .emptyHost
    return (userinfo user, ← specialHost rest)

/-- The parts of an address behind its authority. -/
structure Tail where
  path : List Char
  query? : Option (List Char)
  fragment? : Option (List Char)

/-- Splits what stands behind the authority. -/
def splitTail (cs : List Char) : Tail :=
  let before := cs.takeWhile (· ≠ '#')
  let path := before.takeWhile (· ≠ '?')
  let behind (part whole : List Char) :=
    if part.length < whole.length then some (whole.drop (part.length + 1)) else none
  ⟨path, behind path before, behind before cs⟩

/-- Reads an address behind the colon of its scheme, if that is well known.  Any number of
    slashes may stand in front. -/
def special (cs : List Char) : Except AddressFault (((String × String) × HostPort) × Tail) := do
  let cs := cs.dropWhile fun c => c = '/' || c = '\\'
  let auth := cs.takeWhile fun c => !endsAuthority true c
  return (← authority auth, splitTail (cs.drop auth.length))

/-- Reads a web address behind the colon of its scheme. -/
def web (scheme : WebScheme) (cs : List Char) : Except AddressFault Url := do
  let (((user, password), host), tail) ← special cs
  let encode (reserved : Char → Bool) (part : List Char) :=
    String.ofList (Percent.encode reserved part)
  return {
    scheme, user, password
    host := host.host
    port? := if host.port? = some scheme.defaultPort then none else host.port?
    path := path tail.path
    query? := tail.query?.map (encode Percent.inQuery)
    fragment? := tail.fragment?.map (encode Percent.inFragment) }

/-- Checks the host of a file address: what stands between two slashes and the path, unless it
    is a drive. -/
def checkFile (cs : List Char) : Except AddressFault Unit :=
  match cs with
  | a :: b :: rest =>
    if (a = '/' || a = '\\') && (b = '/' || b = '\\') then
      let host := rest.takeWhile fun c => !endsAuthority true c
      if host.isEmpty || isDriveLetter host then .ok () else (Host.parse host).map fun _ => ()
    else .ok ()
  | _ => .ok ()

/-- Checks an address with a scheme that is not well known. -/
def checkOther (cs : List Char) : Except AddressFault Unit :=
  match cs with
  | '/' :: '/' :: rest =>
    let auth := rest.takeWhile fun c => !endsAuthority false c
    match splitLast? '@' auth with
    | none => otherHost false auth
    | some (user, host) =>
      if user.isEmpty && host.isEmpty then .error .emptyHost
      else otherHost (userinfo user ≠ ("", "")) host
  | _ => .ok ()

/-- Reads an absolute address. -/
def parse (s : String) : Except AddressFault Parsed :=
  match splitScheme? (strip s) with
  | none => .error .relative
  | some ("http", rest) => (web .http rest).map .web
  | some ("https", rest) => (web .https rest).map .web
  | some ("file", rest) => (checkFile rest).map fun _ => .other "file"
  | some (scheme, rest) =>
    if ["ws", "wss", "ftp"].contains scheme then (special rest).map fun _ => .other scheme
    else (checkOther rest).map fun _ => .other scheme

end TenantSync.Address

namespace TenantSync

/-- The text with a slash at its end. -/
def withSlash (s : String) : String := if s.toList.getLast? = some '/' then s else s ++ "/"

/-- Reads the address of a tenant. -/
def Url.ofTenant (text : String) : Except Fault Url :=
  let trimmed := trim text
  if trimmed.isEmpty then .error (Failure.of .emptyAddress)
  else
    match Address.parse (withSlash trimmed) with
    | .error f => .error ((Failure.of (.address f)).within (.readingAddress text))
    | .ok (.web u) => .ok u
    | .ok (.other scheme) => .error (Failure.of (.unsupported scheme text))

end TenantSync
