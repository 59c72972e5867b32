import TenantSync.Failure.Basic
import TenantSync.Machine.Basic
import TenantSync.Secret.Location
import TenantSync.Session.Log
import TenantSync.Text.Base64
import TenantSync.Text.Blank

/-! # Reading secrets

`Location.resolve` reads the secret at a location: from the location itself, from an
environment variable or from a file of a mounted volume. -/

namespace TenantSync

namespace Secret

/-- Why a secret cannot be read. -/
inductive Fault where
  /-- The location has the marker of no scheme. -/
  | unknownScheme
  | unsetVariable
  | emptyVariable (name : String)
  | base64 (f : Base64.Fault)
  | notText (f : Utf8.Fault)
  | file (f : OsFault)
  /-- The location is in a vault that this program does not reach. -/
  | unsupported (path : String)
  deriving DecidableEq, Repr

/-- The wording of a fault. -/
def Fault.message : Fault → String
  | unknownScheme =>
    "Invalid secret prefix, expected one of: " ++ ", ".intercalate (Scheme.all.map Scheme.marker)
  | unsetVariable => "environment variable not found"
  | emptyVariable name => s!"Secret from environment variable {name} is empty"
  | base64 f => f.message
  | notText f => f.message
  | file f => f.message
  | unsupported path =>
    s!"AWS Secrets Manager is not supported by this build (secret {path}); " ++
      "use env://, kube://secrets/ or dev-literal://"

instance : Explained Fault := ⟨fun f => [.plain f.message]⟩

/-- An attempt to read a secret. -/
abbrev Reading (α : Type) := Except (Failure Fault) α

/-- Makes a failure of a fault. -/
def Reading.ofExcept {ε α : Type} (fault : ε → Fault) (r : Except ε α) : Reading α :=
  r.mapError fun e => Failure.of (fault e)

/-! ## Mounted volumes -/

/-- Where secrets are mounted when nothing else is said. -/
def defaultMount : String := "/var/run/secrets/userclouds"

/-- The variable that says where secrets are mounted. -/
def mountVariable : String := "UC_KUBE_SECRETS_DIR"

/-- Where secrets are mounted. -/
def mount (m : Machine) : String := (m.nonEmpty? mountVariable).getD defaultMount

/-- The name under which the secret of a path is mounted. -/
def mountedName (path : String) : String :=
  String.ofList (path.toList.map fun c => if c = '_' then '-' else if c = '/' then '.' else c)

/-- The file of a mounted secret. -/
def mountedFile (mount path : String) : String :=
  Path.join (Path.join mount (mountedName path)) "value"

/-- Whether a character ends a line. -/
def endsLine (c : Char) : Bool := c = '\r' || c = '\n'

/-! ## The schemes -/

/-- Reads the secret that a scheme keeps at a path. -/
def read (m : Machine) (path : String) : Scheme → Reading String
  | .aws => throw (Failure.of (.unsupported path))
  | .dev => do
    let bytes ← Failure.during .decodingSecret <|
      Reading.ofExcept .base64 (Base64.decode path.toUTF8.toList)
    Failure.during .decodingSecretText (Reading.ofExcept .notText (Utf8.decode bytes))
  | .devLiteral => return path
  | .kubernetes => do
    let file := mountedFile (mount m) path
    let text ← Failure.during (.readingMountedSecret (mountedName path) file) <|
      Reading.ofExcept .file (m.readText file)
    return trimRight endsLine text
  | .env =>
    match m.lookup? path with
    | none => Failure.during (.readingVariable path) (throw (Failure.of .unsetVariable))
    | some value => if value.isEmpty then throw (Failure.of (.emptyVariable path)) else return value

namespace Location

/-- The scheme of a location and what stands behind the marker. -/
def parts (l : Location) : Reading (Scheme × String) :=
  match Scheme.of? l.text with
  | some s => return (s, (s.value? l.text).getD l.text)
  | none => throw (Failure.of .unknownScheme)

/-- Checks that a location has a scheme, unless it is that of no secret. -/
def validate (l : Location) : Reading Unit := do
  if !l.isEmpty then
    let _ ← l.parts

/-- Reads the secret at a location. -/
def resolve (l : Location) (m : Machine) : Reading String :=
  if l.isEmpty then return ""
  else do
    let (scheme, path) ← l.parts
    Failure.during (.resolvingSecret scheme) (read m path scheme)

/-- What reading the secret at a location writes to the log. -/
def notices (l : Location) (m : Machine) : List LogLine :=
  match l.parts with
  | .ok (.kubernetes, path) =>
    [⟨.debug, .secret,
      s!"Reading kubernetes secret {mountedName path} from {mountedFile (mount m) path}"⟩]
  | _ => []

end Location

end Secret

end TenantSync
