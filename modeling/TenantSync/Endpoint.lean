import TenantSync.Http.Service
import TenantSync.Secret.Resolve
import TenantSync.Store.Basic
import TenantSync.Sync.Phase
import TenantSync.Text.Quoted

/-! # Endpoints

An endpoint is the address of a tenant with the credentials to reach it.  `Endpoint.resolve`
puts it together: what is given explicitly wins over the saved context, and a secret in the
environment over a saved one. -/

namespace TenantSync

/-- What is said explicitly about one side of a run. -/
structure EndpointFlags where
  context? : Option String := none
  url? : Option String := none
  clientId? : Option String := none
  /-- The environment variable that may hold the client secret. -/
  secretVariable : String := "UC_CLIENT_SECRET"
  deriving DecidableEq, Repr

/-- The address of a tenant and the credentials to reach it. -/
structure Endpoint where
  url : String
  credentials : Http.Credentials
  deriving DecidableEq

namespace Endpoint

/-- Why an endpoint cannot be put together. -/
inductive Fault where
  | noAddress (side : Side)
  | noClientId (side : Side)
  | noSecret (side : Side) (variableName : String)
  | address (c : Cause)
  | secret (f : Secret.Fault)
  deriving DecidableEq

/-- The explanation of a fault. -/
def Fault.explain : Fault → Reason
  | noAddress side => .plain s!"Missing {side} URL: pass --{side}-url or --{side} <context>"
  | noClientId side =>
    .plain s!"Missing {side} client id: pass --{side}-client-id or --{side} <context>"
  | noSecret side variableName =>
    .plain <|
      s!"Missing {side} client secret: set ${variableName} or save one in a context " ++
        s!"(--{side} <context>)"
  | address c => c.explain
  | secret f => .plain f.message

instance : Explained Fault := ⟨fun f => [f.explain]⟩

section
variable (side : Side) (flags : EndpointFlags) (context? : Option Store.SavedContext)

/-- The address of the side. -/
def address : Except (Failure Fault) String := do
  let given := flags.url?.filter fun u => !isBlankText u
  match given.or (context?.map (·.url)) with
  | none => throw (Failure.of (.noAddress side))
  | some url =>
    match Url.ofTenant url with
    | .ok _ => return url
    | .error f => Failure.during (.checkingAddress side) (throw (f.map .address))

/-- The client that the side is reached as. -/
def clientId : Except (Failure Fault) String :=
  let given := flags.clientId?.filter fun id => !isBlankText id
  match (given.or (context?.map (·.clientId))).filter (!·.isEmpty) with
  | none => .error (Failure.of (.noClientId side))
  | some id => .ok id

/-- The place of the saved secret. -/
def savedSecret? : Option Secret.Location :=
  (context?.map (·.clientSecret)).filter (!·.isEmpty)

/-- The secret in the environment. -/
def givenSecret? (lookup : String → Option String) : Option String :=
  (lookup flags.secretVariable).filter (!·.isEmpty)

/-- The client secret of the side. -/
def clientSecret (lookup : String → Option String) (m : Machine) :
    Except (Failure Fault) String :=
  match givenSecret? flags lookup with
  | some secret => .ok secret
  | none =>
    match savedSecret? context? with
    | none => .error (Failure.of (.noSecret side flags.secretVariable))
    | some location =>
      Failure.during (.resolvingStoredSecret side) <|
        (location.resolve m).mapError fun f => f.map .secret

/-- Puts the endpoint of a side together.  The environment is looked up through `lookup`; a
    saved secret is read from the machine. -/
def resolve (lookup : String → Option String) (m : Machine) :
    Except (Failure Fault) Endpoint := do
  let url ← address side flags context?
  let clientId ← clientId side flags context?
  let clientSecret ← clientSecret side flags context? lookup m
  return ⟨url, ⟨clientId, clientSecret⟩⟩

/-- What putting an endpoint together writes to the log. -/
def notices (lookup : String → Option String) (m : Machine) : List LogLine :=
  match address side flags context?, clientId side flags context?, givenSecret? flags lookup,
      savedSecret? context? with
  | .ok _, .ok _, none, some location => location.notices m
  | _, _, _, _ => []

end

/-- An endpoint for a reader who must not see the secret. -/
def describe (e : Endpoint) : String :=
  "ResolvedEndpoint \x7b url: " ++ Quoted.quoted e.url ++
    ", credentials: CredentialSet \x7b client_id: " ++ Quoted.quoted e.credentials.clientId ++
    ", client_secret: SecretBox<str>([REDACTED]) \x7d \x7d"

end Endpoint

end TenantSync
