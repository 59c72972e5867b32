import TenantSync.Client
import TenantSync.Http.Network
import TenantSync.Http.Resilience
import TenantSync.Text.Blank
import TenantSync.Web.Address
import TenantSync.Web.Form
import TenantSync.Wire.Decode
import TenantSync.Wire.Encode

/-! # Clients of an authorization service

A `Service` is a tenant that is reached over the network.  Lists are read from
`authz/<collection>` page by page, entities are posted to their collection and deleted
under their identifier.  Every request carries a bearer token, which is requested from
`oidc/token` with the client's credentials and kept until shortly before it expires.
Reads are repeated as the retry policy says; a mutation is sent once. -/

namespace TenantSync.Http

/-- What a client authenticates itself with. -/
structure Credentials where
  clientId : String
  clientSecret : String
  deriving DecidableEq

/-- A bearer token and when it expires. -/
structure Token where
  accessToken : String
  expiresAt : Int
  deriving DecidableEq

namespace Token

/-- The lifetime of a token, in seconds, when none is given. -/
def defaultLifetime : Int := 3600

/-- How long before its end, in seconds, a token is no longer used. -/
def margin : Int := 60

/-- Whether a token can still be used with a margin of some seconds. -/
def isValid (t : Token) (now margin : Int) : Bool := now + margin * second < t.expiresAt

end Token

/-- What a client knows of the world: the network and its own token. -/
structure Connection where
  network : Network
  token? : Option Token

/-- The network as a part of a connection. -/
def Connection.networkLens : Lens Connection Network :=
  ⟨Connection.network, fun n c => { c with network := n }⟩

/-- A tenant that is reached over the network. -/
structure Service where
  base : Url
  /-- The tenant as messages show it. -/
  endpoint : String
  credentials : Credentials
  resilience : Resilience

namespace Service

/-- The service at the address of a tenant. -/
def ofAddress (address : String) (credentials : Credentials) (resilience : Resilience) :
    Except Fault Service := do
  let base ← Url.ofTenant address
  return ⟨base, trimRight (· = '/') address, credentials, resilience⟩

variable (s : Service)

/-- Where tokens are requested. -/
def tokenUrl : Url := s.base.join ["oidc", "token"]

/-- The address of a collection. -/
def collectionUrl (collection : String) : Url := s.base.join ["authz", collection]

/-- The address of an entity. -/
def entityUrl (collection : String) (id : Uuid) : Url := s.base.join ["authz", collection, id.text]

/-- The address of a page of a collection. -/
def pageUrl (collection : String) (cursor : Cursor) : Url :=
  let after := if cursor.isBegin then [] else [("starting_after", cursor.value)]
  { s.collectionUrl collection with
    query? := some (Form.encode (after ++ [("limit", toString s.resilience.pageSize)])) }

/-- The line that announces a new client. -/
def announcement : LogLine :=
  ⟨.debug, .http, s!"Using token endpoint {s.tokenUrl} for {s.base}"⟩

/-! ## Tokens -/

/-- Reads the body of an answer. -/
def readBody {α : Type} (d : Json.Decoder α) (r : Response) : Except Json.Fault α :=
  match r.body? with
  | some text => Json.decode d text
  | none => .error .truncated

/-- Sends a request over the connection. -/
def send (stopped : Cause) (r : Request) : Call Connection (Except LinkFault Response) :=
  (exchange stopped r).zoom Connection.networkLens

/-- The request for a token. -/
def tokenRequest : Request :=
  ⟨.post, s.tokenUrl, none, .form [("grant_type", "client_credentials"),
    ("client_id", s.credentials.clientId), ("client_secret", s.credentials.clientSecret)]⟩

/-- Keeps a granted token, if the end of its lifetime can be told. -/
def keepToken (g : Wire.Grant) : Call Connection String := do
  let lifetime := g.expiresIn?.getD Token.defaultLifetime
  match Clock.expiry? (← Call.now) lifetime with
  | none => Call.fail (.lifetime lifetime)
  | some expiresAt => do
    Call.setWorld { (← Call.world) with token? := some ⟨g.accessToken, expiresAt⟩ }
    return g.accessToken

/-- Requests a token. -/
def requestToken : Call Connection String := do
  Call.log .debug .token <|
    s!"Requesting client-credentials token from {s.tokenUrl} " ++
      s!"for client {s.credentials.clientId}"
  match ← send (.tokenCancelled s.tokenUrl) s.tokenRequest with
  | .error f => (Call.fail (.link s.tokenUrl f)).within (.reachingTokenEndpoint s.tokenUrl)
  | .ok r =>
    if r.status.isSuccess then do
      keepToken (← (Call.ofExcept .decode (readBody Wire.grant r)).within .readingToken)
    else Call.fail (.tokenRefused s.tokenUrl r.status (trim r.bodyText))

/-- A token that can still be used: the kept one, or else a new one. -/
def bearer : Call Connection String := do
  match (← Call.world).token? with
  | none => s.requestToken
  | some t =>
    if t.isValid (← Call.now) Token.margin then return t.accessToken
    else do
      Call.log .debug .token s!"Cached token for {s.tokenUrl} expired, refreshing"
      s.requestToken

/-! ## Reading -/

/-- Whether the value of a header can be read as text: it has visible ASCII characters, blanks and
    tabs only. -/
def isPlain (value : String) : Bool :=
  value.toList.all fun c => c == '\t' || (' ' ≤ c && c ≤ '~')

/-- The wait that an answer asks for, in microseconds. -/
def retryAfter? (r : Response) : Option Nat := do
  let value ← (r.header? "retry-after").filter isPlain
  let seconds ← (Numeral.parse Numeral.max64 (trim value)).toOption
  return seconds * 1000000

/-- The wait that the retry policy asks for, in microseconds. -/
def usualWait (attempt : Nat) : Nat := s.resilience.retry.backoff attempt * 1000

/-- The wait before the attempt after an answer, in microseconds. -/
def waitAfter (attempt : Nat) (r : Response) : Nat :=
  match retryAfter? r with
  | some wait => min wait s.resilience.retry.maxDelay
  | none => s.usualWait attempt

/-- Waits before another attempt, unless the run is told to stop. -/
def pause (microseconds : Nat) : Call Connection Unit := do
  if ← Call.cancelled then Call.fail .waitCancelled
  Call.wait microseconds

/-- Asks for an address once. -/
def ask (url : Url) (attempt : Nat) : Call Connection (Except LinkFault Response) := do
  if s.resilience.logRequests then Call.log .debug .http s!"GET {url} (attempt {attempt})"
  let token ← s.bearer
  send (.requestCancelled url) ⟨.get, url, some token, .none⟩

/-- Reads an address; `left` is the number of attempts that may follow this one. -/
def getFrom (url : Url) : Nat → Nat → Call Connection Response
  | 0, attempt => do
    match ← s.ask url attempt with
    | .ok r => return r
    | .error f => (Call.fail (.link url f)).within (.attempting url attempt)
  | left + 1, attempt => do
    match ← s.ask url attempt with
    | .ok r =>
      if s.resilience.retry.retries r.status.code then do
        let wait := s.waitAfter attempt r
        Call.log .warn .http s!"GET {url} returned {r.status}, retrying in {wait / 1000}ms"
        pause wait
        getFrom url left (attempt + 1)
      else return r
    | .error _ => do
      let wait := s.usualWait attempt
      Call.log .warn .http <|
        s!"GET {url} failed: {LinkFault.headline url}, retrying in {wait / 1000}ms"
      pause wait
      getFrom url left (attempt + 1)

/-- Reads an address as often as the retry policy allows. -/
def getWithRetry (url : Url) : Call Connection Response :=
  s.getFrom url (s.resilience.retry.maxAttempts - 1) 1

/-- Passes a successful answer on and makes a failure of any other. -/
def checkStatus (method : Method) (url : Url) (r : Response) : Call Connection Response :=
  if r.status.isSuccess then pure r
  else
    let body := if s.resilience.errorBodies then trim r.bodyText else ""
    if r.status.code = 401 ∨ r.status.code = 403 then
      Call.fail (.rejected method url r.status body)
    else Call.fail (.answered method url r.status body)

/-- Reads one page of a collection. -/
def getPage {α : Type} (collection : String) (d : Json.Decoder α) (cursor : Cursor) :
    Call Connection (Page α) := do
  let url := s.pageUrl collection cursor
  let r ← s.checkStatus .get url (← s.getWithRetry url)
  (Call.ofExcept .decode (readBody (Wire.page d) r)).within (.readingPage collection url)

/-- Reads a collection from a cursor on; `done` are the entities of the pages before. -/
def getRest {α : Type} (collection : String) (d : Json.Decoder α) :
    Nat → Cursor → Trail → List α → Call Connection (List α)
  | 0, _, _, _ => Call.fail .endless
  | bound + 1, cursor, trail, done => do
    let page ← s.getPage collection d cursor
    if page.hasNext then
      let trail ←
        (Call.ofExcept .trail (trail.advance page.next)).within (.paging collection cursor)
      getRest collection d bound page.next trail (done ++ page.entities)
    else return done ++ page.entities

/-- A number of pages that no collection exceeds: every page takes one prepared answer. -/
def pageBound (c : Connection) : Nat := c.network.prepared + 1

/-- Reads a whole collection. -/
def getAll {α : Type} (collection : String) (d : Json.Decoder α) :
    Call Connection (List α) := do
  s.getRest collection d (pageBound (← Call.world)) Cursor.begin Trail.start []

/-! ## Changing -/

/-- The collection of a kind. -/
def collection : Kind → String
  | .objectType => "objecttypes"
  | .object => "objects"
  | .edgeType => "edgetypes"
  | .edge => "edges"

/-- Sends a mutation once. -/
def mutate (method : Method) (url : Url) (body : Body) : Call Connection Response := do
  if s.resilience.logRequests then Call.log .debug .http s!"{method} {url}"
  let token ← s.bearer
  match ← send (.requestCancelled url) ⟨method, url, some token, body⟩ with
  | .error f => (Call.fail (.link url f)).within (.sending method url)
  | .ok r => s.checkStatus method url r

/-- Posts an entity to the collection of its kind and reads what was created. -/
def post {α : Type} (d : Json.Decoder α) (e : Entity) : Call Connection α := do
  let url := s.collectionUrl (collection e.kind)
  let r ← s.mutate .post url (.json (Wire.creation e))
  (Call.ofExcept .decode (readBody d r)).within (.readingCreated url)

/-- Creates an object type. -/
def createObjectType (id : Uuid) (typeName : String) : Call Connection ObjectType :=
  s.post Wire.objectType (.objectType { id, typeName })

/-- Creates an object. -/
def createObject (id typeId : Uuid) (alias? : Option String) : Call Connection Object :=
  s.post Wire.object (.object { id, typeId, alias? })

/-- Creates an edge type. -/
def createEdgeType (id sourceTypeId targetTypeId : Uuid) (typeName : String)
    (attributes : List Attribute) : Call Connection EdgeType :=
  s.post Wire.edgeType (.edgeType { id, typeName, sourceTypeId, targetTypeId, attributes })

/-- Creates an edge. -/
def createEdge (id sourceId targetId edgeTypeId : Uuid) : Call Connection Edge :=
  s.post Wire.edge (.edge { id, edgeTypeId, sourceId, targetId })

/-- Deletes an entity. -/
def delete (k : Kind) (id : Uuid) : Call Connection Unit := do
  let _ ← s.mutate .delete (s.entityUrl (collection k) id) .none

/-- The client of a service. -/
def client : Client Connection where
  endpoint := s.endpoint
  listObjectTypes := s.getAll (collection .objectType) Wire.objectType
  listEdgeTypes := s.getAll (collection .edgeType) Wire.edgeType
  listObjects := s.getPage (collection .object) Wire.object
  listEdges := s.getPage (collection .edge) Wire.edge
  createObjectType := s.createObjectType
  createObject := s.createObject
  createEdgeType := s.createEdgeType
  createEdge := s.createEdge
  delete := s.delete
  pageBound

end Service

end TenantSync.Http
