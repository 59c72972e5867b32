import TenantSync.Failure.Basic
import TenantSync.Json.Fault
import TenantSync.Tenant.Refusal
import TenantSync.Text.Numeral
import TenantSync.Web.AddressFault

/-! # Why a call to a tenant fails -/

namespace TenantSync

/-- Why a request got no answer. -/
inductive LinkFault where
  /-- No way leads to the host. -/
  | unreachable
  /-- The connection ended without an answer. -/
  | dropped
  deriving DecidableEq, Repr

namespace LinkFault

/-- The outermost explanation of a request that got no answer. -/
def headline (url : Url) : String := s!"error sending request for url ({url.bare})"

/-- The explanation of a link fault, from the outside in. -/
def texts (url : Url) : LinkFault → List String
  | unreachable =>
    [headline url, "client error (Connect)", "tcp connect error",
      "Network is unreachable (os error 101)"]
  | dropped =>
    [headline url, "client error (SendRequest)", "connection closed before message completed"]

end LinkFault

/-- Why one call to a tenant fails. -/
inductive Cause where
  /-- The in-memory tenant refuses. -/
  | refused (r : Refusal)
  /-- A page names a cursor at which the walk cannot go on. -/
  | trail (f : TrailFault)
  /-- A walk asked for more pages than its collection can have. -/
  | endless
  /-- A cursor is no number. -/
  | numeral (f : Numeral.Fault)
  | emptyAddress
  | address (f : AddressFault)
  /-- An address whose scheme does not reach a tenant. -/
  | unsupported (scheme text : String)
  | tokenCancelled (url : Url)
  | requestCancelled (url : Url)
  | waitCancelled
  | tokenRefused (url : Url) (status : Http.Status) (body : String)
  /-- The service does not accept the credentials. -/
  | rejected (method : Http.Method) (url : Url) (status : Http.Status) (body : String)
  /-- The service answers with a status that is no success. -/
  | answered (method : Http.Method) (url : Url) (status : Http.Status) (body : String)
  | link (url : Url) (f : LinkFault)
  | decode (f : Json.Fault)
  /-- The end of a token's lifetime is not a time the clock can show. -/
  | lifetime (seconds : Int)
  /-- A cause that a caller describes in its own words. -/
  | described (text : String)
  deriving DecidableEq

namespace Cause

/-- The explanation of a cause. -/
def explain : Cause → Reason
  | refused r => .plain r.message
  | trail f => .plain f.message
  | endless => .plain "page reported more results than the collection can hold"
  | numeral f => .plain f.message
  | emptyAddress => .plain "Tenant URL is empty"
  | address f => .plain f.message
  | unsupported scheme text => .plain s!"Unsupported URL scheme '{scheme}' in {text}"
  | tokenCancelled url => .plain s!"Token request to {url} cancelled"
  | requestCancelled url => .plain s!"Request to {url} cancelled"
  | waitCancelled => .plain "Cancelled while waiting to retry"
  | tokenRefused url status body =>
    .plain s!"Token request to {url} failed with {status}: {body}"
  | rejected method url status body =>
    .plain s!"{method} {url} was rejected ({status}), check the client credentials: {body}"
  | answered method url status body => .plain s!"{method} {url} returned {status}: {body}"
  | link url f => .foreign .transport (f.texts url)
  | decode f => .foreign .decoder ["error decoding response body", f.message]
  | lifetime seconds => .plain s!"token lifetime of {seconds} seconds is out of range"
  | described text => .plain text

end Cause

instance : Explained Cause := ⟨fun c => [c.explain]⟩

/-- The failure of one call to a tenant. -/
abbrev Fault := Failure Cause

end TenantSync
