import TenantSync.Http.Message
import TenantSync.Session.Call

/-! # The network

A `Network` is what the clients of a run can reach: for every host the answers that it
will give, in order, with a queue of its own for the token endpoint, and a record of the
requests that arrived.  A host whose queue is empty grants a token and knows no other
resource.  When the way to the hosts is cut, no request arrives anywhere.

A request and its `Reply` are one use of the HTTP library, as a client sees it: by then the
library has followed redirects on its own, so they are not among the replies, and a header
value that it cannot send it has refused before, so that request is not among those that
arrived. -/

namespace TenantSync.Http

/-- What the HTTP library gives back for a request that arrives, redirects followed. -/
inductive Reply where
  | answer (r : Response)
  /-- The connection ends without an answer. -/
  | drop
  /-- No answer comes, and the run is told to stop. -/
  | hang
  deriving DecidableEq, Inhabited

/-- The answers that a host will give. -/
structure Host where
  tokens : List Reply := []
  answers : List Reply := []
  deriving Inhabited

/-- The hosts that can be reached, by name, and what arrived at them. -/
structure Network where
  /-- Whether there is a way to the hosts. -/
  up : Bool
  hosts : List (String × Host)
  arrived : List Request := []

namespace Network

/-- The name of the host that stands for all hosts without an entry. -/
def anyHost : String := "*"

/-- A token that is granted when nothing else was prepared. -/
def grantedToken : Response :=
  ⟨⟨200⟩, [], some "\x7b\"access_token\":\"tok\",\"expires_in\":3600\x7d"⟩

/-- The answer when nothing was prepared. -/
def nothingPrepared : Response := ⟨⟨404⟩, [], some "no scripted response"⟩

/-- Whether a request goes to a token endpoint. -/
def asksForToken (r : Request) : Bool :=
  r.method = .post && r.url.path.reverse.take 2 == ["token", "oidc"]

/-- The name under which a host's answers are kept. -/
def entryName (n : Network) (u : Url) : String :=
  if n.hosts.any (·.1 == u.authority) then u.authority else anyHost

/-- The reply of a host and what it has left. -/
def Host.take (h : Host) (token : Bool) : Reply × Host :=
  if token then
    match h.tokens with
    | [] => (.answer grantedToken, h)
    | r :: rest => (r, { h with tokens := rest })
  else
    match h.answers with
    | [] => (.answer nothingPrepared, h)
    | r :: rest => (r, { h with answers := rest })

/-- Delivers a request. -/
def deliver (n : Network) (r : Request) : Reply × Network :=
  let name := n.entryName r.url
  let host := ((n.hosts.find? (·.1 == name)).map (·.2)).getD {}
  let (reply, host) := Host.take host (asksForToken r)
  let hosts := n.hosts.map fun entry => if entry.1 == name then (name, host) else entry
  (reply, { n with hosts, arrived := n.arrived ++ [r] })

/-- A request that is delivered has arrived, whatever the reply. -/
theorem arrived_deliver (n : Network) (r : Request) :
    (n.deliver r).2.arrived = n.arrived ++ [r] := rfl

/-- The number of prepared answers, those of token endpoints left out. -/
def prepared (n : Network) : Nat := (n.hosts.flatMap fun h => h.2.answers).length

end Network

/-- Has the HTTP library send a request once and waits for what it gives back, unless the run is
    told to stop.  Without a way to the host a request fails at once. -/
def exchange (stopped : Cause) (r : Request) : Call Network (Except LinkFault Response) := do
  let n ← Call.world
  if !n.up then return .error .unreachable
  if ← Call.cancelled then Call.fail stopped
  let (reply, n) := n.deliver r
  Call.setWorld n
  match reply with
  | .answer response => return .ok response
  | .drop => return .error .dropped
  | .hang => do
    Call.cancel
    Call.fail stopped

end TenantSync.Http
