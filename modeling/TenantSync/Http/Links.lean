import TenantSync.Http.Service

/-! # Two tenants on one network

A run talks to two services over the same network.  Each keeps a token of its own. -/

namespace TenantSync.Http

/-- The network and the tokens of the two clients. -/
structure Links where
  network : Network
  sourceToken? : Option Token := none
  destinationToken? : Option Token := none

namespace Links

/-- The connection of the source's client. -/
def source : Lens Links Connection :=
  ⟨fun l => ⟨l.network, l.sourceToken?⟩,
    fun c l => { l with network := c.network, sourceToken? := c.token? }⟩

/-- The connection of the destination's client. -/
def destination : Lens Links Connection :=
  ⟨fun l => ⟨l.network, l.destinationToken?⟩,
    fun c l => { l with network := c.network, destinationToken? := c.token? }⟩

end Links

end TenantSync.Http
