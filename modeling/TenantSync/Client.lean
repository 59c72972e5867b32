import TenantSync.Graph.Basic
import TenantSync.Session.Call

/-! # Clients

The engine reaches a tenant only through a `Client`: four listings, of which objects and
edges come in pages, a create call for each kind, which passes the caller's identifier on,
and a delete call. -/

namespace TenantSync

/-- Access to one tenant whose state is `σ`. -/
structure Client (σ : Type) where
  /-- The tenant as messages show it. -/
  endpoint : String
  listObjectTypes : Call σ (List ObjectType)
  listEdgeTypes : Call σ (List EdgeType)
  listObjects : Cursor → Call σ (Page Object)
  listEdges : Cursor → Call σ (Page Edge)
  /-- Creates an object type under the given identifier and returns what the tenant made of it, as
      the calls for the other kinds do. -/
  createObjectType : (id : Uuid) → (typeName : String) → Call σ ObjectType
  createObject : (id typeId : Uuid) → (alias? : Option String) → Call σ Object
  createEdgeType : (id sourceTypeId targetTypeId : Uuid) → (typeName : String) →
    (attributes : List Attribute) → Call σ EdgeType
  createEdge : (id sourceId targetId edgeTypeId : Uuid) → Call σ Edge
  delete : Kind → Uuid → Call σ Unit
  /-- A number of pages that no collection of the tenant exceeds. -/
  pageBound : σ → Nat

/-- The client of a tenant that is a part of a larger state. -/
def Client.zoom {σ τ : Type} (l : Lens σ τ) (c : Client τ) : Client σ where
  endpoint := c.endpoint
  listObjectTypes := c.listObjectTypes.zoom l
  listEdgeTypes := c.listEdgeTypes.zoom l
  listObjects cursor := (c.listObjects cursor).zoom l
  listEdges cursor := (c.listEdges cursor).zoom l
  createObjectType id typeName := (c.createObjectType id typeName).zoom l
  createObject id typeId alias? := (c.createObject id typeId alias?).zoom l
  createEdgeType id sourceTypeId targetTypeId typeName attributes :=
    (c.createEdgeType id sourceTypeId targetTypeId typeName attributes).zoom l
  createEdge id sourceId targetId edgeTypeId := (c.createEdge id sourceId targetId edgeTypeId).zoom l
  delete k id := (c.delete k id).zoom l
  pageBound w := c.pageBound (l.get w)

end TenantSync
