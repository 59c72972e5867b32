import TenantSync.Graph.Kind
import TenantSync.Uuid

/-! # Why an in-memory tenant refuses a call -/

namespace TenantSync

/-- A broken rule of the graph, or an injected failure. -/
inductive Refusal where
  | cancelled
  | listing (k : Kind)
  | injected (id : Uuid)
  | typeNameTaken (name : String)
  | noObjectType (id : Uuid)
  | objectConflict (id : Uuid)
  | edgeTypeExists (id : Uuid)
  | noEdgeType (id : Uuid)
  | noObject (id : Uuid)
  | edgeExists (id : Uuid)
  | typeHasObjects (id : Uuid)
  | typeHasEdgeTypes (id : Uuid)
  | objectHasEdges (id : Uuid)
  | edgeTypeHasEdges (id : Uuid)
  | notFound (id : Uuid)
  deriving DecidableEq, Repr

/-- The wording of a refusal. -/
def Refusal.message : Refusal → String
  | cancelled => "cancelled"
  | listing k => s!"listing {k.plural} failed"
  | injected id => s!"injected failure for {id}"
  | typeNameTaken name => s!"object type {name} already exists"
  | noObjectType id => s!"object type {id} does not exist"
  | objectConflict id => s!"object {id} conflicts with an existing object"
  | edgeTypeExists id => s!"edge type {id} already exists"
  | noEdgeType id => s!"edge type {id} does not exist"
  | noObject id => s!"object {id} does not exist"
  | edgeExists id => s!"edge {id} already exists"
  | typeHasObjects id => s!"object type {id} still has objects"
  | typeHasEdgeTypes id => s!"object type {id} still has edge types"
  | objectHasEdges id => s!"object {id} still has edges"
  | edgeTypeHasEdges id => s!"edge type {id} still has edges"
  | notFound id => s!"{id} not found"

end TenantSync
