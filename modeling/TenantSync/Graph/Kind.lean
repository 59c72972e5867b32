/-! # The four kinds of entity

An authorization graph holds object types, objects, edge types and edges.  Objects refer
to object types, edge types to two object types, and edges to an edge type and two
objects, so `insertOrder` lists parents before children and `deleteOrder` children before
parents. -/

namespace TenantSync

/-- The kind of an entity in an authorization graph. -/
inductive Kind where
  | objectType
  | object
  | edgeType
  | edge
  deriving DecidableEq, Repr, Inhabited

namespace Kind

/-- Parents before children. -/
def insertOrder : List Kind := [objectType, object, edgeType, edge]

/-- Children before parents. -/
def deleteOrder : List Kind := [edge, edgeType, object, objectType]

/-- What one entity of the kind is called. -/
def singular : Kind → String
  | objectType => "object type"
  | object => "object"
  | edgeType => "edge type"
  | edge => "edge"

/-- What several entities of the kind are called. -/
def plural : Kind → String
  | objectType => "object types"
  | object => "objects"
  | edgeType => "edge types"
  | edge => "edges"

end Kind

end TenantSync
