import TenantSync.Uuid
import TenantSync.Graph.Kind

/-! # Entities and when two of them hold the same content

Identity is the identifier alone.  `Resource.sameContent` compares everything else: the
attributes of an edge type are a set, so they are compared in the canonical form
`Attribute.canonical` (ascending, each once), and an absent alias differs from an empty
one. -/

namespace TenantSync

/-- A class of principals or resources. -/
structure ObjectType where
  id : Uuid
  typeName : String
  deriving DecidableEq, Inhabited

/-- An instance of an object type, with an optional name. -/
structure Object where
  id : Uuid
  typeId : Uuid
  alias? : Option String
  deriving DecidableEq, Inhabited

/-- A named permission granted by an edge type. -/
structure Attribute where
  name : String
  direct : Bool
  inherit : Bool
  propagate : Bool
  deriving DecidableEq, Inhabited

/-- A class of directed relationship between two object types. -/
structure EdgeType where
  id : Uuid
  typeName : String
  sourceTypeId : Uuid
  targetTypeId : Uuid
  attributes : List Attribute
  deriving DecidableEq, Inhabited

/-- An instance of an edge type that connects two objects. -/
structure Edge where
  id : Uuid
  edgeTypeId : Uuid
  sourceId : Uuid
  targetId : Uuid
  deriving DecidableEq, Inhabited

/-! ## Attributes as a set -/

namespace Attribute

/-- Lexicographic order: name, then the three switches with false before true. -/
def compare : Attribute → Attribute → Ordering :=
  compareLex (compareOn name) <| compareLex (compareOn direct) <|
    compareLex (compareOn inherit) (compareOn propagate)

/-- Puts an attribute into an ascending list unless it is there already. -/
def orderedInsert (a : Attribute) : List Attribute → List Attribute
  | [] => [a]
  | b :: bs =>
    match compare a b with
    | .lt => a :: b :: bs
    | .eq => b :: bs
    | .gt => b :: orderedInsert a bs

/-- The distinct attributes of a list in ascending order. -/
def canonical (as : List Attribute) : List Attribute := as.foldr orderedInsert []

end Attribute

/-! ## What the kinds have in common -/

/-- A kind of entity: how it is identified, compared and named to a reader. -/
class Resource (α : Type) where
  kind : Kind
  id : α → Uuid
  /-- Every field other than the identifier agrees. -/
  sameContent : α → α → Bool
  /-- A short name for progress output and errors. -/
  label : α → String

instance : Resource ObjectType where
  kind := .objectType
  id := ObjectType.id
  sameContent a b := a.typeName == b.typeName
  label a := s!"'{a.typeName}'"

instance : Resource Object where
  kind := .object
  id := Object.id
  sameContent a b := a.typeId == b.typeId && a.alias? == b.alias?
  label a :=
    match a.alias? with
    | some name => if name.isEmpty then a.id.text else s!"'{name}'"
    | none => a.id.text

instance : Resource EdgeType where
  kind := .edgeType
  id := EdgeType.id
  sameContent a b :=
    a.typeName == b.typeName && a.sourceTypeId == b.sourceTypeId &&
      a.targetTypeId == b.targetTypeId &&
      Attribute.canonical a.attributes == Attribute.canonical b.attributes
  label a := s!"'{a.typeName}'"

instance : Resource Edge where
  kind := .edge
  id := Edge.id
  sameContent a b :=
    a.edgeTypeId == b.edgeTypeId && a.sourceId == b.sourceId && a.targetId == b.targetId
  label a := s!"{a.sourceId} -> {a.targetId}"

/-- An entity of any kind. -/
inductive Entity where
  | objectType (t : ObjectType)
  | object (o : Object)
  | edgeType (t : EdgeType)
  | edge (e : Edge)
  deriving DecidableEq, Inhabited

namespace Entity

/-- The kind of an entity. -/
def kind : Entity → Kind
  | objectType _ => .objectType
  | object _ => .object
  | edgeType _ => .edgeType
  | edge _ => .edge

/-- The identifier of an entity. -/
def id : Entity → Uuid
  | objectType t => t.id
  | object o => o.id
  | edgeType t => t.id
  | edge e => e.id

/-- The short name of an entity. -/
def label : Entity → String
  | objectType t => Resource.label t
  | object o => Resource.label o
  | edgeType t => Resource.label t
  | edge e => Resource.label e

/-- Two entities of one kind that agree in every field other than the identifier. -/
def sameContent : Entity → Entity → Bool
  | objectType a, objectType b => Resource.sameContent a b
  | object a, object b => Resource.sameContent a b
  | edgeType a, edgeType b => Resource.sameContent a b
  | edge a, edge b => Resource.sameContent a b
  | _, _ => false

end Entity

end TenantSync
