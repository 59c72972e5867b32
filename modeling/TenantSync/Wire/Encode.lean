import TenantSync.Graph.Entity
import TenantSync.Json.Value

/-! # Writing what a service is sent

The documents of the four kinds of entity.  A create request wraps the document under the
name of the kind. -/

namespace TenantSync.Wire

/-- The document of an identifier. -/
def ofUuid (id : Uuid) : Json := .string id.text

/-- The document of an attribute. -/
def ofAttribute (a : Attribute) : Json :=
  .object [("name", .string a.name), ("direct", .bool a.direct), ("inherit", .bool a.inherit),
    ("propagate", .bool a.propagate)]

/-- The document of an entity. -/
def ofEntity : Entity → Json
  | .objectType t => .object [("id", ofUuid t.id), ("type_name", .string t.typeName)]
  | .object o =>
    let name : Json := match o.alias? with
      | some name => .string name
      | none => .null
    .object [("id", ofUuid o.id), ("type_id", ofUuid o.typeId), ("alias", name)]
  | .edgeType t =>
    .object [("id", ofUuid t.id), ("type_name", .string t.typeName),
      ("source_object_type_id", ofUuid t.sourceTypeId),
      ("target_object_type_id", ofUuid t.targetTypeId),
      ("attributes", .array (t.attributes.map ofAttribute))]
  | .edge e =>
    .object [("id", ofUuid e.id), ("edge_type_id", ofUuid e.edgeTypeId),
      ("source_object_id", ofUuid e.sourceId), ("target_object_id", ofUuid e.targetId)]

/-- The name under which a create request holds an entity of a kind. -/
def wrapper : Kind → String
  | .objectType => "object_type"
  | .object => "object"
  | .edgeType => "edge_type"
  | .edge => "edge"

/-- The body of a create request. -/
def creation (e : Entity) : Json := .object [(wrapper e.kind, ofEntity e)]

end TenantSync.Wire
