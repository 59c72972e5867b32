import TenantSync.Graph.Entity
import TenantSync.Json.Decoder
import TenantSync.Paging.Cursor

/-! # Reading what a service sends

The decoders of the four kinds of entity, of a page of a collection and of the answer of
a token endpoint. -/

namespace TenantSync.Wire

open TenantSync.Json TenantSync.Json.Decoder

/-- Reads an identifier in any of its forms. -/
def uuid : Decoder Uuid := refine string Uuid.parse?

/-- The fields of an object type. -/
structure ObjectTypeFields where
  id? : Option Uuid := none
  typeName? : Option String := none

/-- Reads an object type. -/
def objectType : Decoder ObjectType := record {
  empty := ({} : ObjectTypeFields)
  fields := [
    .of "id" true (·.id?) (fun x r => { r with id? := some x }) uuid,
    .of "type_name" true (·.typeName?) (fun x r => { r with typeName? := some x }) string]
  finish := fun r => return ⟨← r.id?, ← r.typeName?⟩ }

/-- The fields of an object. -/
structure ObjectFields where
  id? : Option Uuid := none
  typeId? : Option Uuid := none
  alias? : Option (Option String) := none

/-- Reads an object.  A missing alias is an absent one. -/
def object : Decoder Object := record {
  empty := ({} : ObjectFields)
  fields := [
    .of "id" true (·.id?) (fun x r => { r with id? := some x }) uuid,
    .of "type_id" true (·.typeId?) (fun x r => { r with typeId? := some x }) uuid,
    .of "alias" false (·.alias?) (fun x r => { r with alias? := some x }) (nullable string)]
  finish := fun r => return ⟨← r.id?, ← r.typeId?, r.alias?.getD none⟩ }

/-- The fields of an attribute. -/
structure AttributeFields where
  name? : Option String := none
  direct? : Option Bool := none
  inherit? : Option Bool := none
  propagate? : Option Bool := none

/-- Reads an attribute.  Missing switches are off. -/
def attr : Decoder Attribute := record {
  empty := ({} : AttributeFields)
  fields := [
    .of "name" true (·.name?) (fun x r => { r with name? := some x }) string,
    .of "direct" false (·.direct?) (fun x r => { r with direct? := some x }) bool,
    .of "inherit" false (·.inherit?) (fun x r => { r with inherit? := some x }) bool,
    .of "propagate" false (·.propagate?) (fun x r => { r with propagate? := some x }) bool]
  finish := fun r =>
    return ⟨← r.name?, r.direct?.getD false, r.inherit?.getD false, r.propagate?.getD false⟩ }

/-- The fields of an edge type. -/
structure EdgeTypeFields where
  id? : Option Uuid := none
  typeName? : Option String := none
  sourceTypeId? : Option Uuid := none
  targetTypeId? : Option Uuid := none
  attributes? : Option (List Attribute) := none

/-- Reads an edge type.  Missing attributes are none. -/
def edgeType : Decoder EdgeType := record {
  empty := ({} : EdgeTypeFields)
  fields := [
    .of "id" true (·.id?) (fun x r => { r with id? := some x }) uuid,
    .of "type_name" true (·.typeName?) (fun x r => { r with typeName? := some x }) string,
    .of "source_object_type_id" true (·.sourceTypeId?)
      (fun x r => { r with sourceTypeId? := some x }) uuid,
    .of "target_object_type_id" true (·.targetTypeId?)
      (fun x r => { r with targetTypeId? := some x }) uuid,
    .of "attributes" false (·.attributes?) (fun x r => { r with attributes? := some x })
      (list attr)]
  finish := fun r =>
    return ⟨← r.id?, ← r.typeName?, ← r.sourceTypeId?, ← r.targetTypeId?, r.attributes?.getD []⟩ }

/-- The fields of an edge. -/
structure EdgeFields where
  id? : Option Uuid := none
  edgeTypeId? : Option Uuid := none
  sourceId? : Option Uuid := none
  targetId? : Option Uuid := none

/-- Reads an edge. -/
def edge : Decoder Edge := record {
  empty := ({} : EdgeFields)
  fields := [
    .of "id" true (·.id?) (fun x r => { r with id? := some x }) uuid,
    .of "edge_type_id" true (·.edgeTypeId?) (fun x r => { r with edgeTypeId? := some x }) uuid,
    .of "source_object_id" true (·.sourceId?) (fun x r => { r with sourceId? := some x }) uuid,
    .of "target_object_id" true (·.targetId?) (fun x r => { r with targetId? := some x }) uuid]
  finish := fun r => return ⟨← r.id?, ← r.edgeTypeId?, ← r.sourceId?, ← r.targetId?⟩ }

/-- Reads an entity of a given kind. -/
def entity : Kind → Decoder Entity
  | .objectType => refine objectType (some ∘ .objectType)
  | .object => refine object (some ∘ .object)
  | .edgeType => refine edgeType (some ∘ .edgeType)
  | .edge => refine edge (some ∘ .edge)

/-- The fields of a page. -/
structure PageFields (α : Type) where
  data? : Option (List α) := none
  hasNext? : Option Bool := none
  next? : Option (Option String) := none

/-- Reads a page.  Every field may be missing; a missing cursor is the empty one. -/
def page {α : Type} (d : Decoder α) : Decoder (Page α) := record {
  empty := ({} : PageFields α)
  fields := [
    .of "data" false (·.data?) (fun x r => { r with data? := some x }) (list d),
    .of "has_next" false (·.hasNext?) (fun x r => { r with hasNext? := some x }) bool,
    .of "next" false (·.next?) (fun x r => { r with next? := some x }) (nullable string)]
  finish := fun r =>
    some ⟨r.data?.getD [], r.hasNext?.getD false, ⟨(r.next?.getD none).getD ""⟩⟩ }

/-- What a token endpoint grants. -/
structure Grant where
  accessToken : String
  /-- The lifetime of the token in seconds, if it was given. -/
  expiresIn? : Option Int
  deriving DecidableEq

/-- The fields of a grant. -/
structure GrantFields where
  accessToken? : Option String := none
  expiresIn? : Option (Option Int) := none

/-- Reads the answer of a token endpoint. -/
def grant : Decoder Grant := record {
  empty := ({} : GrantFields)
  fields := [
    .of "access_token" true (·.accessToken?) (fun x r => { r with accessToken? := some x }) string,
    .of "expires_in" false (·.expiresIn?) (fun x r => { r with expiresIn? := some x })
      (nullable integer)]
  finish := fun r => return ⟨← r.accessToken?, r.expiresIn?.getD none⟩ }

end TenantSync.Wire
