import TenantSync.Json.Decoder
import TenantSync.Json.Value
import TenantSync.Store.Basic

/-! # The store as a document

`Document.ofTables` writes the tables of a store as one JSON document, in which a missing
table is `null`, and `Document.tables?` reads them back. -/

namespace TenantSync.Store.Document

open TenantSync.Json TenantSync.Json.Decoder

/-- The document of a saved context. -/
def ofContext (c : SavedContext) : Json :=
  .object [("name", .string c.name), ("url", .string c.url), ("client_id", .string c.clientId),
    ("client_secret", .string c.clientSecret.text),
    ("created_at", .string (toString c.createdAt)), ("updated_at", .string (toString c.updatedAt))]

/-- The document of a setting. -/
def ofSetting (s : String × String) : Json :=
  .object [("key", .string s.1), ("value", .string s.2)]

/-- The document of a table. -/
def ofTable {α : Type} (row : α → Json) : Option (List α) → Json
  | none => .null
  | some rows => .array (rows.map row)

/-- The document of a store. -/
def ofTables (t : Tables) : Json :=
  .object [(Table.contexts.name, ofTable ofContext t.contexts?),
    (Table.settings.name, ofTable ofSetting t.settings?)]

/-- The fields of a saved context. -/
structure ContextFields where
  name? : Option String := none
  url? : Option String := none
  clientId? : Option String := none
  clientSecret? : Option String := none
  createdAt? : Option Int := none
  updatedAt? : Option Int := none

/-- Reads a point in time. -/
def time : Decoder Int := refine string String.toInt?

/-- Reads a saved context. -/
def context : Decoder SavedContext := record {
  empty := ({} : ContextFields)
  fields := [
    .of "name" true (·.name?) (fun x r => { r with name? := some x }) string,
    .of "url" true (·.url?) (fun x r => { r with url? := some x }) string,
    .of "client_id" true (·.clientId?) (fun x r => { r with clientId? := some x }) string,
    .of "client_secret" true (·.clientSecret?) (fun x r => { r with clientSecret? := some x })
      string,
    .of "created_at" true (·.createdAt?) (fun x r => { r with createdAt? := some x }) time,
    .of "updated_at" true (·.updatedAt?) (fun x r => { r with updatedAt? := some x }) time]
  finish := fun r =>
    return ⟨← r.name?, ← r.url?, ← r.clientId?, ⟨← r.clientSecret?⟩, ← r.createdAt?,
      ← r.updatedAt?⟩ }

/-- The fields of a setting. -/
structure SettingFields where
  key? : Option String := none
  value? : Option String := none

/-- Reads a setting. -/
def setting : Decoder (String × String) := record {
  empty := ({} : SettingFields)
  fields := [
    .of "key" true (·.key?) (fun x r => { r with key? := some x }) string,
    .of "value" true (·.value?) (fun x r => { r with value? := some x }) string]
  finish := fun r => return (← r.key?, ← r.value?) }

/-- The fields of a store. -/
structure TablesFields where
  contexts? : Option (Option (List SavedContext)) := none
  settings? : Option (Option (List (String × String))) := none

/-- Reads a store. -/
def tables : Decoder Tables := record {
  empty := ({} : TablesFields)
  fields := [
    .of Table.contexts.name true (·.contexts?) (fun x r => { r with contexts? := some x })
      (nullable (list context)),
    .of Table.settings.name true (·.settings?) (fun x r => { r with settings? := some x })
      (nullable (list setting))]
  finish := fun r => return ⟨← r.contexts?, ← r.settings?⟩ }

/-- The store that a text is the document of. -/
def tables? (text : String) : Option Tables := (decode tables text).toOption

end TenantSync.Store.Document
