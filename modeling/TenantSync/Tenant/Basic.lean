import TenantSync.Client
import TenantSync.Graph.Basic

/-! # In-memory tenants

A `Tenant` holds a graph and enforces the rules of a real service: what an entity refers
to must exist when it is created, and nothing may refer to an entity when it is deleted.
`Graph.insert?` and `Graph.remove?` are these rules on graphs.  A tenant also records the
mutations it was asked for, serves objects and edges in pages whose cursors are decimal
offsets, and can be told to fail certain listings and mutations. -/

namespace TenantSync

namespace Graph

/-- The graph with one more entity at the end of its kind's list. -/
def add (g : Graph) : Entity → Graph
  | .objectType t => { g with objectTypes := g.objectTypes ++ [t] }
  | .object o => { g with objects := g.objects ++ [o] }
  | .edgeType t => { g with edgeTypes := g.edgeTypes ++ [t] }
  | .edge e => { g with edges := g.edges ++ [e] }

/-- The graph without the entities of a kind that have the given identifier. -/
def drop (g : Graph) (k : Kind) (id : Uuid) : Graph :=
  match k with
  | .objectType => { g with objectTypes := g.objectTypes.filter (·.id ≠ id) }
  | .object => { g with objects := g.objects.filter (·.id ≠ id) }
  | .edgeType => { g with edgeTypes := g.edgeTypes.filter (·.id ≠ id) }
  | .edge => { g with edges := g.edges.filter (·.id ≠ id) }

/-- The new entity is the last of its kind. -/
theorem entities_add_self (g : Graph) (e : Entity) :
    (g.add e).entities e.kind = g.entities e.kind ++ [e] := by
  cases e <;> simp [add, Entity.kind, entities]

/-- The lists of the other kinds stay. -/
theorem entities_add_of_ne (g : Graph) {e : Entity} {k : Kind} (h : k ≠ e.kind) :
    (g.add e).entities k = g.entities k := by
  cases e <;> cases k <;> simp_all [add, Entity.kind, entities]

/-- What has the identifier is gone from the list of the kind. -/
theorem entities_drop_self (g : Graph) (k : Kind) (id : Uuid) :
    (g.drop k id).entities k = (g.entities k).filter (·.id ≠ id) := by
  cases k <;> simp only [drop, entities, List.filter_map] <;> rfl

/-- The lists of the other kinds stay. -/
theorem entities_drop_of_ne (g : Graph) {k j : Kind} (id : Uuid) (h : j ≠ k) :
    (g.drop k id).entities j = g.entities j := by
  cases k <;> cases j <;> simp_all [drop, entities]

/-- Whether the graph has an object type with the given identifier. -/
def hasObjectType (g : Graph) (id : Uuid) : Bool := g.objectTypes.any (·.id == id)

/-- Whether the graph has an object with the given identifier. -/
def hasObject (g : Graph) (id : Uuid) : Bool := g.objects.any (·.id == id)

/-- Whether the graph has an edge type with the given identifier. -/
def hasEdgeType (g : Graph) (id : Uuid) : Bool := g.edgeTypes.any (·.id == id)

/-- Whether two objects cannot live side by side: they share the identifier, or the type
    and the alias. -/
def clash (o p : Object) : Bool :=
  p.id == o.id || (o.alias?.isSome && p.typeId == o.typeId && p.alias? == o.alias?)

/-- Why the graph cannot take an entity. -/
def insertRefusal? (g : Graph) : Entity → Option Refusal
  | .objectType t =>
    if g.objectTypes.any fun u => u.id == t.id || u.typeName == t.typeName then
      some (.typeNameTaken t.typeName)
    else none
  | .object o =>
    if !g.hasObjectType o.typeId then some (.noObjectType o.typeId)
    else if g.objects.any (clash o) then some (.objectConflict o.id)
    else none
  | .edgeType t =>
    if !g.hasObjectType t.sourceTypeId then some (.noObjectType t.sourceTypeId)
    else if !g.hasObjectType t.targetTypeId then some (.noObjectType t.targetTypeId)
    else if g.hasEdgeType t.id then some (.edgeTypeExists t.id)
    else none
  | .edge e =>
    if !g.hasEdgeType e.edgeTypeId then some (.noEdgeType e.edgeTypeId)
    else if !g.hasObject e.sourceId then some (.noObject e.sourceId)
    else if !g.hasObject e.targetId then some (.noObject e.targetId)
    else if g.edges.any (·.id == e.id) then some (.edgeExists e.id)
    else none

/-- Why the graph cannot lose an entity. -/
def removeRefusal? (g : Graph) (k : Kind) (id : Uuid) : Option Refusal :=
  match k with
  | .objectType =>
    if g.objects.any (·.typeId == id) then some (.typeHasObjects id)
    else if g.edgeTypes.any fun t => t.sourceTypeId == id || t.targetTypeId == id then
      some (.typeHasEdgeTypes id)
    else if g.hasObjectType id then none else some (.notFound id)
  | .object =>
    if g.edges.any fun e => e.sourceId == id || e.targetId == id then some (.objectHasEdges id)
    else if g.hasObject id then none else some (.notFound id)
  | .edgeType =>
    if g.edges.any (·.edgeTypeId == id) then some (.edgeTypeHasEdges id)
    else if g.hasEdgeType id then none else some (.notFound id)
  | .edge => if g.edges.any (·.id == id) then none else some (.notFound id)

/-- Adds an entity if the rules allow it. -/
def insert? (g : Graph) (e : Entity) : Except Refusal Graph :=
  match g.insertRefusal? e with
  | some r => .error r
  | none => .ok (g.add e)

/-- Removes an entity if the rules allow it. -/
def remove? (g : Graph) (k : Kind) (id : Uuid) : Except Refusal Graph :=
  match g.removeRefusal? k id with
  | some r => .error r
  | none => .ok (g.drop k id)

end Graph

/-- A mutation that a tenant was asked for. -/
structure Tenant.Entry where
  operation : Operation
  kind : Kind
  id : Uuid
  deriving DecidableEq

/-- A tenant that lives in memory. -/
structure Tenant where
  endpoint : String
  pageSize : Nat
  graph : Graph
  /-- Entities whose mutations fail. -/
  failing : List Uuid
  /-- Kinds whose listings fail. -/
  unlisted : List Kind
  /-- The mutations that were asked for, refused ones included. -/
  record : List Tenant.Entry
  /-- How many pages of objects were asked for. -/
  objectPages : Nat

namespace Tenant

/-- A tenant that holds a graph and fails nothing. -/
def ofGraph (endpoint : String) (pageSize : Nat) (g : Graph) : Tenant :=
  ⟨endpoint, pageSize, g, [], [], [], 0⟩

/-- The offset behind the page at an offset.  Offsets have 64 bits and wrap around.  That takes
    an offset behind the list, or one inside it and a page longer than it; from page to page no
    walk comes to either. -/
def behindPage (pageSize length start : Nat) : Nat :=
  if 0 < start ∧ (length < start ∨ length < pageSize) then
    (start + pageSize) % (Numeral.max64 + 1)
  else start + pageSize

/-- The page of a list that starts at an offset.  The next cursor is the offset behind it. -/
def pageAt {α : Type} (pageSize : Nat) (items : List α) (start : Nat) : Page α :=
  let stop := min (behindPage pageSize items.length start) items.length
  let entities := (items.take stop).drop start
  if stop < items.length then ⟨entities, true, ⟨toString stop⟩⟩ else ⟨entities, false, .begin⟩

/-- The offset into a list that a cursor stands for.  Offsets have 64 bits, more only for a
    list that would not fit into memory, so the cursor of a page can always be read. -/
def offset (length : Nat) (c : Cursor) : Except Numeral.Fault Nat :=
  if c.isBegin then .ok 0 else Numeral.parse (max Numeral.max64 length) c.value

/-- Refuses a listing when the run was told to stop or the listing is to fail. -/
def openListing (k : Kind) : Call Tenant Unit := do
  if ← Call.cancelled then Call.fail (.refused .cancelled)
  if k ∈ (← Call.world).unlisted then Call.fail (.refused (.listing k))

/-- Records a mutation; refuses it when the run was told to stop or it is to fail. -/
def register (r : Entry) : Call Tenant Unit := do
  if ← Call.cancelled then Call.fail (.refused .cancelled)
  let t ← Call.world
  Call.setWorld { t with record := t.record ++ [r] }
  if r.id ∈ t.failing then Call.fail (.refused (.injected r.id))

/-- Puts the result of a rule into effect. -/
def commit (change : Graph → Except Refusal Graph) : Call Tenant Unit := do
  let t ← Call.world
  let g ← Call.ofExcept .refused (change t.graph)
  Call.setWorld { t with graph := g }

/-- A listing is refused to a run that was told to stop and for a kind that is to fail, and
    otherwise opened; nothing but the look at the token is left behind. -/
theorem run_openListing (k : Kind) (s : Session Tenant) :
    (openListing k).run s =
      (if s.token.look.cancelled then .error (Failure.of (.refused .cancelled))
        else if k ∈ s.world.unlisted then .error (Failure.of (.refused (.listing k)))
        else .ok (),
      { s with token := s.token.look }) := by
  simp only [openListing, Call.run_bind, Call.run_cancelled]
  split
  · rfl
  · simp only [Call.run_bind, Call.run_world]
    split <;> rfl

/-- A run that was told to stop leaves no record of the mutation.  Otherwise there is one, also if
    the mutation is to fail. -/
theorem run_register (r : Entry) (s : Session Tenant) :
    (register r).run s =
      if s.token.look.cancelled then
        (.error (Failure.of (.refused .cancelled)), { s with token := s.token.look })
      else
        (if r.id ∈ s.world.failing then .error (Failure.of (.refused (.injected r.id))) else .ok (),
          { s with
            token := s.token.look
            world := { s.world with record := s.world.record ++ [r] } }) := by
  simp only [register, Call.run_bind, Call.run_cancelled]
  split
  · rfl
  · simp only [Call.run_bind, Call.run_world, Call.run_setWorld]
    split <;> rfl

/-- A rule that refuses leaves the tenant as it is. -/
theorem run_commit (change : Graph → Except Refusal Graph) (s : Session Tenant) :
    (commit change).run s =
      match change s.world.graph with
      | .ok g => (.ok (), { s with world := { s.world with graph := g } })
      | .error r => (.error (Failure.of (.refused r)), s) := by
  simp only [commit, Call.run_bind, Call.run_world]
  cases change s.world.graph <;> rfl

/-- Takes an entity in. -/
def insert (e : Entity) : Call Tenant Unit := do
  register ⟨.create, e.kind, e.id⟩
  commit (·.insert? e)

/-- Creates an object type. -/
def createObjectType (id : Uuid) (typeName : String) : Call Tenant ObjectType := do
  let created : ObjectType := { id, typeName }
  insert (.objectType created)
  return created

/-- Creates an object. -/
def createObject (id typeId : Uuid) (alias? : Option String) : Call Tenant Object := do
  let created : Object := { id, typeId, alias? }
  insert (.object created)
  return created

/-- Creates an edge type. -/
def createEdgeType (id sourceTypeId targetTypeId : Uuid) (typeName : String)
    (attributes : List Attribute) : Call Tenant EdgeType := do
  let created : EdgeType := { id, typeName, sourceTypeId, targetTypeId, attributes }
  insert (.edgeType created)
  return created

/-- Creates an edge. -/
def createEdge (id sourceId targetId edgeTypeId : Uuid) : Call Tenant Edge := do
  let created : Edge := { id, edgeTypeId, sourceId, targetId }
  insert (.edge created)
  return created

/-- Deletes an entity. -/
def delete (k : Kind) (id : Uuid) : Call Tenant Unit := do
  register ⟨.delete, k, id⟩
  commit (·.remove? k id)

/-- A page of objects. -/
def listObjects (c : Cursor) : Call Tenant (Page Object) := do
  openListing .object
  let t ← Call.world
  Call.setWorld { t with objectPages := t.objectPages + 1 }
  let start ← Call.ofExcept .numeral (offset t.graph.objects.length c)
  return pageAt t.pageSize t.graph.objects start

/-- A page of edges. -/
def listEdges (c : Cursor) : Call Tenant (Page Edge) := do
  openListing .edge
  let t ← Call.world
  let start ← Call.ofExcept .numeral (offset t.graph.edges.length c)
  return pageAt t.pageSize t.graph.edges start

/-- All object types. -/
def listObjectTypes : Call Tenant (List ObjectType) := do
  openListing .objectType
  return (← Call.world).graph.objectTypes

/-- All edge types. -/
def listEdgeTypes : Call Tenant (List EdgeType) := do
  openListing .edgeType
  return (← Call.world).graph.edgeTypes

/-- The client of an in-memory tenant.  A page that is not the last holds an entity, unless
    pages are empty; then the second page names the first cursor again. -/
def client (endpoint : String) : Client Tenant where
  endpoint
  listObjectTypes
  listEdgeTypes
  listObjects
  listEdges
  createObjectType
  createObject
  createEdgeType
  createEdge
  delete
  pageBound t := t.graph.objects.length + t.graph.edges.length + 2

end Tenant

end TenantSync
