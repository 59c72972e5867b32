import TenantSync.Proofs.Session.Projection
import TenantSync.Proofs.Sync.Relation

/-!
# Runs that agree on a part of the world

If the calls of two clients agree on what `f` shows of the world (`Client.Projects`), then so do
the runs with these clients, whatever the options (`synchronize_projects`): they end the same, leave
the same trace, and the worlds they leave look the same to `f`.
-/

namespace TenantSync

variable {σ σ' τ τ' α β : Type} {f : σ → τ}

/-- The run in the world as `f` shows it. -/
def Run.map (f : σ → τ) (r : Run σ) : Run τ := ⟨f r.world, r.token, r.clock, r.trace⟩

namespace SyncM

/-- In the world as `f` shows it, the second step does what the first does in the world itself. -/
def Projects (f : σ → τ) (m : SyncM σ α) (m' : SyncM τ α) : Prop :=
  ∀ r, m'.run (r.map f) = ((m.run r).1, (m.run r).2.map f)

namespace Projects

/-- A client's call projects in a run as it does by itself. -/
theorem call {c : Call σ α} {c' : Call τ α} (hc : Call.Projects f c c') :
    Projects f (SyncM.call c) (SyncM.call c') := by
  intro r
  have hcall : c'.run (r.map f).session = _ := hc r.session
  rw [run_call, run_call, hcall]
  rfl

/-- Projections compose. -/
theorem bind {m : SyncM σ α} {m' : SyncM τ α} {g : α → SyncM σ β} {g' : α → SyncM τ β}
    (hm : Projects f m m') (hg : ∀ x, Projects f (g x) (g' x)) :
    Projects f (m >>= g) (m' >>= g') := by
  intro r
  rw [run_bind, run_bind, hm r]
  rcases m.run r with ⟨e | x, r'⟩
  · rfl
  · exact hg x r'

/-- Only a call to a client can tell the two worlds apart. -/
def steps (f : σ → τ) : StepRelation σ τ where
  Rel := Projects f
  pure _ _ := rfl
  throw _ _ := rfl
  emit _ _ := rfl
  log _ _ _ _ _ := rfl
  bind := bind
  within a hm r := by rw [run_within, run_within, hm r]

/-- A mutation is sent and its outcome noted alike. -/
theorem send {c : Client σ} {c' : Client τ} (op : Operation) (kind : Kind) (applied : Nat)
    (e : Entity) (h : Call.Projects f (c.mutate (op.mutation e)) (c'.mutate (op.mutation e))) :
    Projects f (send c op kind applied e) (send c' op kind applied e) := by
  intro r
  have hcall : (c'.mutate (op.mutation e)).run (r.map f).look.session = _ := h r.look.session
  have htoken : (r.map f).token = r.token := rfl
  rw [run_send, run_send, hcall, htoken]
  -- Both runs look at the same token before they call.
  by_cases hcan : r.token.look.cancelled = true
  · rw [if_pos hcan, if_pos hcan]
    rfl
  · rw [if_neg hcan, if_neg hcan]
    rfl

end Projects

end SyncM

/-- In the world as `f` shows it, the second client does what the first does in the world itself. -/
structure Client.Projects (f : σ → τ) (c : Client σ) (c' : Client τ) : Prop where
  endpoint : c'.endpoint = c.endpoint
  listObjectTypes : Call.Projects f c.listObjectTypes c'.listObjectTypes
  listEdgeTypes : Call.Projects f c.listEdgeTypes c'.listEdgeTypes
  listObjects : ∀ cursor, Call.Projects f (c.listObjects cursor) (c'.listObjects cursor)
  listEdges : ∀ cursor, Call.Projects f (c.listEdges cursor) (c'.listEdges cursor)
  createObjectType : ∀ id typeName,
    Call.Projects f (c.createObjectType id typeName) (c'.createObjectType id typeName)
  createObject : ∀ id typeId alias?,
    Call.Projects f (c.createObject id typeId alias?) (c'.createObject id typeId alias?)
  createEdgeType : ∀ id sourceTypeId targetTypeId typeName attributes,
    Call.Projects f (c.createEdgeType id sourceTypeId targetTypeId typeName attributes)
      (c'.createEdgeType id sourceTypeId targetTypeId typeName attributes)
  createEdge : ∀ id sourceId targetId edgeTypeId,
    Call.Projects f (c.createEdge id sourceId targetId edgeTypeId)
      (c'.createEdge id sourceId targetId edgeTypeId)
  delete : ∀ k id, Call.Projects f (c.delete k id) (c'.delete k id)
  pageBound : ∀ w, c.pageBound w = c'.pageBound (f w)

namespace Client.Projects

/-- Creating an entity drops what the call for its kind returns. -/
theorem create {c : Client σ} {c' : Client τ} (h : c.Projects f c') (e : Entity) :
    Call.Projects f (c.create e) (c'.create e) := by
  cases e with
  | objectType t => exact (h.createObjectType _ _).bind fun _ => .pure _
  | object o => exact (h.createObject _ _ _).bind fun _ => .pure _
  | edgeType t => exact (h.createEdgeType _ _ _ _ _).bind fun _ => .pure _
  | edge e => exact (h.createEdge _ _ _ _).bind fun _ => .pure _

/-- The clients carry out every mutation alike. -/
theorem mutate {c : Client σ} {c' : Client τ} (h : c.Projects f c') (m : Mutation) :
    Call.Projects f (c.mutate m) (c'.mutate m) := by
  cases m with
  | create e => exact h.create e
  | delete k id => exact h.delete k id

/-- Clients that project call by call are related by projections. -/
theorem clients {c : Client σ} {c' : Client τ} (h : c.Projects f c') :
    (SyncM.Projects.steps f).Clients c c' where
  endpoint := h.endpoint
  objectTypes := .call h.listObjectTypes
  objects := .call (.collectPages h.pageBound _ h.listObjects)
  edgeTypes := .call h.listEdgeTypes
  edges := .call (.collectPages h.pageBound _ h.listEdges)
  send op kind applied e := .send op kind applied e (h.mutate _)

/-- Clients that agree on a part of a part agree on the part. -/
theorem zoom {l : Lens σ σ'} {l' : Lens τ τ'} {g : σ' → τ'} (hget : ∀ w, l'.get (f w) = g (l.get w))
    (hset : ∀ t w, l'.set (g t) (f w) = f (l.set t w)) {c : Client σ'} {c' : Client τ'}
    (h : c.Projects g c') : (c.zoom l).Projects f (c'.zoom l') where
  endpoint := h.endpoint
  listObjectTypes := h.listObjectTypes.zoom hget hset
  listEdgeTypes := h.listEdgeTypes.zoom hget hset
  listObjects cursor := (h.listObjects cursor).zoom hget hset
  listEdges cursor := (h.listEdges cursor).zoom hget hset
  createObjectType _ _ := (h.createObjectType _ _).zoom hget hset
  createObject _ _ _ := (h.createObject _ _ _).zoom hget hset
  createEdgeType _ _ _ _ _ := (h.createEdgeType _ _ _ _ _).zoom hget hset
  createEdge _ _ _ _ := (h.createEdge _ _ _ _).zoom hget hset
  delete k id := (h.delete k id).zoom hget hset
  pageBound w := (h.pageBound _).trans (congrArg c'.pageBound (hget w).symm)

end Client.Projects

section
variable {source destination : Client σ} {source' destination' : Client τ}

/-- The reading of both sides projects when the clients do. -/
theorem snapshots_projects (hs : source.Projects f source')
    (hd : destination.Projects f destination') (o : Options) :
    SyncM.Projects f (snapshots source destination o) (snapshots source' destination' o) :=
  StepRelation.snapshots (Q := SyncM.Projects.steps f) hs.clients.toLists hd.clients.toLists o

/-- Runs whose clients agree on what `f` shows of the world agree on it too. -/
theorem synchronize_projects (hs : source.Projects f source')
    (hd : destination.Projects f destination') (o : Options) :
    SyncM.Projects f (synchronize source destination o) (synchronize source' destination' o) := by
  -- The part that calls the clients projects, and concluding does not look at the world.
  have hcarried : SyncM.Projects f (carriedOut source destination o)
      (carriedOut source' destination' o) :=
    StepRelation.carriedOut (Q := SyncM.Projects.steps f) hs.clients.toLists hd.clients o
  intro r
  have hstart : (carriedOut source' destination' o).run (r.map f).tick = _ := hcarried r.tick
  rw [run_synchronize_eq_conclude, run_synchronize_eq_conclude, hstart]
  rcases (carriedOut source destination o).run r.tick with ⟨failure | report, r'⟩
  · rfl
  · dsimp only
    rw [run_conclude, run_conclude]
    rfl

end

end TenantSync
