import TenantSync.Proofs.Sync.Projection

/-!
# Annotated clients

To say what happens in the course of a run one gives its clients a notebook: they live in worlds
`σ × L` and write into the second part what they like.  A client is an annotation of another if it
does the same but for the notes (`Client.Annotates`), and then so is any run with it
(`synchronize_annotates`).  What a run writes down is therefore true of the run without notes.
-/

namespace TenantSync

variable {σ L α β : Type}

/-- The session without the notes. -/
def Session.bare (s : Session (σ × L)) : Session σ :=
  ⟨s.world.1, s.token, s.clock, s.log, s.waits⟩

/-- The run without the notes. -/
def Run.bare (r : Run (σ × L)) : Run σ := ⟨r.world.1, r.token, r.clock, r.trace⟩

namespace Call

/-- The call, which then brings the notes up to date with its outcome and the world it leaves. -/
def annotated (note : Except Fault α → σ → L → L) (c : Call σ α) : Call (σ × L) α :=
  ExceptT.mk fun s =>
    let (out, t) := (c.zoom .first).run s
    (out, { t with world := (t.world.1, note out t.world.1 s.world.2) })

/-- But for its notes, the first call does what the second does. -/
def Annotates (c : Call (σ × L) α) (c' : Call σ α) : Prop :=
  ∀ s, c'.run s.bare = ((c.run s).1, (c.run s).2.bare)

/-- A call with a note taken of each result annotates the call. -/
theorem Annotates.annotated (note : Except Fault α → σ → L → L) (c : Call σ α) :
    Annotates (c.annotated note) c := fun _ => rfl

/-- The notes are a part of the world that the other call does without. -/
theorem Annotates.projects {c : Call (σ × L) α} {c' : Call σ α} (h : Annotates c c') :
    Projects Prod.fst c c' := h

end Call

/-- But for its notes, the first step does what the second does. -/
def SyncM.Annotates (m : SyncM (σ × L) α) (m' : SyncM σ α) : Prop :=
  ∀ r, m'.run r.bare = ((m.run r).1, (m.run r).2.bare)

/-- But for its notes, the first client does what the second does. -/
structure Client.Annotates (c : Client (σ × L)) (c' : Client σ) : Prop where
  endpoint : c'.endpoint = c.endpoint
  listObjectTypes : Call.Annotates c.listObjectTypes c'.listObjectTypes
  listEdgeTypes : Call.Annotates c.listEdgeTypes c'.listEdgeTypes
  listObjects : ∀ cursor, Call.Annotates (c.listObjects cursor) (c'.listObjects cursor)
  listEdges : ∀ cursor, Call.Annotates (c.listEdges cursor) (c'.listEdges cursor)
  createObjectType : ∀ id typeName,
    Call.Annotates (c.createObjectType id typeName) (c'.createObjectType id typeName)
  createObject : ∀ id typeId alias?,
    Call.Annotates (c.createObject id typeId alias?) (c'.createObject id typeId alias?)
  createEdgeType : ∀ id sourceTypeId targetTypeId typeName attributes,
    Call.Annotates (c.createEdgeType id sourceTypeId targetTypeId typeName attributes)
      (c'.createEdgeType id sourceTypeId targetTypeId typeName attributes)
  createEdge : ∀ id sourceId targetId edgeTypeId,
    Call.Annotates (c.createEdge id sourceId targetId edgeTypeId)
      (c'.createEdge id sourceId targetId edgeTypeId)
  delete : ∀ k id, Call.Annotates (c.delete k id) (c'.delete k id)
  pageBound : ∀ w, c.pageBound w = c'.pageBound w.1

namespace Client.Annotates

variable {c : Client (σ × L)} {c' : Client σ}

/-- Without the notes, what is left is the call. -/
theorem projects (h : c.Annotates c') : c.Projects Prod.fst c' where
  endpoint := h.endpoint
  listObjectTypes := h.listObjectTypes.projects
  listEdgeTypes := h.listEdgeTypes.projects
  listObjects cursor := (h.listObjects cursor).projects
  listEdges cursor := (h.listEdges cursor).projects
  createObjectType _ _ := (h.createObjectType _ _).projects
  createObject _ _ _ := (h.createObject _ _ _).projects
  createEdgeType _ _ _ _ _ := (h.createEdgeType _ _ _ _ _).projects
  createEdge _ _ _ _ := (h.createEdge _ _ _ _).projects
  delete k id := (h.delete k id).projects
  pageBound := h.pageBound

/-- A client's changes are annotated like its calls. -/
theorem mutate (h : c.Annotates c') (m : Mutation) :
    Call.Annotates (c.mutate m) (c'.mutate m) := h.projects.mutate m

end Client.Annotates

section
variable {source destination : Client (σ × L)} {source' destination' : Client σ}

/-- The reading of both sides is annotated when the clients' calls are. -/
theorem snapshots_annotates (hs : source.Annotates source')
    (hd : destination.Annotates destination') (o : Options) :
    SyncM.Annotates (snapshots source destination o) (snapshots source' destination' o) :=
  snapshots_projects hs.projects hd.projects o

/-- Taking notes does not change what a run does. -/
theorem synchronize_annotates (hs : source.Annotates source')
    (hd : destination.Annotates destination') (o : Options) :
    SyncM.Annotates (synchronize source destination o) (synchronize source' destination' o) :=
  synchronize_projects hs.projects hd.projects o

end

end TenantSync
