import TenantSync.Sync.Run

/-! # Applying changes

A set of changes is applied kind by kind, one mutation per entity, each awaited before
the next: creations parents first, deletions children first.  Nothing is rolled back, so
what was applied before a failure stays. -/

namespace TenantSync

/-- The mutation that an operation makes of an entity. -/
def Operation.mutation : Operation → Entity → Mutation
  | .create, e => .create e
  | .delete, e => .delete e.kind e.id

/-- The kinds in the order in which an operation goes through them. -/
def Operation.order : Operation → List Kind
  | .create => [.objectType, .object, .edgeType, .edge]
  | .delete => [.edge, .edgeType, .object, .objectType]

/-- What is shown of a phase is in the order in which its operation goes through the kinds. -/
theorem Operation.order_eq_phase_order (op : Operation) :
    op.order = (Phase.ofOperation op).order := by
  cases op <;> rfl

/-- Creates an entity: its fields are the arguments of the call for its kind. -/
def Client.create {σ : Type} (c : Client σ) : Entity → Call σ Unit
  | .objectType t => do let _ ← c.createObjectType t.id t.typeName
  | .object o => do let _ ← c.createObject o.id o.typeId o.alias?
  | .edgeType t => do
    let _ ← c.createEdgeType t.id t.sourceTypeId t.targetTypeId t.typeName t.attributes
  | .edge e => do let _ ← c.createEdge e.id e.sourceId e.targetId e.edgeTypeId

/-- Sends a mutation to a tenant. -/
def Client.mutate {σ : Type} (c : Client σ) : Mutation → Call σ Unit
  | .create e => c.create e
  | .delete k id => c.delete k id

/-- What a call on a part of the state returns may be dropped there or here. -/
theorem Call.run_zoom_drop {σ τ α : Type} (l : Lens σ τ) (c : Call τ α) (s : Session σ) :
    (do let _ ← c.zoom l : Call σ Unit).run s = ((do let _ ← c : Call τ Unit).zoom l).run s := by
  simp only [run_bind, run_zoom]
  rcases c.run _ with ⟨_ | _, _⟩ <;> rfl

/-- A tenant that is a part of a larger state is changed there as it would be alone. -/
theorem Client.run_mutate_zoom {σ τ : Type} (l : Lens σ τ) (c : Client τ) (m : Mutation)
    (s : Session σ) : ((c.zoom l).mutate m).run s = ((c.mutate m).zoom l).run s := by
  cases m with
  | create e => cases e <;> exact Call.run_zoom_drop l _ s
  | delete k id => rfl

/-- The books of one pass over a set of changes. -/
structure Pass where
  attempted : Nat := 0
  applied : Counts := {}
  failures : List ChangeFailure := []
  deriving DecidableEq

section
variable {σ : Type} (c : Client σ) (mode : FailureMode) (op : Operation)

/-- Applies entities of one kind in order.  `applied` of the `total` entities of the kind
    were applied before. -/
def applyEntities (k : Kind) (total : Nat) : List Entity → Nat → Pass → SyncM σ (Nat × Pass)
  | [], applied, pass => return (applied, pass)
  | e :: rest, applied, pass => do
    if ← SyncM.cancelled then
      throw (Failure.of (.interrupted (.ofOperation op) applied k))
    let pass := { pass with attempted := pass.attempted + 1 }
    match ← SyncM.attempt (c.mutate (op.mutation e)) with
    | .ok _ =>
      SyncM.note (op.mutation e) true
      SyncM.log .debug .apply
        s!"{(Phase.ofOperation op).pastTense} {k.singular} {e.label} ({e.id})"
      SyncM.emit (.entityApplied (.ofOperation op) k e.label)
      applyEntities k total rest (applied + 1) pass
    | .error fault =>
      SyncM.note (op.mutation e) false
      SyncM.emit (.entityFailed (.ofOperation op) k e.label fault)
      let failure := ⟨op, k, e.id, e.label, c.endpoint, fault⟩
      match mode with
      | .failFast =>
        SyncM.emit (.kindFinished (.ofOperation op) k applied total)
        throw (Failure.of (.change failure))
      | .collectErrors =>
        applyEntities k total rest applied { pass with failures := pass.failures ++ [failure] }

/-- One entity: unless the run is found cancelled, the mutation is sent, and its outcome decides
    how the phase goes on. -/
theorem run_applyEntities_cons (k : Kind) (total : Nat) (e : Entity) (rest : List Entity)
    (applied : Nat) (pass : Pass) (r : Run σ) :
    (applyEntities c mode op k total (e :: rest) applied pass).run r =
      let pass := { pass with attempted := pass.attempted + 1 }
      if r.token.look.cancelled then
        (.error (Failure.of (.interrupted (.ofOperation op) applied k)), r.look)
      else
        match (c.mutate (op.mutation e)).run r.look.session with
        | (.ok _, s) =>
          (do
            SyncM.note (op.mutation e) true
            SyncM.log .debug .apply
              s!"{(Phase.ofOperation op).pastTense} {k.singular} {e.label} ({e.id})"
            SyncM.emit (.entityApplied (.ofOperation op) k e.label)
            applyEntities c mode op k total rest (applied + 1) pass : SyncM σ _).run
              (r.look.resume s)
        | (.error fault, s) =>
          let failure := ⟨op, k, e.id, e.label, c.endpoint, fault⟩
          (do
            SyncM.note (op.mutation e) false
            SyncM.emit (.entityFailed (.ofOperation op) k e.label fault)
            match mode with
            | .failFast =>
              SyncM.emit (.kindFinished (.ofOperation op) k applied total)
              throw (Failure.of (.change failure))
            | .collectErrors =>
              applyEntities c mode op k total rest applied
                { pass with failures := pass.failures ++ [failure] } : SyncM σ _).run
              (r.look.resume s) := by
  simp only [applyEntities, SyncM.run_bind, SyncM.run_cancelled]
  split
  · rfl
  · simp only [SyncM.run_bind, SyncM.run_attempt]
    rcases (c.mutate (op.mutation e)).run _ with ⟨_ | _, _⟩ <;> rfl

/-- Applies all entities of one kind.  A kind without entities is passed over in silence. -/
def applyKind (changes : Graph) (k : Kind) (pass : Pass) : SyncM σ Pass := do
  let items := changes.entities k
  if items.isEmpty then return pass
  SyncM.emit (.kindStarted (.ofOperation op) k items.length)
  let (applied, pass) ← applyEntities c mode op k items.length items 0 pass
  SyncM.emit (.kindFinished (.ofOperation op) k applied items.length)
  return { pass with applied := pass.applied.set k applied }

/-- Applies the kinds of a list in order. -/
def applyKinds (changes : Graph) : List Kind → Pass → SyncM σ Pass
  | [], pass => return pass
  | k :: ks, pass => do applyKinds changes ks (← applyKind c mode op changes k pass)

/-- Applies a set of changes and returns how many entities of each kind were applied. -/
def applyChanges (changes : Graph) : SyncM σ Counts := do
  let pass ← applyKinds c mode op changes op.order {}
  if pass.failures.isEmpty then return pass.applied
  throw (Failure.of (.changes op pass.attempted pass.failures))

end

end TenantSync
