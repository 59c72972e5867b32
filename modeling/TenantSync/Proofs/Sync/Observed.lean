import TenantSync.Proofs.Session.Keeping
import TenantSync.Proofs.Sync.Annotation
import TenantSync.Proofs.Sync.Outcome

/-!
# Observed clients

What a run asks of its clients is best seen from their side.  `Client.observed` is any client
together with a list of the mutations it was called for and how it answered.  Three facts connect
that list with a run:

- `synchronize_unobserved`: being observed does not change what a run does,
- `snapshots_keep`: reading both tenants adds nothing to the list,
- `carryOut_observed`: from there on it grows by exactly the mutations in the trace of the run.
-/

namespace TenantSync

/-- The mutations that the clients of a run were called for, in order: on which side, what for, and
    whether the call succeeded. -/
abbrev CallLog := List (Side × Mutation × Bool)

/-- The call together with a note of what it was for and how it ended. -/
def Call.observed {σ α : Type} (side : Side) (m : Mutation) (c : Call σ α) :
    Call (σ × CallLog) α :=
  ExceptT.mk fun s =>
    let (out, t) := (c.zoom .first).run s
    (out, { t with world := (t.world.1, s.world.2 ++ [(side, m, out.isOk)]) })

/-- The note tells whether the call succeeded, whatever becomes of what it returned. -/
theorem Call.run_observed_drop {σ α : Type} (side : Side) (m : Mutation) (c : Call σ α)
    (s : Session (σ × CallLog)) :
    let out := (do let _ ← c.observed side m : Call (σ × CallLog) Unit).run s
    out.2.world.2 = s.world.2 ++ [(side, m, out.1.isOk)] := by
  have hobserved : (c.observed side m).run s =
      let out := (c.zoom .first).run s
      (out.1, { out.2 with world := (out.2.world.1, s.world.2 ++ [(side, m, out.1.isOk)]) }) := rfl
  simp only [run_bind, hobserved]
  rcases (c.zoom .first).run s with ⟨f | x, t⟩ <;> rfl

/-- The client together with a list of the mutations that it was called for. -/
def Client.observed {σ : Type} (side : Side) (c : Client σ) : Client (σ × CallLog) where
  endpoint := c.endpoint
  listObjectTypes := c.listObjectTypes.zoom .first
  listEdgeTypes := c.listEdgeTypes.zoom .first
  listObjects cursor := (c.listObjects cursor).zoom .first
  listEdges cursor := (c.listEdges cursor).zoom .first
  createObjectType id typeName :=
    (c.createObjectType id typeName).observed side (.create (.objectType { id, typeName }))
  createObject id typeId alias? :=
    (c.createObject id typeId alias?).observed side (.create (.object { id, typeId, alias? }))
  createEdgeType id sourceTypeId targetTypeId typeName attributes :=
    (c.createEdgeType id sourceTypeId targetTypeId typeName attributes).observed side
      (.create (.edgeType { id, typeName, sourceTypeId, targetTypeId, attributes }))
  createEdge id sourceId targetId edgeTypeId :=
    (c.createEdge id sourceId targetId edgeTypeId).observed side
      (.create (.edge { id, edgeTypeId, sourceId, targetId }))
  delete k id := (c.delete k id).observed side (.delete k id)
  pageBound w := c.pageBound w.1

/-- Every mutation of an observed client is noted with its outcome. -/
theorem Client.observed_answers {σ : Type} (side : Side) (c : Client σ) :
    (c.observed side).Answers True fun w m ok w' => w'.2 = w.2 ++ [(side, m, ok)] := by
  intro m s _
  refine ⟨.any _, ?_⟩
  cases m with
  | create e => cases e <;> exact Call.run_observed_drop side _ _ s
  | delete k id => rfl

/-- What an observed client is called for is noted in order. -/
theorem Sweep.observed {σ : Type} {stops : Prop} {mode : FailureMode} {side : Side}
    {plan : List Mutation} {w w' : σ × CallLog} {sent : List (Mutation × Bool)} {e : Ending}
    (h : Sweep stops mode (fun w m ok w' => w'.2 = w.2 ++ [(side, m, ok)]) plan w sent w' e) :
    w'.2 = w.2 ++ sent.map (side, ·) := by
  induction h with
  | finished | interrupted => exact (List.append_nil _).symm
  | applied hstep _ ih | failed _ hstep _ ih =>
    rw [ih, hstep, List.append_assoc]
    rfl
  | aborted _ _ hstep => exact hstep

/-- So it is over the phases of a run. -/
theorem RunEnds.observed {σ : Type} {stops readable : Prop} {side : Side} {source destination : String}
    {o : Options} {s d : Graph} {w w' : σ × CallLog} {sent : List (Mutation × Bool)}
    {out : Except SyncFailure Report}
    (h : RunEnds stops (fun w m ok w' => w'.2 = w.2 ++ [(side, m, ok)]) readable source destination
      o s d w sent w' out) :
    w'.2 = w.2 ++ sent.map (side, ·) := by
  cases h with
  | unread => exact (List.append_nil _).symm
  | undeleted hdel => exact hdel.observed
  | uncreated hdel _ hins | done _ hdel _ hins =>
    rw [hins.observed, hdel.observed, List.append_assoc, List.map_append]

/-- A run that carries out its plans calls the destination for exactly the mutations that stand in
    its trace. -/
theorem carryOut_observed {σ : Type} (source destination : Client σ) (o : Options) (started : Int)
    (s d : Graph) (r : Run (σ × CallLog)) :
    ∃ calls,
      ((carryOut (source.observed .source) (destination.observed .destination) o started s d).run
        r).2.mutations = r.mutations ++ calls ∧
      ((carryOut (source.observed .source) (destination.observed .destination) o started s d).run
        r).2.world.2 = r.world.2 ++ calls.map (Side.destination, ·) := by
  obtain ⟨sent, hsent, hends⟩ := carryOut_ends (source.observed .source) o trivial
    (destination.observed_answers .destination) started s d (.any r.token)
  exact ⟨sent, hsent, hends.observed⟩

/-! ## Reading is no mutation -/

/-- Whatever the step does, it sends no mutation and leaves a part of the world alone. -/
def SyncM.Keeps {σ α β : Type} (f : σ → β) (m : SyncM σ α) : Prop :=
  ∀ r, f (m.run r).2.world = f r.world ∧ (m.run r).2.mutations = r.mutations

namespace SyncM.Keeps

variable {σ α β γ : Type} {f : σ → β}

/-- Two steps that keep it keep it one after the other. -/
theorem bind {m : SyncM σ α} {g : α → SyncM σ γ} (hm : Keeps f m) (hg : ∀ x, Keeps f (g x)) :
    Keeps f (m >>= g) := by
  intro r
  have h := hm r
  rw [run_bind]
  rcases hrun : m.run r with ⟨e | x, r'⟩ <;> rw [hrun] at h
  · exact h
  · exact ⟨(hg x r').1.trans h.1, (hg x r').2.trans h.2⟩

/-- A client's call keeps in a run what it keeps by itself. -/
theorem call {c : Call σ α} (hc : Call.Keeps f c) : Keeps f (SyncM.call c) := by
  intro r
  rw [run_call]
  exact ⟨hc r.session, r.resume_mutations _⟩

/-- A step of which each part keeps something keeps it. -/
def steps (f : σ → β) : StepRelation σ σ where
  Rel m _ := Keeps f m
  pure _ _ := ⟨rfl, rfl⟩
  throw _ _ := ⟨rfl, rfl⟩
  emit e r := ⟨rfl, r.tell_mutations e⟩
  log _ _ _ _ r := ⟨rfl, r.write_mutations _⟩
  bind := bind
  within a hm r := by
    rw [run_within]
    exact hm r

end SyncM.Keeps

/-- Observed listings leave the call log as it is. -/
theorem Client.observed_lists_keep {σ : Type} (side : Side) (c : Client σ) :
    (SyncM.Keeps.steps Prod.snd).Lists (c.observed side) (c.observed side) where
  endpoint := rfl
  objectTypes := .call (.zoom_first _)
  objects := .call (.collectPages _ _ fun _ => .zoom_first _)
  edgeTypes := .call (.zoom_first _)
  edges := .call (.collectPages _ _ fun _ => .zoom_first _)

/-- Reading both tenants calls neither of them for a mutation. -/
theorem snapshots_keep {σ : Type} (source destination : Client σ) (o : Options) :
    SyncM.Keeps Prod.snd
      (snapshots (source.observed .source) (destination.observed .destination) o) :=
  StepRelation.snapshots (Q := SyncM.Keeps.steps Prod.snd) (source.observed_lists_keep _)
    (destination.observed_lists_keep _) o

/-- Reading both tenants calls neither for a mutation. -/
theorem snapshots_mutations {σ : Type} (source destination : Client σ) (o : Options) (r : Run σ) :
    ((snapshots source destination o).run r).2.mutations = r.mutations := by
  have hcall : ∀ {α : Type} (c : Call σ α), SyncM.Keeps (fun _ : σ => ()) (SyncM.call c) :=
    fun _ => .call fun _ => rfl
  have hlists : ∀ c : Client σ, (SyncM.Keeps.steps fun _ : σ => ()).Lists c c :=
    fun _ => ⟨rfl, hcall _, hcall _, hcall _, hcall _⟩
  have hkeeps : SyncM.Keeps (fun _ : σ => ()) (snapshots source destination o) :=
    StepRelation.snapshots (hlists source) (hlists destination) o
  exact (hkeeps r).2

/-! ## Being observed changes nothing -/

/-- The run without what was noted. -/
def Run.unobserved {σ : Type} (r : Run (σ × CallLog)) : Run σ :=
  ⟨r.world.1, r.token, r.clock, r.trace⟩

/-- An observed client differs from the client itself only by its notes. -/
theorem Client.observed_annotates {σ : Type} (side : Side) (c : Client σ) :
    (c.observed side).Annotates c where
  endpoint := rfl
  listObjectTypes _ := rfl
  listEdgeTypes _ := rfl
  listObjects _ _ := rfl
  listEdges _ _ := rfl
  createObjectType _ _ _ := rfl
  createObject _ _ _ _ := rfl
  createEdgeType _ _ _ _ _ _ := rfl
  createEdge _ _ _ _ _ := rfl
  delete _ _ _ := rfl
  pageBound _ := rfl

/-- Reading both sides logs no change. -/
theorem snapshots_unobserved {σ : Type} (source destination : Client σ) (o : Options)
    (r : Run (σ × CallLog)) :
    let run := (snapshots (source.observed .source) (destination.observed .destination) o).run r
    (snapshots source destination o).run r.unobserved = (run.1, run.2.unobserved) :=
  snapshots_annotates (source.observed_annotates .source)
    (destination.observed_annotates .destination) o r

/-- Being observed does not change what a run does. -/
theorem synchronize_unobserved {σ : Type} (source destination : Client σ) (o : Options)
    (r : Run (σ × CallLog)) :
    let run := (synchronize (source.observed .source) (destination.observed .destination) o).run r
    (synchronize source destination o).run r.unobserved = (run.1, run.2.unobserved) :=
  synchronize_annotates (source.observed_annotates .source)
    (destination.observed_annotates .destination) o r

end TenantSync
