import TenantSync.Proofs.Sync.Stages

/-!
# Relations between the steps of two runs

Two runs that differ in their clients go through the same steps.  To compare them it is enough to
compare the calls they make: a `StepRelation` is a relation between steps that holds of those that
make no call and goes over from the parts of a step to the whole.  If it holds of the listings
(`StepRelation.Lists`) and of the mutations (`StepRelation.Clients`), it holds of all that the two
runs do before they report (`StepRelation.carriedOut`).
-/

namespace TenantSync

variable {σ τ α β : Type}

/-! ## One mutation -/

/-- Sends the mutation of an entity unless the run is found cancelled, and notes its outcome. -/
def send (c : Client σ) (op : Operation) (kind : Kind) (applied : Nat) (e : Entity) :
    SyncM σ (Except Fault Unit) := do
  if ← SyncM.cancelled then
    throw (Failure.of (.interrupted (.ofOperation op) applied kind))
  let outcome ← SyncM.attempt (c.mutate (op.mutation e))
  SyncM.note (op.mutation e) outcome.isOk
  return outcome

/-- A change is sent unless the token is cancelled when the run looks at it. -/
theorem run_send (c : Client σ) (op : Operation) (kind : Kind) (applied : Nat) (e : Entity)
    (r : Run σ) :
    (send c op kind applied e).run r =
      if r.token.look.cancelled then
        (.error (Failure.of (.interrupted (.ofOperation op) applied kind)), r.look)
      else
        (.ok ((c.mutate (op.mutation e)).run r.look.session).1,
          (r.look.resume ((c.mutate (op.mutation e)).run r.look.session).2).note (op.mutation e)
            ((c.mutate (op.mutation e)).run r.look.session).1.isOk) := by
  simp only [send, SyncM.run_bind, SyncM.run_cancelled]
  split <;> rfl

/-- Steps that always do the same are the same. -/
theorem SyncM.ext {m m' : SyncM σ α} (h : ∀ r, m.run r = m'.run r) : m = m' := funext h

/-- One entity is sent, and what it is answered decides how the phase goes on. -/
theorem applyEntities_cons_eq_send (c : Client σ) (mode : FailureMode) (op : Operation)
    (kind : Kind) (total : Nat) (e : Entity) (rest : List Entity) (applied : Nat) (pass : Pass) :
    applyEntities c mode op kind total (e :: rest) applied pass = (do
      let pass := { pass with attempted := pass.attempted + 1 }
      match ← send c op kind applied e with
      | .ok _ =>
        SyncM.log .debug .apply
          s!"{(Phase.ofOperation op).pastTense} {kind.singular} {e.label} ({e.id})"
        SyncM.emit (.entityApplied (.ofOperation op) kind e.label)
        applyEntities c mode op kind total rest (applied + 1) pass
      | .error fault =>
        SyncM.emit (.entityFailed (.ofOperation op) kind e.label fault)
        let failure := ⟨op, kind, e.id, e.label, c.endpoint, fault⟩
        match mode with
        | .failFast =>
          SyncM.emit (.kindFinished (.ofOperation op) kind applied total)
          throw (Failure.of (.change failure))
        | .collectErrors =>
          applyEntities c mode op kind total rest applied
            { pass with failures := pass.failures ++ [failure] } : SyncM σ (Nat × Pass)) := by
  refine SyncM.ext fun r => ?_
  rw [run_applyEntities_cons, SyncM.run_bind, run_send]
  by_cases hcan : r.token.look.cancelled = true
  · simp only [hcan, if_true]
  · simp only [hcan]
    rcases (c.mutate (op.mutation e)).run r.look.session with ⟨f | x, s⟩ <;> rfl

/-! ## Relations -/

/-- A relation between steps of two runs that only a call to a client can break. -/
structure StepRelation (σ τ : Type) where
  Rel : ∀ {α : Type}, SyncM σ α → SyncM τ α → Prop
  pure : ∀ {α : Type} (x : α), Rel (Pure.pure x) (Pure.pure x)
  throw : ∀ {α : Type} (f : SyncFailure), Rel (α := α) (MonadExcept.throw f) (MonadExcept.throw f)
  emit : ∀ e, Rel (SyncM.emit e) (SyncM.emit e)
  /-- The engine does not speak for a client. -/
  log : ∀ (level : Level) {component : Component} (text : String), component ≠ .http →
    Rel (SyncM.log level component text) (SyncM.log level component text)
  bind : ∀ {α β : Type} {m : SyncM σ α} {m' : SyncM τ α} {f : α → SyncM σ β} {f' : α → SyncM τ β},
    Rel m m' → (∀ x, Rel (f x) (f' x)) → Rel (m >>= f) (m' >>= f')
  within : ∀ {α : Type} {m : SyncM σ α} {m' : SyncM τ α} (a : Activity),
    Rel m m' → Rel (m.within a) (m'.within a)

namespace StepRelation

variable (Q : StepRelation σ τ)

/-- The listings of the two clients are related. -/
structure Lists (c : Client σ) (c' : Client τ) : Prop where
  endpoint : c'.endpoint = c.endpoint
  objectTypes : Q.Rel (SyncM.call c.listObjectTypes) (SyncM.call c'.listObjectTypes)
  objects : Q.Rel (SyncM.call (collectPages c.pageBound .object c.listObjects))
    (SyncM.call (collectPages c'.pageBound .object c'.listObjects))
  edgeTypes : Q.Rel (SyncM.call c.listEdgeTypes) (SyncM.call c'.listEdgeTypes)
  edges : Q.Rel (SyncM.call (collectPages c.pageBound .edge c.listEdges))
    (SyncM.call (collectPages c'.pageBound .edge c'.listEdges))

/-- The listings of the two clients are related, and so are their mutations. -/
structure Clients (c : Client σ) (c' : Client τ) : Prop extends Q.Lists c c' where
  send : ∀ op kind applied e, Q.Rel (send c op kind applied e) (send c' op kind applied e)

variable {Q}

/-- Related listings make related snapshots. -/
theorem fetchSnapshot {c : Client σ} {c' : Client τ} (h : Q.Lists c c') :
    Q.Rel (fetchSnapshot c) (fetchSnapshot c') := by
  simp only [TenantSync.fetchSnapshot, h.endpoint]
  refine Q.bind (Q.within _ h.objectTypes) fun _ => Q.bind (Q.emit _) fun _ => ?_
  refine Q.bind (Q.within _ h.objects) fun _ => Q.bind (Q.emit _) fun _ => ?_
  refine Q.bind (Q.within _ h.edgeTypes) fun _ => Q.bind (Q.emit _) fun _ => ?_
  exact Q.bind (Q.within _ h.edges) fun _ => Q.bind (Q.emit _) fun _ => Q.pure _

section
variable {c : Client σ} {c' : Client τ} (h : Q.Clients c c') (mode : FailureMode) (op : Operation)
include h

/-- The loops over a kind's entities are related, by induction on the entities left. -/
theorem applyEntities (kind : Kind) (total : Nat) (es : List Entity) (applied : Nat)
    (pass : Pass) :
    Q.Rel (applyEntities c mode op kind total es applied pass)
      (applyEntities c' mode op kind total es applied pass) := by
  induction es generalizing applied pass with
  | nil => exact Q.pure _
  | cons e es ih =>
    rw [applyEntities_cons_eq_send, applyEntities_cons_eq_send, h.endpoint]
    -- Both clients answer the same, and that decides how both go on.
    refine Q.bind (h.send op kind applied e) fun outcome => ?_
    cases outcome with
    | ok x =>
      exact Q.bind (Q.log _ _ (by decide)) fun _ => Q.bind (Q.emit _) fun _ => ih _ _
    | error fault =>
      refine Q.bind (Q.emit _) fun _ => ?_
      cases mode with
      | failFast => exact Q.bind (Q.emit _) fun _ => Q.throw _
      | collectErrors => exact ih _ _

/-- Related clients apply a kind in related ways. -/
theorem applyKind (changes : Graph) (kind : Kind) (pass : Pass) :
    Q.Rel (applyKind c mode op changes kind pass) (applyKind c' mode op changes kind pass) := by
  simp only [TenantSync.applyKind]
  split
  · exact Q.pure _
  · exact Q.bind (Q.emit _) fun _ => Q.bind (applyEntities h mode op kind _ _ _ _) fun _ =>
      Q.bind (Q.emit _) fun _ => Q.pure _

/-- Related clients apply several kinds in related ways, by induction on them. -/
theorem applyKinds (changes : Graph) (ks : List Kind) (pass : Pass) :
    Q.Rel (applyKinds c mode op changes ks pass) (applyKinds c' mode op changes ks pass) := by
  induction ks generalizing pass with
  | nil => exact Q.pure _
  | cons kind ks ih => exact Q.bind (applyKind h mode op changes kind pass) fun _ => ih _

/-- Related clients apply a graph of changes in related ways. -/
theorem applyChanges (changes : Graph) :
    Q.Rel (applyChanges c mode op changes) (applyChanges c' mode op changes) := by
  refine Q.bind (applyKinds h mode op changes _ _) fun pass => ?_
  split
  · exact Q.pure _
  · exact Q.throw _

/-- The phases of related clients are related. -/
theorem changePhase (o : Options) (idle : String) (changes : Graph) :
    Q.Rel (changePhase c o op idle changes) (changePhase c' o op idle changes) := by
  simp only [TenantSync.changePhase, h.endpoint]
  refine Q.bind (Q.emit _) fun _ => Q.bind (Q.emit _) fun _ => ?_
  split
  · exact Q.bind (Q.emit _) fun _ => Q.pure _
  split
  · exact Q.bind (Q.emit _) fun _ => Q.pure _
  · exact Q.bind (Q.within _ (applyChanges h o.mode op changes)) fun _ => Q.pure _

/-- The deletions of related clients are related. -/
theorem deletionPhase (o : Options) (s d : Graph) :
    Q.Rel (deletionPhase c o s d) (deletionPhase c' o s d) := by
  simp only [TenantSync.deletionPhase]
  split
  · exact Q.pure _
  · exact Q.bind (changePhase h .delete o _ _) fun _ => Q.pure _

end

section
variable {source destination : Client σ} {source' destination' : Client τ}

/-- The readings of both sides are related when the listings are. -/
theorem snapshots (hs : Q.Lists source source') (hd : Q.Lists destination destination')
    (o : Options) : Q.Rel (snapshots source destination o) (snapshots source' destination' o) := by
  simp only [TenantSync.snapshots, hs.endpoint, hd.endpoint]
  refine Q.bind (Q.log _ _ (by decide)) fun _ => Q.bind (Q.emit _) fun _ => ?_
  refine Q.bind (Q.within _ (fetchSnapshot hs)) fun _ => Q.bind (Q.emit _) fun _ => ?_
  exact Q.bind (Q.within _ (fetchSnapshot hd)) fun _ => Q.pure _

/-- What related runs do after reading is related. -/
theorem phases (hs : source'.endpoint = source.endpoint) (hd : Q.Clients destination destination')
    (o : Options) (s d : Graph) :
    Q.Rel (phases source destination o s d) (phases source' destination' o s d) := by
  simp only [TenantSync.phases, hs, hd.endpoint]
  refine Q.bind (deletionPhase hd o s d) fun _ => ?_
  exact Q.bind (changePhase hd .create o _ _) fun _ => Q.pure _

/-- All of a run but its report. -/
theorem carriedOut (hs : Q.Lists source source') (hd : Q.Clients destination destination')
    (o : Options) :
    Q.Rel (carriedOut source destination o) (carriedOut source' destination' o) :=
  Q.bind (snapshots hs hd.toLists o) fun (s, d) => phases hs.endpoint hd o s d

end

end StepRelation

end TenantSync
