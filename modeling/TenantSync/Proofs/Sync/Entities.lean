import TenantSync.Sync.Apply

/-!
# How the entities of a kind are applied

`Applies` says once what a phase can do with the entities of a kind, and where each way leaves the
run: the list is done, or the run is found cancelled before an entity, or the entity is applied, or
its mutation fails and the mode decides how to go on.  What holds of the loop in all runs is proved
by induction on it (`applyEntities_applies`).
-/

namespace TenantSync

variable {σ : Type}

namespace Run

variable (r : Run σ) (op : Operation) (k : Kind) (e : Entity) (s : Session σ)

/-- The run after the mutation of an entity succeeded. -/
def succeeded : Run σ :=
  (((r.look.resume s).note (op.mutation e) true).write
      ⟨.debug, .apply, s!"{(Phase.ofOperation op).pastTense} {k.singular} {e.label} ({e.id})"⟩).tell
    (.entityApplied (.ofOperation op) k e.label)

/-- The run after the mutation of an entity failed. -/
def failed (fault : Fault) : Run σ :=
  ((r.look.resume s).note (op.mutation e) false).tell
    (.entityFailed (.ofOperation op) k e.label fault)

@[simp] theorem succeeded_world : (r.succeeded op k e s).world = s.world := rfl

@[simp] theorem failed_world (fault : Fault) : (r.failed op k e s fault).world = s.world := rfl

@[simp] theorem succeeded_mutations :
    (r.succeeded op k e s).mutations = r.mutations ++ [(op.mutation e, true)] := by
  simp [succeeded]

@[simp] theorem failed_mutations (fault : Fault) :
    (r.failed op k e s fault).mutations = r.mutations ++ [(op.mutation e, false)] := by
  simp [failed]

end Run

/-- `Applies c mode op k total es applied pass r out r'`: going through the entities `es`, of which
    the kind has `total` and `applied` were applied before, may lead from the run `r` and the books
    `pass` to the outcome `out` and the run `r'`. -/
inductive Applies (c : Client σ) (mode : FailureMode) (op : Operation) (k : Kind) (total : Nat) :
    List Entity → Nat → Pass → Run σ → Except SyncFailure (Nat × Pass) → Run σ → Prop where
  | finished (applied : Nat) (pass : Pass) (r : Run σ) :
      Applies c mode op k total [] applied pass r (.ok (applied, pass)) r
  | interrupted {e : Entity} {es : List Entity} {applied : Nat} {pass : Pass} {r : Run σ}
      (hcancelled : r.token.look.cancelled = true) :
      Applies c mode op k total (e :: es) applied pass r
        (.error (Failure.of (.interrupted (.ofOperation op) applied k))) r.look
  | applied {e : Entity} {es : List Entity} {applied : Nat} {pass : Pass} {r r' : Run σ}
      {s : Session σ} {out : Except SyncFailure (Nat × Pass)}
      (hlive : r.token.look.cancelled = false)
      (hcall : (c.mutate (op.mutation e)).run r.look.session = (.ok (), s))
      (hrest : Applies c mode op k total es (applied + 1)
        { pass with attempted := pass.attempted + 1 } (r.succeeded op k e s) out r') :
      Applies c mode op k total (e :: es) applied pass r out r'
  | aborted {e : Entity} {es : List Entity} {applied : Nat} {pass : Pass} {r : Run σ}
      {s : Session σ} {fault : Fault} (hmode : mode = .failFast)
      (hlive : r.token.look.cancelled = false)
      (hcall : (c.mutate (op.mutation e)).run r.look.session = (.error fault, s)) :
      Applies c mode op k total (e :: es) applied pass r
        (.error (Failure.of (.change ⟨op, k, e.id, e.label, c.endpoint, fault⟩)))
        ((r.failed op k e s fault).tell (.kindFinished (.ofOperation op) k applied total))
  | failed {e : Entity} {es : List Entity} {applied : Nat} {pass : Pass} {r r' : Run σ}
      {s : Session σ} {fault : Fault} {out : Except SyncFailure (Nat × Pass)}
      (hmode : mode = .collectErrors) (hlive : r.token.look.cancelled = false)
      (hcall : (c.mutate (op.mutation e)).run r.look.session = (.error fault, s))
      (hrest : Applies c mode op k total es applied
        { pass with
          attempted := pass.attempted + 1
          failures := pass.failures ++ [⟨op, k, e.id, e.label, c.endpoint, fault⟩] }
        (r.failed op k e s fault) out r') :
      Applies c mode op k total (e :: es) applied pass r out r'

/-- This is all that can happen to the entities of a kind. -/
theorem applyEntities_applies (c : Client σ) (mode : FailureMode) (op : Operation) (k : Kind)
    (total : Nat) (es : List Entity) (applied : Nat) (pass : Pass) (r : Run σ) :
    ∃ out r', (applyEntities c mode op k total es applied pass).run r = (out, r') ∧
      Applies c mode op k total es applied pass r out r' := by
  -- The run, its books and its counter all move on with each entity.
  induction es generalizing applied pass r with
  | nil => exact ⟨_, _, rfl, .finished applied pass r⟩
  | cons e es ih =>
    rw [run_applyEntities_cons]
    -- First the run looks whether it was cancelled.
    by_cases hcancelled : r.token.look.cancelled = true
    · simp only [hcancelled, if_true]
      exact ⟨_, _, rfl, .interrupted hcancelled⟩
    have hlive : r.token.look.cancelled = false := by simpa using hcancelled
    simp only [hlive, Bool.false_eq_true, if_false]
    -- Then it sends the mutation, and goes by the client's answer.
    rcases hcall : (c.mutate (op.mutation e)).run r.look.session with ⟨fault | _, s⟩
    case ok =>
      simp only [SyncM.run_bind, SyncM.run_note, SyncM.run_log, SyncM.run_emit]
      obtain ⟨out, r', hrun, hrest⟩ := ih (applied + 1)
        { pass with attempted := pass.attempted + 1 } (r.succeeded op k e s)
      exact ⟨out, r', hrun, .applied hlive hcall hrest⟩
    case error =>
      simp only [SyncM.run_bind, SyncM.run_note, SyncM.run_emit]
      -- After a failure the mode decides whether the rest of the list is still done.
      cases mode with
      | failFast =>
        simp only [SyncM.run_bind, SyncM.run_emit, SyncM.run_throw]
        exact ⟨_, _, rfl, .aborted rfl hlive hcall⟩
      | collectErrors =>
        obtain ⟨out, r', hrun, hrest⟩ := ih applied
          { pass with
            attempted := pass.attempted + 1
            failures := pass.failures ++ [⟨op, k, e.id, e.label, c.endpoint, fault⟩] }
          (r.failed op k e s fault)
        exact ⟨out, r', hrun, .failed rfl hlive hcall hrest⟩

end TenantSync
