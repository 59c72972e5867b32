import TenantSync.Proofs.Sync.Annotation
import TenantSync.Proofs.Sync.Outcome

/-!
# The states that a run passes through

`Client.watched` is any client together with a list of the states that its calls left behind, the
reading ones included.  A run with watched clients does what it would do without
(`Client.watched_annotates`), and what it passed through can be read off the list.

A state that a sweep passes through is one at which it might have been stopped (`Sweep.passed`), and
the same goes for both phases of a run (`RunEnds.passed`).  So what is known of the states in which
runs can end holds all the way.
-/

namespace TenantSync

variable {σ α : Type}

/-- The call together with a note of the state that it leaves. -/
def Call.watched (c : Call σ α) : Call (σ × List σ) α :=
  c.annotated fun _ w passed => passed ++ [w]

/-- The client together with a list of the states that its calls left. -/
def Client.watched (c : Client σ) : Client (σ × List σ) where
  endpoint := c.endpoint
  listObjectTypes := c.listObjectTypes.watched
  listEdgeTypes := c.listEdgeTypes.watched
  listObjects cursor := (c.listObjects cursor).watched
  listEdges cursor := (c.listEdges cursor).watched
  createObjectType id typeName := (c.createObjectType id typeName).watched
  createObject id typeId alias? := (c.createObject id typeId alias?).watched
  createEdgeType id sourceTypeId targetTypeId typeName attributes :=
    (c.createEdgeType id sourceTypeId targetTypeId typeName attributes).watched
  createEdge id sourceId targetId edgeTypeId :=
    (c.createEdge id sourceId targetId edgeTypeId).watched
  delete k id := (c.delete k id).watched
  pageBound w := c.pageBound w.1

/-- A watched client differs from the client itself only by its notes. -/
theorem Client.watched_annotates (c : Client σ) : c.watched.Annotates c where
  endpoint := rfl
  listObjectTypes := .annotated _ _
  listEdgeTypes := .annotated _ _
  listObjects _ := .annotated _ _
  listEdges _ := .annotated _ _
  createObjectType _ _ := .annotated _ _
  createObject _ _ _ := .annotated _ _
  createEdgeType _ _ _ _ _ := .annotated _ _
  createEdge _ _ _ _ := .annotated _ _
  delete _ _ := .annotated _ _
  pageBound _ := rfl

/-! ## What a watched client notes -/

/-- The last state that was noted is the present one, and all of them are in `W`. -/
def Throughout (W : σ → Prop) (w : σ × List σ) : Prop :=
  w.2.getLast? = some w.1 ∧ ∀ v ∈ w.2, W v

/-- What holds throughout holds now. -/
theorem Throughout.now {W : σ → Prop} {w : σ × List σ} (h : Throughout W w) : W w.1 :=
  h.2 _ (List.mem_of_getLast? h.1)

/-- The answer is allowed, and the state it leaves is noted. -/
def Noted (R : σ → Mutation → Bool → σ → Prop) (w : σ × List σ) (m : Mutation) (ok : Bool)
    (w' : σ × List σ) : Prop :=
  R w.1 m ok w'.1 ∧ w'.2 = w.2 ++ [w'.1]

/-- After an answer, one more state was noted. -/
theorem Noted.passed {R : σ → Mutation → Bool → σ → Prop} {w w' : σ × List σ} {m : Mutation}
    {ok : Bool} (h : Noted R w m ok w') {v : σ} (hv : v ∈ w'.2) : v ∈ w.2 ∨ v = w'.1 := by
  rw [h.2] at hv
  exact (List.mem_append.mp hv).imp_right List.mem_singleton.mp

/-- A watched call reads what the call reads, and notes a state that the reading allows. -/
theorem Call.Reads.watched {stops : Prop} {W : σ → Prop} {P : Prop} {x : α} {c : Call σ α}
    (hc : Call.Reads stops W P x c) : Call.Reads stops (Throughout W) P x c.watched := by
  intro s hw ht
  obtain ⟨hw', ht', hout⟩ := hc s.bare hw.now ht
  refine ⟨⟨List.getLast?_concat, fun v hv => ?_⟩, ht', hout⟩
  obtain hv | hv := List.mem_append.mp hv
  · exact hw.2 v hv
  · rwa [List.mem_singleton.mp hv]

/-- The note is taken before what the call returns is dropped. -/
theorem Call.run_watched_drop (c : Call σ α) (s : Session (σ × List σ)) :
    let w := ((do let _ ← c.watched : Call (σ × List σ) Unit).run s).2.world
    w.2 = s.world.2 ++ [w.1] := by
  have hnoted : (c.watched.run s).2.world.2 = s.world.2 ++ [(c.watched.run s).2.world.1] := rfl
  simp only [run_bind]
  rcases hrun : c.watched.run s with ⟨f | x, t⟩ <;> rw [hrun] at hnoted <;> exact hnoted

/-- A watched client answers as the client itself, and notes the state after each answer. -/
theorem Client.Answers.watched {stops : Prop} {R : σ → Mutation → Bool → σ → Prop} {c : Client σ}
    (hc : c.Answers stops R) : c.watched.Answers stops (Noted R) := by
  intro m s ht
  obtain ⟨ht', hstep⟩ := hc m s.bare ht
  rw [c.watched_annotates.mutate m s] at ht' hstep
  refine ⟨ht', hstep, ?_⟩
  cases m with
  | create e => cases e <;> exact Call.run_watched_drop _ s
  | delete k id => rfl

/-! ## Stopping a run on its way -/

namespace Sweep

variable {stops : Prop} {mode : FailureMode} {R : σ → Mutation → Bool → σ → Prop}
  {plan : List Mutation} {e : Ending}

/-- What can happen to a run that nobody stops can happen to one that somebody may stop. -/
theorem stoppable {w w' : σ} {sent : List (Mutation × Bool)}
    (h : Sweep stops mode R plan w sent w' e) : Sweep True mode R plan w sent w' e := by
  induction h with
  | finished w => exact .finished w
  | interrupted m plan w => exact .interrupted m plan w trivial
  | applied hstep _ ih => exact .applied hstep ih
  | aborted plan hmode hstep => exact .aborted plan hmode hstep
  | failed hmode hstep _ ih => exact .failed hmode hstep ih

/-- A sweep may be stopped before it has done anything. -/
theorem halted (mode : FailureMode) (R : σ → Mutation → Bool → σ → Prop) (plan : List Mutation)
    (w : σ) : ∃ e, Sweep True mode R plan w [] w e := by
  cases plan with
  | nil => exact ⟨_, .finished w⟩
  | cons m plan => exact ⟨_, .interrupted m plan w trivial⟩

/-- A state that a sweep passes through is one at which it might have been stopped. -/
theorem passed {w w' : σ × List σ} {sent : List (Mutation × Bool)}
    (h : Sweep stops mode (Noted R) plan w sent w' e) {v : σ} (hv : v ∈ w'.2) :
    v ∈ w.2 ∨ ∃ sent e, Sweep True mode R plan w.1 sent v e := by
  induction h with
  | finished | interrupted => exact .inl hv
  | applied hstep _ ih =>
    -- The state was there before, or this answer left it, or it comes later.
    obtain hv | ⟨sent, e, hrest⟩ := ih hv
    · obtain hv | rfl := hstep.passed hv
      · exact .inl hv
      · obtain ⟨e, hrest⟩ := halted ..
        exact .inr ⟨_, e, .applied hstep.1 hrest⟩
    · exact .inr ⟨_, e, .applied hstep.1 hrest⟩
  | aborted plan hmode hstep =>
    obtain hv | rfl := hstep.passed hv
    · exact .inl hv
    · exact .inr ⟨_, _, .aborted plan hmode hstep.1⟩
  | failed hmode hstep _ ih =>
    obtain hv | ⟨sent, e, hrest⟩ := ih hv
    · obtain hv | rfl := hstep.passed hv
      · exact .inl hv
      · obtain ⟨e, hrest⟩ := halted ..
        exact .inr ⟨_, e, .failed hmode hstep.1 hrest⟩
    · exact .inr ⟨_, e, .failed hmode hstep.1 hrest⟩

end Sweep

namespace RunEnds

variable {stops readable : Prop} {R : σ → Mutation → Bool → σ → Prop} {source destination : String}
  {o : Options} {s d : Graph}

/-- After all deletions, a run may end wherever its creations are stopped. -/
theorem of_insertions {w w' w'' : σ} {sent sent' : List (Mutation × Bool)} {e e' : Ending}
    (hdel : Sweep True o.mode R (o.deletionSteps s d) w sent w' e) (hc : Complete sent e)
    (hins : Sweep True o.mode R (o.insertionSteps s d) w' sent' w'' e') :
    ∃ sent out, RunEnds True R True source destination o s d w sent w'' out := by
  -- How the run ends does not matter here, so the failure may be any that names the phase.
  by_cases hc' : Complete sent' e'
  · exact ⟨_, _, .done trivial hdel hc hins hc' (fun _ => rfl) (fun _ => rfl) 0⟩
  · exact ⟨_, _, .uncreated hdel hc hins hc' (f := ⟨[_], .call .endless⟩) rfl⟩

/-- A run may end wherever its deletions are stopped. -/
theorem of_deletions {w w' : σ} {sent : List (Mutation × Bool)} {e : Ending}
    (hdel : Sweep True o.mode R (o.deletionSteps s d) w sent w' e) :
    ∃ sent out, RunEnds True R True source destination o s d w sent w' out := by
  by_cases hc : Complete sent e
  · obtain ⟨e', hins⟩ := Sweep.halted o.mode R (o.insertionSteps s d) w'
    exact of_insertions hdel hc hins
  · exact ⟨_, _, .undeleted hdel hc (f := ⟨[_], .call .endless⟩) rfl⟩

/-- A state that a run passes through once it has read both tenants is one in which it might have
    ended, had it been stopped there. -/
theorem passed {w w' : σ × List σ} {sent : List (Mutation × Bool)}
    {out : Except SyncFailure Report}
    (h : RunEnds stops (Noted R) readable source destination o s d w sent w' out) {v : σ}
    (hv : v ∈ w'.2) :
    v ∈ w.2 ∨ ∃ sent out, RunEnds True R True source destination o s d w.1 sent v out := by
  cases h with
  | unread => exact .inl hv
  | undeleted hdel => exact (hdel.passed hv).imp_right fun ⟨_, _, hsweep⟩ => of_deletions hsweep
  | uncreated hdel hc hins | done _ hdel hc hins =>
    -- The state belongs to the creations, or else to the deletions before them.
    obtain hv | ⟨_, _, hsweep⟩ := hins.passed hv
    · exact (hdel.passed hv).imp_right fun ⟨_, _, hsweep⟩ => of_deletions hsweep
    · exact .inr (of_insertions (hdel.map Prod.fst fun _ _ _ _ h => h.1).stoppable hc hsweep)

end RunEnds

end TenantSync
