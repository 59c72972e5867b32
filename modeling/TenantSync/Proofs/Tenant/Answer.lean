import TenantSync.Proofs.Graph.Obstruction
import TenantSync.Proofs.Sync.Sweep

/-!
# How an in-memory tenant answers mutations

`Tenant.Answer` says all that a mutation can do to a tenant: it succeeds and takes effect, it is
refused and only recorded, or the run was stopped and nothing happens.  Over a whole sweep this
gives three laws:

- `Sweep.graph_eq`: the graph is the old one with the successful mutations applied,
- `Sweep.record_eq`: unless the run was stopped, exactly what was sent was recorded,
- `Sweep.complete_iff_accepts`: with no injected failures, a sweep that cannot be stopped does the
  whole plan exactly when the store accepts it.
-/

namespace TenantSync

/-- The mutation as a tenant records it. -/
def Mutation.entry : Mutation → Tenant.Entry
  | .create e => ⟨.create, e.kind, e.id⟩
  | .delete k id => ⟨.delete, k, id⟩

/-- A change of an entity is recorded under the entity's kind and id. -/
theorem Operation.entry_mutation (op : Operation) (e : Entity) :
    (op.mutation e).entry = ⟨op, e.kind, e.id⟩ := by
  cases op <;> rfl

namespace Tenant

/-- How a tenant may answer a mutation. -/
inductive Answer (stops : Prop) : Tenant → Mutation → Bool → Tenant → Prop where
  | done {t : Tenant} {m : Mutation} (hfailing : m.entry.id ∉ t.failing)
      (hrule : t.graph.refusal? m = none) :
      Answer stops t m true { t with graph := t.graph.apply m, record := t.record ++ [m.entry] }
  | refused {t : Tenant} {m : Mutation}
      (hcause : m.entry.id ∈ t.failing ∨ t.graph.refusal? m ≠ none) :
      Answer stops t m false { t with record := t.record ++ [m.entry] }
  | stopped {t : Tenant} {m : Mutation} (hstop : stops) : Answer stops t m false t

/-- What was created is returned by the tenant and dropped by the run. -/
theorem run_insert_drop {α : Type} (e : Entity) (created : α) (s : Session Tenant) :
    (do let _ ← (do insert e; return created : Call Tenant α) : Call Tenant Unit).run s =
      (insert e).run s := by
  simp only [Call.run_bind]
  rcases (insert e).run s with ⟨_ | _, _⟩ <;> rfl

/-- A mutation is first registered and then put into effect if the rules allow it. -/
theorem run_mutate (endpoint : String) (m : Mutation) (s : Session Tenant) :
    ((client endpoint).mutate m).run s =
      (do
        register m.entry
        commit fun g =>
          match g.refusal? m with
          | some r => .error r
          | none => .ok (g.apply m) : Call Tenant Unit).run s := by
  cases m with
  | create e => cases e <;> exact run_insert_drop _ _ s
  | delete k id => rfl

/-- The client of a tenant passes on the tenant's answers. -/
theorem client_answers (stops : Prop) (endpoint : String) :
    (client endpoint).Answers stops (Answer stops) := by
  intro m s ht
  rw [run_mutate, Call.run_bind, run_register]
  -- The tenant looks at the token, then for an injected failure, then at its rules.
  by_cases hcan : s.token.look.cancelled = true
  · simp only [hcan, if_true]
    exact ⟨ht.look, .stopped (ht.stops_of_look hcan)⟩
  simp only [hcan, Bool.false_eq_true, if_false]
  by_cases hfail : m.entry.id ∈ s.world.failing
  · simp only [hfail, if_true]
    exact ⟨ht.look, .refused (.inl hfail)⟩
  simp only [hfail, if_false, run_commit]
  cases hrule : s.world.graph.refusal? m with
  | some r => exact ⟨ht.look, .refused (.inr (by simp [hrule]))⟩
  | none => exact ⟨ht.look, .done hfail hrule⟩

end Tenant

/-- A tenant that is part of a larger state answers there, and the rest of the state stays. -/
theorem Client.Answers.zoom {σ τ : Type} {stops : Prop} {R : τ → Mutation → Bool → τ → Prop}
    {c : Client τ} (h : c.Answers stops R) {l : Lens σ τ} (hl : l.Lawful) :
    (c.zoom l).Answers stops fun w m ok w' =>
      R (l.get w) m ok (l.get w') ∧ ∃ t, w' = l.set t w := by
  intro m s ht
  obtain ⟨htok, hstep⟩ := h m ⟨l.get s.world, s.token, s.clock, s.log, s.waits⟩ ht
  rw [Client.run_mutate_zoom, Call.run_zoom]
  refine ⟨htok, ?_, _, rfl⟩
  rw [hl.get_set]
  exact hstep

/-- An answer touches nothing but the graph and the record. -/
theorem Tenant.Answer.frame {stops : Prop} {t u u' : Tenant} {m : Mutation} {ok : Bool}
    (h : Answer stops u m ok u') (hu : ∃ g record, u = { t with graph := g, record }) :
    ∃ g record, u' = { t with graph := g, record } := by
  obtain ⟨g, record, rfl⟩ := hu
  cases h <;> exact ⟨_, _, rfl⟩

namespace Sweep

open Tenant (Answer)

variable {stops : Prop} {mode : FailureMode} {plan : List Mutation} {t t' : Tenant}
  {sent : List (Mutation × Bool)} {e : Ending}

/-- A sweep touches nothing but the graph and the record. -/
theorem frame (h : Sweep stops mode (Answer stops) plan t sent t' e) :
    ∃ g record, t' = { t with graph := g, record } :=
  h.preserve (I := fun u => ∃ g record, u = { t with graph := g, record })
    (fun _ _ _ _ hstep => hstep.frame) ⟨t.graph, t.record, rfl⟩

/-- The graph after a sweep is the old one with the successful mutations applied. -/
theorem graph_eq (h : Sweep stops mode (Answer stops) plan t sent t' e) :
    t'.graph = (successes sent).foldl Graph.apply t.graph := by
  -- By induction on the sweep; only an answer that succeeds changes the graph.
  induction h with
  | finished => rfl
  | interrupted => rfl
  | applied hstep _ ih =>
    cases hstep
    exact ih
  | aborted _ _ hstep => cases hstep <;> rfl
  | failed _ hstep _ ih => cases hstep <;> exact ih

/-- A sweep over a set of changes applies the operation to a part of them, in order. -/
theorem graph_eq_applyAll {op : Operation} {changes : Graph}
    (h : Sweep stops mode (Answer stops) (op.mutations changes) t sent t' e) :
    ∃ es, es.Sublist (op.plan changes) ∧ t'.graph = t.graph.applyAll op es := by
  obtain ⟨es, hes, hsucc⟩ := List.sublist_map_iff.mp h.successes_sublist
  exact ⟨es, hes, by rw [h.graph_eq, hsucc, Graph.foldl_apply_map]⟩

/-- A sweep in which everything succeeded applies the operation to all of them. -/
theorem graph_eq_of_complete {op : Operation} {changes : Graph}
    (h : Sweep stops mode (Answer stops) (op.mutations changes) t sent t' e)
    (hc : Complete sent e) : t'.graph = t.graph.applyAll op (op.plan changes) := by
  rw [h.graph_eq, h.successes_eq hc, Operation.mutations, Graph.foldl_apply_map]

/-- Unless the run was stopped, exactly what was sent was recorded. -/
theorem record_eq (h : Sweep stops mode (Answer stops) plan t sent t' e) (hstop : ¬ stops) :
    t'.record = t.record ++ sent.map (·.1.entry) := by
  -- Without a stop every call reaches the tenant, which records it before it may refuse.
  induction h with
  | finished => simp
  | interrupted _ _ _ hs => exact absurd hs hstop
  | applied hstep _ ih =>
    cases hstep
    simp [ih]
  | aborted _ _ hstep =>
    cases hstep with
    | refused => simp
    | stopped hs => exact absurd hs hstop
  | failed _ hstep _ ih =>
    cases hstep with
    | refused => simp [ih]
    | stopped hs => exact absurd hs hstop

/-- A success means that the store accepted. -/
theorem accepts_of_complete (h : Sweep stops mode (Answer stops) plan t sent t' e)
    (hc : Complete sent e) : t.graph.Accepts plan := by
  obtain ⟨rfl, hall⟩ := hc
  generalize he : Ending.finished = e' at h
  -- In a complete sweep each step was answered, and so its rule was met.
  induction h with
  | finished => exact Graph.accepts_nil _
  | interrupted => exact nomatch he
  | applied hstep _ ih =>
    cases hstep with
    | done _ hrule =>
      exact Graph.accepts_cons.mpr ⟨hrule, ih (fun x hx => hall x (.tail _ hx)) he⟩
  | aborted => exact nomatch he
  | failed => exact nomatch hall _ List.mem_cons_self

/-- With no injected failures and nobody to stop the run, the whole plan is done exactly when the
    store accepts it. -/
theorem complete_iff_accepts (h : Sweep stops mode (Answer stops) plan t sent t' e)
    (hstop : ¬ stops) (hfailing : t.failing = []) : Complete sent e ↔ t.graph.Accepts plan := by
  refine ⟨h.accepts_of_complete, fun hacc => ?_⟩
  induction h with
  | finished => exact ⟨rfl, nofun⟩
  | interrupted _ _ _ hs => exact absurd hs hstop
  | applied hstep _ ih =>
    cases hstep
    obtain ⟨he, hall⟩ := ih hfailing (Graph.accepts_cons.mp hacc).2
    exact ⟨he, List.forall_mem_cons.mpr ⟨rfl, hall⟩⟩
  | aborted _ _ hstep | failed _ hstep =>
    -- Nothing is left that could have made the mutation fail.
    cases hstep with
    | refused hcause =>
      rw [hfailing] at hcause
      exact absurd (Graph.accepts_cons.mp hacc).1 (hcause.resolve_left List.not_mem_nil)
    | stopped hs => exact absurd hs hstop

end Sweep

end TenantSync
