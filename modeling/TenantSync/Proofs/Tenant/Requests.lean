import TenantSync.Proofs.Graph.Upkeep
import TenantSync.Proofs.Tenant.Convergence

/-!
# Tenants that are asked for one mutation after another

Whatever a tenant is asked to create or delete, whichever mutations were made to fail by then and
whether or not a call was cancelled, a tenant that starts well formed stays so, and each call does
either nothing to the four lists or exactly what it was asked for (`requests_keep_wellFormed`).
-/

namespace TenantSync

namespace Graph

/-- What a successful mutation makes of the lists of a graph: creating puts the entity at the end
    of its kind's list, deleting takes out the one entity with the identifier, and the lists of the
    other kinds stay as they were. -/
def Performs (g : Graph) : Mutation → Graph → Prop
  | .create e, g' =>
    g'.entities e.kind = g.entities e.kind ++ [e] ∧ ∀ k ≠ e.kind, g'.entities k = g.entities k
  | .delete k id, g' =>
    (∃ before x after, x.id = id ∧ g.entities k = before ++ x :: after ∧
      g'.entities k = before ++ after) ∧
    (∀ x ∈ g'.entities k, x.id ≠ id) ∧ ∀ j ≠ k, g'.entities j = g.entities j

variable {g : Graph} {m : Mutation}

/-- A mutation that the rules allow keeps the graph well formed. -/
theorem WellFormed.apply (hg : g.WellFormed) (hrule : g.refusal? m = none) :
    (g.apply m).WellFormed := by
  cases m with
  | create e => exact hg.add hrule
  | delete k id => exact hg.drop hrule

/-- A mutation that the rules allow does exactly what it says. -/
theorem UniqueIds.performs (hg : g.UniqueIds) (hrule : g.refusal? m = none) :
    g.Performs m (g.apply m) := by
  cases m with
  | create e => exact ⟨entities_add_self g e, fun k hk => entities_add_of_ne g hk⟩
  | delete k id =>
    refine ⟨hg.entities_drop (removeRefusal?_eq_none_iff.mp hrule).2, fun x hx => ?_,
      fun j hj => entities_drop_of_ne g id hj⟩
    rw [apply, entities_drop_self] at hx
    simpa using (List.mem_filter.mp hx).2

end Graph

namespace Tenant

/-- A mutation that a tenant is asked for, under a token, when the mutations of certain
    identifiers are made to fail. -/
structure Request where
  mutation : Mutation
  failing : List Uuid
  token : CancelToken
  clock : Clock

/-- The surroundings in which a tenant finds a request. -/
def Request.session (q : Request) (t : Tenant) : Session Tenant :=
  ⟨{ t with failing := q.failing }, q.token, q.clock, [], []⟩

/-- The answer to a request and the tenant after it. -/
def serve (t : Tenant) (q : Request) : Except Fault Unit × Tenant :=
  let out := ((client t.endpoint).mutate q.mutation).run (q.session t)
  (out.1, out.2.world)

/-- The tenant after a number of requests. -/
def serveAll (t : Tenant) (qs : List Request) : Tenant := qs.foldl (fun t q => (t.serve q).2) t

variable {t : Tenant}

/-- A request is answered in one of the ways in which tenants answer. -/
theorem serve_answer (t : Tenant) (q : Request) :
    Answer True { t with failing := q.failing } q.mutation (t.serve q).1.isOk (t.serve q).2 :=
  (client_answers True t.endpoint q.mutation (q.session t) (.any q.token)).2

/-- A request either does what it asks for, or leaves the graph as it was. -/
theorem graph_serve (t : Tenant) (q : Request) :
    ((t.serve q).1.isOk = true ∧ t.graph.refusal? q.mutation = none ∧
        (t.serve q).2.graph = t.graph.apply q.mutation) ∨
      ((t.serve q).1.isOk = false ∧ (t.serve q).2.graph = t.graph) := by
  have h := serve_answer t q
  revert h
  -- What an answer is like does not depend on how the call came to it.
  generalize (t.serve q).1.isOk = ok
  generalize (t.serve q).2 = t'
  rintro (⟨-, hrule⟩ | - | -)
  · exact .inl ⟨rfl, hrule, rfl⟩
  · exact .inr ⟨rfl, rfl⟩
  · exact .inr ⟨rfl, rfl⟩

/-- One request keeps the graph well formed. -/
theorem wellFormed_serve (ht : t.graph.WellFormed) (q : Request) :
    (t.serve q).2.graph.WellFormed := by
  rcases graph_serve t q with ⟨-, hrule, hgraph⟩ | ⟨-, hgraph⟩
  · rw [hgraph]
    exact ht.apply hrule
  · rw [hgraph]
    exact ht

/-- Any number of requests keeps the graph well formed. -/
theorem wellFormed_serveAll (ht : t.graph.WellFormed) (qs : List Request) :
    (t.serveAll qs).graph.WellFormed := by
  induction qs generalizing t with
  | nil => exact ht
  | cons q qs ih => exact ih (wellFormed_serve ht q)

/-- After any number of requests, the graph of a tenant that was well formed still is, also after
    the next one; and that one either fails and leaves the four lists as they were, or succeeds
    and does exactly what it asks for. -/
theorem requests_keep_wellFormed (ht : t.graph.WellFormed) (done : List Request) (q : Request) :
    let before := t.serveAll done
    let after := (before.serve q).2
    before.graph.WellFormed ∧ after.graph.WellFormed ∧
      ((before.serve q).1.isOk = false → ∀ k, after.graph.entities k = before.graph.entities k) ∧
      ((before.serve q).1.isOk = true → before.graph.Performs q.mutation after.graph) := by
  intro before after
  have hbefore : before.graph.WellFormed := wellFormed_serveAll ht done
  refine ⟨hbefore, wellFormed_serve hbefore q, ?_⟩
  -- A request that succeeds passed the rules; one that fails left the graph as it was.
  rcases graph_serve before q with ⟨hok, hrule, hgraph⟩ | ⟨hok, hgraph⟩
  · rw [hok]
    refine ⟨nofun, fun _ => ?_⟩
    rw [show after.graph = before.graph.apply q.mutation from hgraph]
    exact hbefore.unique_ids.performs hrule
  · rw [hok]
    exact ⟨fun _ k => congrArg (·.entities k) hgraph, nofun⟩

/-- A type can be deleted once its object is gone. -/
theorem type_deleted_after_its_object :
    let t := withType "group" "dst"
    let object : Request := ⟨.delete .object (numbered 10), [], .fresh, .frozen 0⟩
    let type : Request := ⟨.delete .objectType (numbered 1), [numbered 10], .fresh, .frozen 0⟩
    (t.serve type).1.isOk = false ∧ ((t.serveAll [object]).serve type).1.isOk = true ∧
      (t.serveAll [object]).graph.WellFormed ∧
      (t.serveAll [object]).graph.Performs type.mutation (t.serveAll [object, type]).graph := by
  intro t object type
  have h := requests_keep_wellFormed (withType_wellFormed "group" "dst") [object] type
  have hok : ((t.serveAll [object]).serve type).1.isOk = true := by decide
  exact ⟨by decide, hok, h.1, h.2.2.2 hok⟩

end Tenant

end TenantSync
