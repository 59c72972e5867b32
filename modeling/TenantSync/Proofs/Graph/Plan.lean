import TenantSync.Proofs.Graph.Drift
import TenantSync.Sync.Apply

/-!
# Plans

A plan lists a set of changes in the order in which an operation goes through them:
creations parents first, deletions children first.  Since references only lead to kinds of
a lower rank, everything that could get in the way of an entity stands before it in the plan
(`Operation.mem_of_precedes`).

The second half of the file says what a plan makes of a graph when every step succeeds:
creating appends (`entities_applyAll_create`), deleting filters
(`entities_applyAll_delete`).
-/

namespace TenantSync

/-- How far a kind is from the kinds that refer to nothing. -/
def Kind.rank : Kind → Nat
  | .objectType => 0
  | .object => 1
  | .edgeType => 2
  | .edge => 3

/-- References lead to kinds of lower rank. -/
theorem Entity.rank_lt_of_mem_refs {e : Entity} {r : Kind × Uuid} (h : r ∈ e.refs) :
    r.1.rank < e.kind.rank := by
  cases e <;> simp only [refs, List.mem_cons, List.not_mem_nil, or_false] at h
  case object => subst h; simp [kind, Kind.rank]
  case edgeType => rcases h with rfl | rfl <;> simp [kind, Kind.rank]
  case edge => rcases h with rfl | rfl | rfl <;> simp [kind, Kind.rank]

/-- References lead to kinds that are created earlier. -/
theorem Entity.RefersTo.rank_lt {x e : Entity} (h : x.RefersTo e) : e.kind.rank < x.kind.rank :=
  rank_lt_of_mem_refs h

namespace Operation

/-- The entities of a set of changes in the order in which an operation goes through them. -/
def plan (op : Operation) (changes : Graph) : List Entity := op.order.flatMap changes.entities

/-- The mutations that an operation sends for a set of changes, in order. -/
def mutations (op : Operation) (changes : Graph) : List Mutation :=
  (op.plan changes).map op.mutation

/-- Whether an operation is through with the first kind before it comes to the second. -/
def Precedes : Operation → Kind → Kind → Prop
  | .create, j, k => j.rank < k.rank
  | .delete, j, k => k.rank < j.rank

/-- Every operation goes through every kind. -/
theorem mem_order (op : Operation) (k : Kind) : k ∈ op.order := by
  cases op <;> cases k <;> decide

/-- The kinds of an order are pairwise distinct, and none comes before one that precedes it. -/
private theorem order_pairwise (op : Operation) :
    op.order.Pairwise fun j k => j ≠ k ∧ ¬ op.Precedes k j := by
  cases op <;> simp [order, Precedes, Kind.rank]

/-- The plan of an operation holds exactly the entities of the changes. -/
theorem mem_plan_iff (op : Operation) {changes : Graph} {e : Entity} :
    e ∈ op.plan changes ↔ e ∈ changes := by
  simp only [plan, List.mem_flatMap, Graph.mem_entities_iff]
  exact ⟨fun ⟨_, _, h, _⟩ => h, fun h => ⟨e.kind, op.mem_order _, h, rfl⟩⟩

/-- Every step of a plan is one of the changes. -/
theorem mem_of_plan_eq {op : Operation} {changes : Graph} {done rest : List Entity} {e : Entity}
    (hplan : op.plan changes = done ++ e :: rest) : e ∈ changes := by
  rw [← op.mem_plan_iff, hplan]
  exact List.mem_append_right _ List.mem_cons_self

/-- A plan goes through the kinds in the order of the operation. -/
theorem plan_pairwise (op : Operation) (changes : Graph) :
    (op.plan changes).Pairwise fun x y => ¬ op.Precedes y.kind x.kind := by
  rw [plan, List.pairwise_flatMap]
  -- Within a kind nothing precedes, and between kinds the order of the operation decides.
  constructor
  · intro k _
    apply List.pairwise_of_forall_mem_list
    intro x hx y hy
    rw [Graph.kind_of_mem_entities hx, Graph.kind_of_mem_entities hy]
    cases op <;> exact Nat.lt_irrefl _
  · refine op.order_pairwise.imp fun h x hx y hy => ?_
    rw [Graph.kind_of_mem_entities hx, Graph.kind_of_mem_entities hy]
    exact h.2

/-- What an operation comes to first stands before `e` in the plan. -/
theorem mem_of_precedes {op : Operation} {changes : Graph} {done rest : List Entity}
    {e x : Entity} (hplan : op.plan changes = done ++ e :: rest) (hx : x ∈ changes)
    (h : op.Precedes x.kind e.kind) : x ∈ done := by
  have hsorted := op.plan_pairwise changes
  rw [← op.mem_plan_iff] at hx
  rw [hplan] at hsorted hx
  have htail := (List.pairwise_append.mp hsorted).2.1
  -- `x` is neither `e` nor behind it, since nothing there precedes the kind of `e`.
  rcases List.mem_append.mp hx with hx | hx
  · exact hx
  rcases List.mem_cons.mp hx with rfl | hx
  · cases op <;> exact absurd h (Nat.lt_irrefl _)
  · exact absurd h ((List.pairwise_cons.mp htail).1 x hx)

/-- The part of a plan that belongs to a kind. -/
theorem filter_plan (op : Operation) (changes : Graph) (k : Kind) :
    (op.plan changes).filter (fun e => e.kind = k) = changes.entities k := by
  -- The entities of one kind are taken whole if it is `k`, and not at all otherwise.
  have hself : ∀ j, (changes.entities j).filter (fun e => e.kind = k) =
      if j = k then changes.entities j else [] := by
    intro j
    split
    · rename_i h
      exact List.filter_eq_self.mpr fun e he => by
        simp only [Graph.kind_of_mem_entities he, h, decide_true]
    · rename_i h
      exact List.filter_eq_nil_iff.mpr fun e he => by
        simp only [Graph.kind_of_mem_entities he, h, decide_false, Bool.false_eq_true,
          not_false_eq_true]
  rw [plan, List.filter_flatMap]
  -- Each kind comes once in the order.
  cases op <;> cases k <;>
    simp [order, hself]

/-- With unique identifiers no key stands twice in a plan. -/
theorem nodup_keys_plan (op : Operation) {changes : Graph} (h : changes.UniqueIds) :
    ((op.plan changes).map Entity.key).Nodup := by
  rw [List.Nodup, List.pairwise_map, plan, List.pairwise_flatMap]
  -- Within a kind the identifiers differ, and between kinds the kinds do.
  constructor
  · intro k _
    exact (List.pairwise_map.mp (h k)).imp fun hne he => hne (Entity.key_eq_iff.mp he).2
  · refine op.order_pairwise.imp fun hjk x hx y hy he => hjk.1 ?_
    rw [← Graph.kind_of_mem_entities hx, ← Graph.kind_of_mem_entities hy]
    exact (Entity.key_eq_iff.mp he).1

end Operation

namespace Graph

/-- The graph after a mutation that the store accepted. -/
def apply (g : Graph) : Mutation → Graph
  | .create e => g.add e
  | .delete k id => g.drop k id

/-- The graph after an operation succeeded on every entity of a list. -/
def applyAll (op : Operation) (es : List Entity) (g : Graph) : Graph :=
  es.foldl (fun g e => g.apply (op.mutation e)) g

/-- Nothing to apply leaves the graph as it is. -/
@[simp] theorem applyAll_nil (op : Operation) (g : Graph) : g.applyAll op [] = g := rfl

/-- Entities are applied one after the other. -/
@[simp] theorem applyAll_cons (op : Operation) (e : Entity) (es : List Entity) (g : Graph) :
    g.applyAll op (e :: es) = (g.apply (op.mutation e)).applyAll op es := rfl

/-- Creating appends the entities of each kind. -/
theorem entities_applyAll_create (g : Graph) (es : List Entity) (k : Kind) :
    (g.applyAll .create es).entities k = g.entities k ++ es.filter (fun e => e.kind = k) := by
  induction es generalizing g with
  | nil => simp
  | cons e es ih =>
    rw [applyAll_cons, ih, Operation.mutation, apply]
    -- A new entity only joins the list of its own kind.
    by_cases h : e.kind = k
    · subst h
      simp [entities_add_self]
    · simp [entities_add_of_ne g (Ne.symm h), h]

/-- Deleting takes out whatever has the key of a deleted entity. -/
theorem entities_applyAll_delete (g : Graph) (es : List Entity) (k : Kind) :
    (g.applyAll .delete es).entities k =
      (g.entities k).filter fun x => x.key ∉ es.map Entity.key := by
  induction es generalizing g with
  | nil => simp
  | cons e es ih =>
    rw [applyAll_cons, ih, Operation.mutation, apply]
    -- Deleting `e` only filters the list of its own kind.
    by_cases h : e.kind = k
    · subst h
      rw [entities_drop_self, List.filter_filter]
      apply List.filter_congr
      intro x hx
      have hk := kind_of_mem_entities hx
      simp [Entity.key_eq_iff, hk, and_comm, Bool.and_comm]
    · rw [entities_drop_of_ne g e.id (Ne.symm h)]
      apply List.filter_congr
      intro x hx
      have hk := kind_of_mem_entities hx
      simp [Entity.key_eq_iff, hk, Ne.symm h]

/-- Creating entities adds them to the graph. -/
theorem mem_applyAll_create {g : Graph} {es : List Entity} {x : Entity} :
    x ∈ g.applyAll .create es ↔ x ∈ g ∨ x ∈ es := by
  simp [mem_iff, entities_applyAll_create]

/-- Deleting entities takes away what has their keys. -/
theorem mem_applyAll_delete {g : Graph} {es : List Entity} {x : Entity} :
    x ∈ g.applyAll .delete es ↔ x ∈ g ∧ x.key ∉ es.map Entity.key := by
  rw [mem_iff, entities_applyAll_delete, List.mem_filter, decide_eq_true_eq, mem_iff]

end Graph

end TenantSync
