import TenantSync.Proofs.Graph.Content
import TenantSync.Tenant.Basic

/-!
# The rules of a store, for all kinds at once

What a store checks before it takes or loses an entity reads differently for each kind.
Here each check is stated once, over the references of an entity and over which entities
cannot live side by side:

- `insertRefusal?_eq_none_iff`: an entity is taken when all that it refers to is there and
  nothing clashes with it,
- `removeRefusal?_eq_none_iff`: a key is given up when nothing refers to it and it is there.

`Graph.WellFormed` collects what a store under these rules always satisfies.
-/

namespace TenantSync

namespace Entity

/-- The keys that an entity refers to. -/
def refs : Entity → List (Kind × Uuid)
  | .objectType _ => []
  | .object o => [(.objectType, o.typeId)]
  | .edgeType t => [(.objectType, t.sourceTypeId), (.objectType, t.targetTypeId)]
  | .edge e => [(.edgeType, e.edgeTypeId), (.object, e.sourceId), (.object, e.targetId)]

/-- An object refers to its type, an edge type to its source and target type, and an edge to
    its edge type and its two objects. -/
def RefersTo (x e : Entity) : Prop := e.key ∈ x.refs

instance (x e : Entity) : Decidable (x.RefersTo e) := inferInstanceAs (Decidable (_ ∈ _))

/-- Two entities of a kind that cannot live side by side: they share the identifier, or are
    object types of one name, or objects of one type with the same alias. -/
def Clashes : Entity → Entity → Prop
  | .objectType t, .objectType u => t.id = u.id ∨ t.typeName = u.typeName
  | .object o, .object p =>
    o.id = p.id ∨ (p.alias?.isSome ∧ o.typeId = p.typeId ∧ o.alias? = p.alias?)
  | .edgeType t, .edgeType u => t.id = u.id
  | .edge e, .edge f => e.id = f.id
  | _, _ => False

/-- Clashes are mutual. -/
theorem Clashes.symm {x y : Entity} (h : x.Clashes y) : y.Clashes x := by
  cases x <;> cases y <;> simp only [Clashes] at h ⊢
  case objectType.objectType => exact h.imp Eq.symm Eq.symm
  case object.object o p =>
    rcases h with h | ⟨hs, ht, ha⟩
    · exact .inl h.symm
    · exact .inr ⟨ha ▸ hs, ht.symm, ha.symm⟩
  all_goals exact h.symm

/-- What has the same content refers to the same keys. -/
theorem refs_eq_of_sameContent {x y : Entity} (h : x.sameContent y = true) : x.refs = y.refs := by
  have hk := kind_eq_of_sameContent h
  cases x <;> cases y <;> cases hk <;>
    simp only [sameContent, Resource.sameContent, Bool.and_eq_true, beq_iff_eq] at h <;>
    simp only [refs, h]

/-- An entity clashes with what the same content under the same identifier clashes with. -/
theorem clashes_iff_of_sameContent {x y z : Entity} (h : x.sameContent y = true)
    (hid : x.id = y.id) : x.Clashes z ↔ y.Clashes z := by
  have hk := kind_eq_of_sameContent h
  cases x <;> cases y <;> cases hk <;>
    simp only [sameContent, Resource.sameContent, Bool.and_eq_true, beq_iff_eq] at h <;>
    simp only [id] at hid <;> cases z <;> simp only [Clashes, h, hid]

/-- Only entities of one kind clash. -/
theorem Clashes.kind_eq {x y : Entity} (h : x.Clashes y) : x.kind = y.kind := by
  cases x <;> cases y <;> first | rfl | exact h.elim

end Entity

namespace Graph

/-! ## Membership, kind by kind -/

/-- What holds of all entities of a graph can be shown list by list. -/
theorem forall_mem_iff {g : Graph} {P : Entity → Prop} :
    (∀ x ∈ g, P x) ↔ (∀ t ∈ g.objectTypes, P (.objectType t)) ∧ (∀ o ∈ g.objects, P (.object o)) ∧
      (∀ t ∈ g.edgeTypes, P (.edgeType t)) ∧ ∀ e ∈ g.edges, P (.edge e) := by
  constructor
  · intro h
    exact ⟨fun t ht => h _ (List.mem_map_of_mem ht), fun o ho => h _ (List.mem_map_of_mem ho),
      fun t ht => h _ (List.mem_map_of_mem ht), fun e he => h _ (List.mem_map_of_mem he)⟩
  · rintro ⟨h₁, h₂, h₃, h₄⟩ (x | x | x | x) hx <;>
      obtain ⟨y, hy, ⟨⟩⟩ := List.mem_map.mp hx
    exacts [h₁ _ hy, h₂ _ hy, h₃ _ hy, h₄ _ hy]

/-- The graph has an entity under a key. -/
def Holds (g : Graph) (key : Kind × Uuid) : Prop := ∃ x ∈ g, x.key = key

/-- A graph holds a key if an entity of the kind has the identifier. -/
theorem holds_iff {g : Graph} {k : Kind} {id : Uuid} :
    g.Holds (k, id) ↔ ∃ x ∈ g.entities k, x.id = id := by
  constructor
  · rintro ⟨x, hx, he⟩
    obtain ⟨rfl, rfl⟩ := Prod.mk.injEq .. ▸ he
    exact ⟨x, hx, rfl⟩
  · rintro ⟨x, hx, rfl⟩
    exact ⟨x, (mem_entities_iff.mp hx).1, by rw [Entity.key, kind_of_mem_entities hx]⟩

instance (g : Graph) (r : Kind × Uuid) : Decidable (g.Holds r) :=
  decidable_of_iff (∃ x ∈ g.entities r.1, x.id = r.2) holds_iff.symm

/-- The test for an object type looks for its key. -/
theorem hasObjectType_iff {g : Graph} {id : Uuid} :
    g.hasObjectType id = true ↔ g.Holds (.objectType, id) := by
  simp [holds_iff, hasObjectType, entities, Entity.id]

/-- The test for an object looks for its key. -/
theorem hasObject_iff {g : Graph} {id : Uuid} :
    g.hasObject id = true ↔ g.Holds (.object, id) := by
  simp [holds_iff, hasObject, entities, Entity.id]

/-- The test for an edge type looks for its key. -/
theorem hasEdgeType_iff {g : Graph} {id : Uuid} :
    g.hasEdgeType id = true ↔ g.Holds (.edgeType, id) := by
  simp [holds_iff, hasEdgeType, entities, Entity.id]

/-! ## The rules -/

/-- A chain of refusals lets pass what none of its conditions meets. -/
private theorem guard_eq_none_iff {α : Type} {c : Prop} [Decidable c] {r : α} {x : Option α} :
    (if c then some r else x) = none ↔ ¬ c ∧ x = none := by
  split <;> simp_all

/-- The store takes an entity exactly when all that it refers to is there and nothing clashes
    with it. -/
theorem insertRefusal?_eq_none_iff {g : Graph} {e : Entity} :
    g.insertRefusal? e = none ↔ (∀ r ∈ e.refs, g.Holds r) ∧ ∀ x ∈ g, ¬ x.Clashes e := by
  rw [forall_mem_iff]
  -- The guards of a kind are its references and its clashes.
  cases e with
  | objectType t => simp [insertRefusal?, Entity.refs, Entity.Clashes]
  | object o =>
    simp [insertRefusal?, guard_eq_none_iff, Entity.refs, Entity.Clashes, clash,
      ← hasObjectType_iff, and_assoc]
  | edgeType t =>
    simp [insertRefusal?, guard_eq_none_iff, Entity.refs, Entity.Clashes, ← hasObjectType_iff,
      hasEdgeType, and_assoc]
  | edge e =>
    simp [insertRefusal?, guard_eq_none_iff, Entity.refs, Entity.Clashes, ← hasEdgeType_iff,
      ← hasObject_iff, and_assoc]

/-- The store gives up a key exactly when nothing refers to it and it is there. -/
theorem removeRefusal?_eq_none_iff {g : Graph} {k : Kind} {id : Uuid} :
    g.removeRefusal? k id = none ↔ (∀ x ∈ g, (k, id) ∉ x.refs) ∧ g.Holds (k, id) := by
  rw [forall_mem_iff]
  -- The guards of a kind are the kinds that can refer to it, and then whether it is there.
  cases k with
  | objectType =>
    simp [removeRefusal?, guard_eq_none_iff, Entity.refs, ← hasObjectType_iff,
      @eq_comm _ id, and_assoc]
  | object =>
    simp [removeRefusal?, guard_eq_none_iff, Entity.refs, ← hasObject_iff,
      @eq_comm _ id]
  | edgeType =>
    simp [removeRefusal?, guard_eq_none_iff, Entity.refs, ← hasEdgeType_iff,
      @eq_comm _ id]
  | edge => simp [removeRefusal?, Entity.refs, holds_iff, entities, Entity.id]

/-! ## Graphs that the rules allow -/

/-- What holds of every graph that grew under the rules: identifiers are unique in each kind,
    names among object types and aliases among the objects of a type; and all that an entity
    refers to is there. -/
structure WellFormed (g : Graph) : Prop where
  unique_ids : g.UniqueIds
  unique_names : g.objectTypes.Pairwise fun t u => t.typeName ≠ u.typeName
  unique_aliases : g.objects.Pairwise fun o p =>
    ¬ (o.alias?.isSome ∧ o.typeId = p.typeId ∧ o.alias? = p.alias?)
  closed : ∀ x ∈ g, ∀ r ∈ x.refs, g.Holds r

/-- Where no two places of a list conflict, a conflict is one of an element with itself. -/
private theorem eq_of_pairwise_not {α : Type} {C : α → α → Prop} (hC : ∀ x y, C x y → C y x)
    {l : List α} (h : l.Pairwise fun x y => ¬ C x y) {x y : α} (hx : x ∈ l) (hy : y ∈ l)
    (hc : C x y) : x = y :=
  List.Pairwise.forall_of_forall_of_flip (R := fun x y => C x y → x = y) (fun _ _ _ => rfl)
    (h.imp fun hn hc => absurd hc hn) (h.imp fun hn hc => absurd (hC _ _ hc) hn) hx hy hc

/-- In a well-formed graph an entity clashes with no other. -/
theorem WellFormed.eq_of_clashes {g : Graph} (hg : g.WellFormed) {x y : Entity} (hx : x ∈ g)
    (hy : y ∈ g) (h : x.Clashes y) : x = y := by
  by_cases hid : x.id = y.id
  · exact eq_of_key_eq hg.unique_ids hx hy (Entity.key_eq_iff.mpr ⟨h.kind_eq, hid⟩)
  -- With different identifiers, only types of one name and objects of one alias clash.
  cases x <;> cases y <;> simp only [Entity.Clashes, Entity.id] at h hid
  case objectType.objectType t u =>
    obtain ⟨t, ht, ⟨⟩⟩ := List.mem_map.mp hx
    obtain ⟨u, hu, ⟨⟩⟩ := List.mem_map.mp hy
    rw [eq_of_pairwise_not (fun _ _ => Eq.symm) hg.unique_names ht hu (h.resolve_left hid)]
  case object.object o p =>
    obtain ⟨o, ho, ⟨⟩⟩ := List.mem_map.mp hx
    obtain ⟨p, hp, ⟨⟩⟩ := List.mem_map.mp hy
    obtain ⟨hs, ht, ha⟩ := h.resolve_left hid
    rw [eq_of_pairwise_not (fun _ _ hc => ⟨hc.2.2 ▸ hc.1, hc.2.1.symm, hc.2.2.symm⟩)
      hg.unique_aliases ho hp ⟨ha ▸ hs, ht, ha⟩]
  all_goals exact absurd h hid

end Graph

end TenantSync
