import Mathlib.Data.List.Nodup
import TenantSync.Graph.Diff

/-!
# Keys and contents

An entity is known by its key, that is its kind and its identifier, and says something by
its content.  This file states the laws of both for entities of all kinds together:

- `sameContent_refl`, `sameContent_comm`, `sameContent_trans`: agreeing in content is an
  equivalence,
- `Graph.eq_of_key_eq`: with unique identifiers a graph holds one entity for a key.
-/

namespace TenantSync

namespace Entity

/-- What an entity is known by within a graph. -/
def key (e : Entity) : Kind × Uuid := (e.kind, e.id)

/-- The key of an entity is its kind and its identifier. -/
theorem key_eq_iff {x y : Entity} : x.key = y.key ↔ x.kind = y.kind ∧ x.id = y.id := by
  simp only [key, Prod.mk.injEq]

/-- Only entities of one kind agree in content. -/
theorem kind_eq_of_sameContent {x y : Entity} (h : x.sameContent y = true) : x.kind = y.kind := by
  cases x <;> cases y <;> first | rfl | exact nomatch h

/-- Every entity agrees with itself. -/
@[simp] theorem sameContent_refl (x : Entity) : x.sameContent x = true := by
  cases x <;> simp [sameContent, Resource.sameContent]

/-- Agreeing in content does not depend on the side from which it is seen. -/
theorem sameContent_comm (x y : Entity) : x.sameContent y = y.sameContent x := by
  cases x <;> cases y <;> simp only [sameContent, Resource.sameContent, Bool.beq_comm]

/-- Sameness of content can be chained, whatever the kinds. -/
theorem sameContent_trans {x y z : Entity} (hxy : x.sameContent y = true)
    (hyz : y.sameContent z = true) : x.sameContent z = true := by
  have hk := kind_eq_of_sameContent hxy
  have hk' := kind_eq_of_sameContent hyz
  cases x <;> cases y <;> cases hk <;> cases z <;> cases hk' <;>
    simp only [sameContent, Resource.sameContent, Bool.and_eq_true, beq_iff_eq] at hxy hyz ⊢ <;>
    simp only [hxy, hyz, and_self]

end Entity

namespace Graph

/-- An entity of a graph, of whatever kind. -/
instance : Membership Entity Graph := ⟨fun g e => e ∈ g.entities e.kind⟩

/-- An entity of a graph stands in the list of its kind. -/
theorem mem_iff {g : Graph} {e : Entity} : e ∈ g ↔ e ∈ g.entities e.kind := Iff.rfl

/-- The list of a kind holds no entities of another. -/
theorem kind_of_mem_entities {g : Graph} {k : Kind} {e : Entity} (h : e ∈ g.entities k) :
    e.kind = k := by
  cases k <;> simp only [entities, List.mem_map] at h <;> obtain ⟨_, _, rfl⟩ := h <;> rfl

/-- The list of a kind holds the entities of that kind. -/
theorem mem_entities_iff {g : Graph} {k : Kind} {e : Entity} :
    e ∈ g.entities k ↔ e ∈ g ∧ e.kind = k := by
  constructor
  · intro h
    have hk := kind_of_mem_entities h
    subst hk
    exact ⟨h, rfl⟩
  · rintro ⟨h, rfl⟩
    exact h

/-- No two entities of a kind share an identifier. -/
def UniqueIds (g : Graph) : Prop := ∀ k, ((g.entities k).map Entity.id).Nodup

/-- With unique identifiers, an entity of the graph is determined by its key. -/
theorem eq_of_key_eq {g : Graph} (hg : g.UniqueIds) {x y : Entity} (hx : x ∈ g) (hy : y ∈ g)
    (h : x.key = y.key) : x = y := by
  obtain ⟨hk, hid⟩ := Entity.key_eq_iff.mp h
  rw [mem_iff] at hx hy
  rw [← hk] at hy
  exact List.inj_on_of_nodup_map (hg x.kind) hx hy hid

/-- Taking entities out keeps identifiers unique. -/
theorem UniqueIds.of_sublist {g h : Graph} (hg : g.UniqueIds)
    (hsub : ∀ k, (h.entities k).Sublist (g.entities k)) : h.UniqueIds :=
  fun k => (hg k).sublist ((hsub k).map _)

/-- Where identifiers are unique, entities are. -/
theorem UniqueIds.nodup_entities {g : Graph} (hg : g.UniqueIds) (k : Kind) :
    (g.entities k).Nodup :=
  (hg k).of_map

end Graph

end TenantSync
