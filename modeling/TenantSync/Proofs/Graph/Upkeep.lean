import TenantSync.Proofs.Graph.Plan

/-!
# The rules keep graphs well formed

A store that starts with a well-formed graph and follows its rules never leaves the well-formed
graphs: `WellFormed.add` for an entity that it takes, `WellFormed.drop` for a key that it gives up.
Giving up a key takes out exactly one entity (`UniqueIds.entities_drop`).
-/

namespace TenantSync

/-- Two entities under one key clash. -/
theorem Entity.clashes_of_key_eq {x y : Entity} (h : x.key = y.key) : x.Clashes y := by
  obtain ⟨hk, hid⟩ := key_eq_iff.mp h
  cases x <;> cases y <;> cases hk
  case objectType.objectType | object.object => exact .inl hid
  case edgeType.edgeType | edge.edge => exact hid

namespace Graph

variable {g : Graph}

/-- Adding an entity adds just that one. -/
theorem mem_add {e x : Entity} : x ∈ g.add e ↔ x ∈ g ∨ x = e := by
  show x ∈ g.applyAll .create [e] ↔ _
  rw [mem_applyAll_create, List.mem_singleton]

/-- Dropping a key takes away just what has it. -/
theorem mem_drop {k : Kind} {id : Uuid} {x : Entity} :
    x ∈ g.drop k id ↔ x ∈ g ∧ x.key ≠ (k, id) := by
  by_cases h : x.kind = k
  · subst h
    simp [mem_iff, entities_drop_self, Entity.key]
  · simp [mem_iff, entities_drop_of_ne g id h, Entity.key, h]

/-- What was held is held with one entity more. -/
theorem Holds.add {r : Kind × Uuid} (h : g.Holds r) (e : Entity) : (g.add e).Holds r := by
  obtain ⟨y, hy, hkey⟩ := h
  exact ⟨y, mem_add.mpr (.inl hy), hkey⟩

/-- Dropping a key keeps the order of every list. -/
theorem entities_drop_sublist (g : Graph) (k j : Kind) (id : Uuid) :
    ((g.drop k id).entities j).Sublist (g.entities j) := by
  by_cases h : j = k
  · subst h
    rw [entities_drop_self]
    exact List.filter_sublist
  · rw [entities_drop_of_ne g id h]

/-! ## Growing -/

/-- Identifiers stay unique if the new entity clashes with none. -/
theorem UniqueIds.add {e : Entity} (hg : g.UniqueIds) (hfree : ∀ x ∈ g, ¬ x.Clashes e) :
    (g.add e).UniqueIds := by
  intro k
  by_cases hk : k = e.kind
  · subst hk
    rw [entities_add_self, List.map_append, List.nodup_append]
    refine ⟨hg _, List.nodup_singleton _, fun i hi j hj hij => ?_⟩
    -- An entity of the kind with the identifier of `e` would clash with it.
    obtain ⟨x, hx, rfl⟩ := List.mem_map.mp hi
    obtain rfl := List.mem_singleton.mp hj
    obtain ⟨hxg, hxk⟩ := mem_entities_iff.mp hx
    exact hfree x hxg (Entity.clashes_of_key_eq (Entity.key_eq_iff.mpr ⟨hxk, hij⟩))
  · rw [entities_add_of_ne g hk]
    exact hg k

/-- What the store takes keeps its graph well formed. -/
theorem WellFormed.add {e : Entity} (hg : g.WellFormed) (hrule : g.insertRefusal? e = none) :
    (g.add e).WellFormed := by
  obtain ⟨hrefs, hfree⟩ := insertRefusal?_eq_none_iff.mp hrule
  refine ⟨hg.unique_ids.add hfree, ?_, ?_, fun x hx r hr => ?_⟩
  · -- Names are at stake only where an object type joins the others.
    cases e with
    | objectType t =>
      refine List.pairwise_append.mpr ⟨hg.unique_names, List.pairwise_singleton .., ?_⟩
      intro u hu v hv hname
      obtain rfl := List.mem_singleton.mp hv
      exact hfree (.objectType u) (List.mem_map_of_mem hu) (.inr hname)
    | object | edgeType | edge => exact hg.unique_names
  · -- Aliases are at stake only where an object joins the others.
    cases e with
    | object o =>
      refine List.pairwise_append.mpr ⟨hg.unique_aliases, List.pairwise_singleton .., ?_⟩
      intro p hp q hq halias
      obtain rfl := List.mem_singleton.mp hq
      obtain ⟨hnamed, htype, hsame⟩ := halias
      exact hfree (.object p) (List.mem_map_of_mem hp) (.inr ⟨hsame ▸ hnamed, htype, hsame⟩)
    | objectType | edgeType | edge => exact hg.unique_aliases
  · rcases mem_add.mp hx with hx | rfl
    · exact (hg.closed x hx r hr).add e
    · exact (hrefs r hr).add x

/-! ## Shrinking -/

/-- What the store gives up leaves its graph well formed. -/
theorem WellFormed.drop {k : Kind} {id : Uuid} (hg : g.WellFormed)
    (hrule : g.removeRefusal? k id = none) : (g.drop k id).WellFormed := by
  have hunused := (removeRefusal?_eq_none_iff.mp hrule).1
  refine ⟨hg.unique_ids.of_sublist fun j => entities_drop_sublist g k j id, ?_, ?_,
    fun x hx r hr => ?_⟩
  · cases k with
    | objectType => exact hg.unique_names.filter _
    | object | edgeType | edge => exact hg.unique_names
  · cases k with
    | object => exact hg.unique_aliases.filter _
    | objectType | edgeType | edge => exact hg.unique_aliases
  · -- What `x` refers to is still there, for nothing refers to what was given up.
    obtain ⟨hxg, -⟩ := mem_drop.mp hx
    obtain ⟨y, hy, rfl⟩ := hg.closed x hxg r hr
    exact ⟨y, mem_drop.mpr ⟨hy, fun hkey => hunused x hxg (hkey ▸ hr)⟩, rfl⟩

/-- With unique identifiers, giving up a key takes out one entity and leaves the others in
    order. -/
theorem UniqueIds.entities_drop {k : Kind} {id : Uuid} (hg : g.UniqueIds) (h : g.Holds (k, id)) :
    ∃ before x after, x.id = id ∧ g.entities k = before ++ x :: after ∧
      (g.drop k id).entities k = before ++ after := by
  obtain ⟨x, hx, rfl⟩ := holds_iff.mp h
  obtain ⟨before, after, hsplit⟩ := List.append_of_mem hx
  refine ⟨before, x, after, rfl, hsplit, ?_⟩
  have hnodup := hg k
  rw [hsplit, List.map_append, List.map_cons, List.nodup_middle] at hnodup
  -- No other entity of the kind has the identifier of `x`.
  have hother : ∀ y ∈ before ++ after, y.id ≠ x.id := by
    intro y hy hid
    rw [← List.map_append] at hnodup
    exact (List.nodup_cons.mp hnodup).1 (hid ▸ List.mem_map_of_mem hy)
  rw [entities_drop_self, hsplit, List.filter_append, List.filter_cons_of_neg (by simp),
    ← List.filter_append]
  exact List.filter_eq_self.mpr fun y hy => by simpa using hother y hy

/-- So deleting entities of the graph, each once, takes as many of a kind as were deleted. -/
theorem UniqueIds.length_entities_applyAll_delete {es : List Entity} (hg : g.UniqueIds)
    (hes : ∀ e ∈ es, e ∈ g) (honce : (es.map Entity.key).Nodup) (k : Kind) :
    ((g.applyAll .delete es).entities k).length + (es.filter fun e => e.kind = k).length =
      (g.entities k).length := by
  induction es generalizing g with
  | nil => rfl
  | cons e es ih =>
    obtain ⟨he, hes⟩ := List.forall_mem_cons.mp hes
    obtain ⟨hnot, honce⟩ := List.nodup_cons.mp honce
    -- The others are still there when the first is gone, for no key is given up twice.
    have hrest : ∀ x ∈ es, x ∈ g.drop e.kind e.id := fun x hx =>
      mem_drop.mpr ⟨hes x hx, fun hkey => hnot (List.mem_map.mpr ⟨x, hx, hkey⟩)⟩
    have hlen := ih (hg.of_sublist fun j => entities_drop_sublist g _ j _) hrest honce
    rw [applyAll_cons, Operation.mutation, apply]
    by_cases hk : e.kind = k
    · subst hk
      obtain ⟨before, x, after, -, hsplit, hdropped⟩ := hg.entities_drop ⟨e, he, rfl⟩
      rw [hdropped, List.length_append] at hlen
      rw [hsplit, List.length_append, List.length_cons, List.filter_cons_of_pos (by simp),
        List.length_cons]
      omega
    · rw [entities_drop_of_ne g _ (Ne.symm hk)] at hlen
      rwa [List.filter_cons_of_neg (by simpa using hk)]

end Graph

end TenantSync
