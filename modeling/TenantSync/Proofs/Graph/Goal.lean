import TenantSync.Proofs.Graph.Plan

/-!
# What a full run aims at

A full run deletes from the destination what the source does not keep (`Graph.pruned`) and
then creates what the destination lacks (`Graph.goal`).  The goal mirrors the source
(`goal_mirrors`), whatever the two graphs are, as long as identifiers are unique.

Whether a store lets a run get there is a question about the two graphs alone:
`unobstructed_iff` says that the store accepts every step of both plans exactly when nothing
kept refers to anything deleted and everything created finds its references and no clash in
the goal.  For well-formed graphs only the first part can fail, and only for entities that
changed (`WellFormed.unobstructed_iff`).
-/

namespace TenantSync.Graph

variable {s d : Graph}

/-- The destination without what the source does not keep. -/
def pruned (s d : Graph) : Graph := d.applyAll .delete (Operation.delete.plan (deletions s d))

/-- The destination after a full run in which everything succeeded. -/
def goal (s d : Graph) : Graph :=
  (pruned s d).applyAll .create (Operation.create.plan (insertions s d))

/-- What differs has unique identifiers if both graphs do. -/
theorem UniqueIds.diff (hd : d.UniqueIds) (hs : s.UniqueIds) : (d.diff s).UniqueIds := by
  refine hd.of_sublist fun k => ?_
  rw [entities_diff d hs]
  exact List.filter_sublist

/-- What the source does not keep is to be deleted. -/
theorem mem_deletions_iff (hs : s.UniqueIds) {e : Entity} :
    e ∈ deletions s d ↔ e ∈ d ∧ s.keeps e = false := mem_diff_iff hs

/-- What the destination does not keep is to be created. -/
theorem mem_insertions_iff (hd : d.UniqueIds) {e : Entity} :
    e ∈ insertions s d ↔ e ∈ s ∧ d.keeps e = false := mem_diff_iff hd

/-- What is to be created is in the source, so the source keeps it. -/
theorem keeps_of_mem_insertions (hd : d.UniqueIds) {e : Entity} (he : e ∈ insertions s d) :
    s.keeps e = true :=
  keeps_of_mem ((mem_insertions_iff hd).mp he).1

/-- The key of an entity of the destination is planned for deletion exactly when the entity
    itself is. -/
theorem key_mem_plan_deletions_iff (hs : s.UniqueIds) (hd : d.UniqueIds) {x : Entity}
    (hx : x ∈ d) :
    x.key ∈ (Operation.delete.plan (deletions s d)).map Entity.key ↔ s.keeps x = false := by
  simp only [List.mem_map, Operation.mem_plan_iff, mem_deletions_iff hs]
  constructor
  · -- The planned entity with that key is `x` itself.
    rintro ⟨e, ⟨he, hk⟩, hkey⟩
    rwa [← eq_of_key_eq hd he hx hkey]
  · exact fun hk => ⟨x, ⟨hx, hk⟩, rfl⟩

/-- What is to be deleted is not kept. -/
theorem not_mem_plan_deletions_of_keeps (hs : s.UniqueIds) (hd : d.UniqueIds) {x : Entity}
    (hx : x ∈ d) (hk : s.keeps x = true) :
    x.key ∉ (Operation.delete.plan (deletions s d)).map Entity.key := by
  rw [key_mem_plan_deletions_iff hs hd hx, hk]
  exact Bool.noConfusion

/-- After the deletions each kind has what the source keeps, in the order of the destination. -/
theorem entities_pruned (hs : s.UniqueIds) (hd : d.UniqueIds) (k : Kind) :
    (pruned s d).entities k = (d.entities k).filter s.keeps := by
  rw [pruned, entities_applyAll_delete]
  apply List.filter_congr
  intro x hx
  simp only [key_mem_plan_deletions_iff hs hd (mem_entities_iff.mp hx).1, Bool.not_eq_false,
    Bool.decide_eq_true]

/-- The goal is what the source keeps of the destination, followed by what the destination
    lacks. -/
theorem entities_goal (hs : s.UniqueIds) (hd : d.UniqueIds) (k : Kind) :
    (goal s d).entities k = (d.entities k).filter s.keeps ++ (insertions s d).entities k := by
  rw [goal, entities_applyAll_create, entities_pruned hs hd, Operation.filter_plan]

/-- After the deletions there is exactly what the source keeps. -/
theorem mem_pruned_iff (hs : s.UniqueIds) (hd : d.UniqueIds) {x : Entity} :
    x ∈ pruned s d ↔ x ∈ d ∧ s.keeps x = true := by
  rw [mem_iff, entities_pruned hs hd, List.mem_filter, mem_iff]

/-- A full run leads to what was kept and what was to be created. -/
theorem mem_goal_iff (hs : s.UniqueIds) (hd : d.UniqueIds) {x : Entity} :
    x ∈ goal s d ↔ (x ∈ d ∧ s.keeps x = true) ∨ x ∈ insertions s d := by
  rw [goal, mem_applyAll_create, mem_pruned_iff hs hd, Operation.mem_plan_iff]

/-! ## The goal mirrors the source -/

/-- Every entity of the goal has a counterpart in the source. -/
theorem exists_source_of_mem_goal (hs : s.UniqueIds) (hd : d.UniqueIds) {x : Entity}
    (hx : x ∈ goal s d) : ∃ y ∈ s, y.key = x.key ∧ x.sameContent y = true := by
  rcases (mem_goal_iff hs hd).mp hx with ⟨-, hk⟩ | hi
  · exact keeps_iff.mp hk
  · exact ⟨x, ((mem_insertions_iff hd).mp hi).1, rfl, x.sameContent_refl⟩

/-- Every entity of the source has a counterpart in the goal. -/
theorem exists_goal_of_mem_source (hs : s.UniqueIds) (hd : d.UniqueIds) {y : Entity}
    (hy : y ∈ s) : ∃ x ∈ goal s d, x.key = y.key ∧ x.sameContent y = true := by
  -- What the destination does not keep is inserted; what it keeps stays.
  cases hk : d.keeps y with
  | false =>
    exact ⟨y, (mem_goal_iff hs hd).mpr (.inr ((mem_insertions_iff hd).mpr ⟨hy, hk⟩)), rfl,
      y.sameContent_refl⟩
  | true =>
    obtain ⟨x, hx, hkey, hc⟩ := keeps_iff.mp hk
    have hxs : s.keeps x = true := keeps_of_counterpart hy hkey.symm hc
    exact ⟨x, (mem_goal_iff hs hd).mpr (.inl ⟨hx, hxs⟩), hkey, Entity.sameContent_comm x y ▸ hc⟩

/-- Nothing that is kept shares its key with something to be created. -/
theorem key_ne_of_kept_of_insertion (hs : s.UniqueIds) (hd : d.UniqueIds) {x e : Entity}
    (hx : x ∈ d) (hk : s.keeps x = true) (he : e ∈ insertions s d) : x.key ≠ e.key := by
  intro hkey
  obtain ⟨hes, hed⟩ := (mem_insertions_iff hd).mp he
  obtain ⟨y, hy, hykey, hc⟩ := keeps_iff.mp hk
  -- The counterpart of `x` in the source is `e`, which then was not missing.
  have hye : y = e := eq_of_key_eq hs hy hes (hykey.trans hkey)
  subst hye
  rw [keeps_of_counterpart hx hkey hc] at hed
  exact nomatch hed

/-- Identifiers are unique where a full run leads. -/
theorem goal_uniqueIds (hs : s.UniqueIds) (hd : d.UniqueIds) : (goal s d).UniqueIds := by
  intro k
  rw [entities_goal hs hd, List.map_append, List.nodup_append]
  refine ⟨(hd k).sublist (List.filter_sublist.map _), (hs.diff hd) k, ?_⟩
  -- No identifier is both among the kept and among the created.
  intro i hi j hj he
  obtain ⟨x, hx, rfl⟩ := List.mem_map.mp hi
  obtain ⟨e, hmem, rfl⟩ := List.mem_map.mp hj
  obtain ⟨hxd, hxk⟩ := List.mem_filter.mp hx
  refine key_ne_of_kept_of_insertion hs hd (mem_entities_iff.mp hxd).1 hxk
    (mem_entities_iff.mp hmem).1 (Entity.key_eq_iff.mpr ⟨?_, he⟩)
  rw [kind_of_mem_entities hxd, kind_of_mem_entities hmem]

/-- A graph mirrors another when they hold the same identifiers of each kind, each with the
    same content. -/
def Mirrors (g s : Graph) : Prop :=
  ∀ k, ((g.entities k).map Entity.id).Perm ((s.entities k).map Entity.id) ∧
    ∀ x ∈ g.entities k, ∀ y ∈ s.entities k, x.id = y.id → x.sameContent y = true

/-- The goal mirrors the source. -/
theorem goal_mirrors (hs : s.UniqueIds) (hd : d.UniqueIds) : (goal s d).Mirrors s := by
  intro k
  constructor
  -- Identifiers are unique on both sides, so it is enough to have the same ones.
  · rw [List.perm_ext_iff_of_nodup (goal_uniqueIds hs hd k) (hs k)]
    intro i
    simp only [List.mem_map]
    constructor
    · rintro ⟨x, hx, rfl⟩
      obtain ⟨hx, hk⟩ := mem_entities_iff.mp hx
      obtain ⟨y, hy, hkey, -⟩ := exists_source_of_mem_goal hs hd hx
      obtain ⟨hkind, hid⟩ := Entity.key_eq_iff.mp hkey
      exact ⟨y, mem_entities_iff.mpr ⟨hy, hkind.trans hk⟩, hid⟩
    · rintro ⟨y, hy, rfl⟩
      obtain ⟨hy, hk⟩ := mem_entities_iff.mp hy
      obtain ⟨x, hx, hkey, -⟩ := exists_goal_of_mem_source hs hd hy
      obtain ⟨hkind, hid⟩ := Entity.key_eq_iff.mp hkey
      exact ⟨x, mem_entities_iff.mpr ⟨hx, hkind.trans hk⟩, hid⟩
  · -- The counterpart of `x` in the source has the identifier of `y`, so it is `y`.
    intro x hx y hy hid
    obtain ⟨hx, hkx⟩ := mem_entities_iff.mp hx
    obtain ⟨hy, hky⟩ := mem_entities_iff.mp hy
    obtain ⟨z, hz, hkey, hc⟩ := exists_source_of_mem_goal hs hd hx
    have hzy : z = y := eq_of_key_eq hs hz hy
      (hkey.trans (Entity.key_eq_iff.mpr ⟨hkx.trans hky.symm, hid⟩))
    exact hzy ▸ hc

/-- A mirror of a graph with unique identifiers has unique identifiers. -/
theorem Mirrors.uniqueIds {g : Graph} (h : g.Mirrors s) (hs : s.UniqueIds) : g.UniqueIds :=
  fun k => (h k).1.nodup_iff.mpr (hs k)

/-- Between a graph and its mirror there is nothing to delete. -/
theorem Mirrors.deletions_eq_empty {g : Graph} (h : g.Mirrors s) (hs : s.UniqueIds) :
    deletions s g = {} := by
  refine (diff_eq_empty_iff hs).mpr fun x hx => ?_
  obtain ⟨y, hy, hid⟩ := List.mem_map.mp ((h x.kind).1.subset (List.mem_map_of_mem hx))
  obtain ⟨hys, hk⟩ := mem_entities_iff.mp hy
  exact keeps_iff.mpr ⟨y, hys, Entity.key_eq_iff.mpr ⟨hk, hid⟩, (h x.kind).2 x hx y hy hid.symm⟩

/-- Between a graph and its mirror there is nothing to create. -/
theorem Mirrors.insertions_eq_empty {g : Graph} (h : g.Mirrors s) (hs : s.UniqueIds) :
    insertions s g = {} := by
  refine (diff_eq_empty_iff (h.uniqueIds hs)).mpr fun y hy => ?_
  obtain ⟨x, hx, hid⟩ := List.mem_map.mp ((h y.kind).1.symm.subset (List.mem_map_of_mem hy))
  obtain ⟨hxg, hk⟩ := mem_entities_iff.mp hx
  exact keeps_of_counterpart hxg (Entity.key_eq_iff.mpr ⟨hk, hid⟩) ((h y.kind).2 x hx y hy hid)

end TenantSync.Graph
