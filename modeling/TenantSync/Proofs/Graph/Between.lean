import TenantSync.Proofs.Graph.Obstruction

/-!
# Between the destination and the goal

Runs that were interrupted, or whose calls failed, leave the destination somewhere between
where it was and where a full run would have taken it.  `Between s d g` says what holds of
such a graph `g`: nothing kept is lost, nothing foreign is added, and nothing is created
before everything stale is gone.  Both phases stay within these bounds, however much of them
was done (`Between.deleted`, `Between.created`), and within these bounds the goal is still
the same (`Between.goal_perm`) and still in reach (`Between.unobstructed`).
-/

namespace TenantSync.Graph

variable {s d g : Graph}

/-- What holds of the destination while full runs take it from `d` towards the goal. -/
structure Between (s d g : Graph) : Prop where
  unique : g.UniqueIds
  /-- Nothing kept is lost. -/
  kept : ∀ x ∈ d, s.keeps x = true → x ∈ g
  /-- Nothing foreign is added. -/
  known : ∀ x ∈ g, x ∈ d ∨ x ∈ insertions s d
  /-- Nothing is created before everything stale is gone. -/
  staged : ∀ e ∈ g, e ∈ insertions s d → ∀ x ∈ g, s.keeps x = true

namespace Between

/-- The destination itself is where it starts. -/
theorem refl (s : Graph) (hd : d.UniqueIds) : Between s d d where
  unique := hd
  kept := fun _ hx _ => hx
  known := fun _ hx => .inl hx
  staged := by
    intro e he hi
    have hk := ((mem_insertions_iff hd).mp hi).2
    rw [keeps_of_mem he] at hk
    exact nomatch hk

/-! ## The goal stays the same -/

/-- What is missing now was missing at the start. -/
theorem mem_insertions (hd : d.UniqueIds) (h : Between s d g) {e : Entity}
    (he : e ∈ insertions s g) : e ∈ insertions s d := by
  obtain ⟨hes, heg⟩ := (mem_insertions_iff h.unique).mp he
  refine (mem_insertions_iff hd).mpr ⟨hes, ?_⟩
  -- Had the destination kept it at the start, its counterpart would still be there.
  by_contra hk
  obtain ⟨x, hx, hkey, hc⟩ := keeps_iff.mp (by simpa using hk)
  have hxg : x ∈ g := h.kept x hx (keeps_of_counterpart hes hkey.symm hc)
  rw [keeps_iff.mpr ⟨x, hxg, hkey, hc⟩] at heg
  exact nomatch heg

/-- From everything between the first destination and the goal, a full run has the same goal. -/
theorem mem_goal_iff (hs : s.UniqueIds) (hd : d.UniqueIds) (h : Between s d g) {x : Entity} :
    x ∈ goal s g ↔ x ∈ goal s d := by
  rw [Graph.mem_goal_iff hs h.unique, Graph.mem_goal_iff hs hd]
  constructor
  · rintro (⟨hx, hk⟩ | hi)
    · exact (h.known x hx).imp_left fun hxd => ⟨hxd, hk⟩
    · exact .inr (h.mem_insertions hd hi)
  · rintro (⟨hx, hk⟩ | hi)
    · exact .inl ⟨h.kept x hx hk, hk⟩
    obtain ⟨hxs, hxd⟩ := (mem_insertions_iff hd).mp hi
    cases hxg : g.keeps x with
    | false => exact .inr ((mem_insertions_iff h.unique).mpr ⟨hxs, hxg⟩)
    | true =>
      -- The counterpart of `x` was not there at the start, so it is `x` itself, created since.
      obtain ⟨y, hy, hkey, hc⟩ := keeps_iff.mp hxg
      rcases h.known y hy with hyd | hyi
      · rw [keeps_iff.mpr ⟨y, hyd, hkey, hc⟩] at hxd
        exact nomatch hxd
      · obtain rfl := eq_of_key_eq hs ((mem_insertions_iff hd).mp hyi).1 hxs hkey
        exact .inl ⟨hy, keeps_of_mem hxs⟩

/-- The goal is still the same, up to the order in which it comes about. -/
theorem goal_perm (hs : s.UniqueIds) (hd : d.UniqueIds) (h : Between s d g) (k : Kind) :
    ((goal s g).entities k).Perm ((goal s d).entities k) := by
  rw [List.perm_ext_iff_of_nodup ((goal_uniqueIds hs h.unique).nodup_entities k)
    ((goal_uniqueIds hs hd).nodup_entities k)]
  intro x
  rw [mem_entities_iff, mem_entities_iff, h.mem_goal_iff hs hd]

/-- If nothing got in the way at the start, nothing does now. -/
theorem unobstructed (hs : s.UniqueIds) (hd : d.UniqueIds) (h : Between s d g)
    (hfree : Unobstructed s d) : Unobstructed s g where
  removable := by
    intro x hx hkx e he hke
    have hed : e ∈ d := by
      refine (h.known e he).resolve_right fun hi => ?_
      rw [keeps_of_mem_insertions hd hi] at hke
      exact nomatch hke
    -- Where something stale is left, nothing was created yet, so `x` was there from the start.
    rcases h.known x hx with hxd | hxi
    · exact hfree.removable x hxd hkx e hed hke
    · rw [h.staged x hx hxi e he] at hke
      exact nomatch hke
  grounded := by
    intro e he r hr
    obtain ⟨y, hy, hkey⟩ := hfree.grounded e (h.mem_insertions hd he) r hr
    exact ⟨y, (h.mem_goal_iff hs hd).mpr hy, hkey⟩
  compatible := fun e he x hx =>
    hfree.compatible e (h.mem_insertions hd he) x ((h.mem_goal_iff hs hd).mp hx)

/-! ## Runs stay in between -/

/-- A run may have deleted any part of what it planned. -/
theorem deleted (hs : s.UniqueIds) (h : Between s d g) {es : List Entity}
    (hes : es.Sublist (Operation.delete.plan (deletions s g))) :
    Between s d (g.applyAll .delete es) := by
  have hmem : ∀ x ∈ g.applyAll .delete es, x ∈ g := fun x hx => (mem_applyAll_delete.mp hx).1
  refine ⟨h.unique.of_sublist fun k => ?_, fun x hx hk => ?_, fun x hx => h.known x (hmem x hx),
    fun e he hi x hx => h.staged e (hmem e he) hi x (hmem x hx)⟩
  · rw [entities_applyAll_delete]
    exact List.filter_sublist
  · -- A deletion was planned for a key only if its entity is not kept.
    have hxg := h.kept x hx hk
    refine mem_applyAll_delete.mpr ⟨hxg, fun hkey => ?_⟩
    exact not_mem_plan_deletions_of_keeps hs h.unique hxg hk ((hes.map _).subset hkey)

/-- After all its deletions, a run may have created any part of what it planned. -/
theorem created (hs : s.UniqueIds) (hd : d.UniqueIds) (h : Between s d g) {es : List Entity}
    (hes : es.Sublist (Operation.create.plan (insertions s g))) :
    Between s d ((pruned s g).applyAll .create es) := by
  -- What is there now was kept before or has been created since.
  have hmem : ∀ x ∈ (pruned s g).applyAll .create es,
      (x ∈ g ∧ s.keeps x = true) ∨ x ∈ insertions s g := by
    intro x hx
    rw [mem_applyAll_create, mem_pruned_iff hs h.unique] at hx
    exact hx.imp_right fun hin => (Operation.mem_plan_iff _).mp (hes.subset hin)
  refine ⟨(goal_uniqueIds hs h.unique).of_sublist fun k => ?_, fun x hx hk => ?_,
    fun x hx => ?_, fun _ _ _ x hx => ?_⟩
  · -- What was created is a part of what the goal takes on.
    rw [goal, entities_applyAll_create, entities_applyAll_create]
    exact (hes.filter _).append_left _
  · exact mem_applyAll_create.mpr
      (.inl ((mem_pruned_iff hs h.unique).mpr ⟨h.kept x hx hk, hk⟩))
  · rcases hmem x hx with ⟨hxg, -⟩ | hi
    · exact h.known x hxg
    · exact .inr (h.mem_insertions hd hi)
  · rcases hmem x hx with ⟨-, hk⟩ | hi
    · exact hk
    · exact keeps_of_mem_insertions h.unique hi

end Between

end TenantSync.Graph
