import TenantSync.Proofs.Graph.Obstruction

/-!
# How far failures spread

When some mutations fail although the rules allow them, others fail for that reason: what could
not be deleted stands in the way of what it refers to, and what could not be created is missing
for what refers to it.  `Stuck` and `Orphaned` are the least sets that are closed under this.

A run goes through its plan once, in order.  `stuck_iff_refused` and `orphaned_iff_refused` say
that this is enough: when the turn of an entity comes, the store refuses it, or its failure was
injected, exactly if it is in the set.
-/

namespace TenantSync.Graph

/-- The planned deletions that fail if the mutations of some identifiers do: those themselves, what
    something kept refers to, and what a failed one refers to. -/
inductive Stuck (s d : Graph) (failing : List Uuid) : Entity → Prop where
  | injected {e : Entity} (he : e ∈ deletions s d) (hfail : e.id ∈ failing) : Stuck s d failing e
  | needed {e x : Entity} (he : e ∈ deletions s d) (hx : x ∈ d) (hkept : s.keeps x = true)
      (href : x.RefersTo e) : Stuck s d failing e
  | blocked {e x : Entity} (he : e ∈ deletions s d) (hx : Stuck s d failing x)
      (href : x.RefersTo e) : Stuck s d failing e

/-- The planned creations that fail if the mutations of some identifiers do: those themselves, and
    what refers to a failed one. -/
inductive Orphaned (s d : Graph) (failing : List Uuid) : Entity → Prop where
  | injected {e : Entity} (he : e ∈ insertions s d) (hfail : e.id ∈ failing) :
      Orphaned s d failing e
  | ungrounded {e x : Entity} (he : e ∈ insertions s d) (hx : Orphaned s d failing x)
      (href : e.RefersTo x) : Orphaned s d failing e

variable {s d : Graph} {failing : List Uuid} {e : Entity} {done rest : List Entity}

/-- Only what is to be deleted can be stuck. -/
theorem Stuck.mem_deletions (h : Stuck s d failing e) : e ∈ deletions s d := by
  cases h <;> assumption

/-- Only what is to be created can be orphaned. -/
theorem Orphaned.mem_insertions (h : Orphaned s d failing e) : e ∈ insertions s d := by
  cases h <;> assumption

/-- With unique identifiers, deleting some entities of a graph leaves the others. -/
theorem mem_applyAll_delete_of_subset (hd : d.UniqueIds) {es : List Entity} (hes : ∀ x ∈ es, x ∈ d)
    {x : Entity} : x ∈ d.applyAll .delete es ↔ x ∈ d ∧ x ∉ es := by
  rw [mem_applyAll_delete]
  refine and_congr_right fun hx => not_congr ⟨fun hkey => ?_, List.mem_map_of_mem⟩
  obtain ⟨y, hy, hyx⟩ := List.mem_map.mp hkey
  rwa [← eq_of_key_eq hd (hes y hy) hx hyx]

/-- Nothing that was kept, or created so far, clashes with what is to be created next. -/
theorem not_clashes_of_created (hs : s.WellFormed) (hd : d.UniqueIds)
    (hplan : Operation.create.plan (insertions s d) = done ++ e :: rest) {es : List Entity}
    (hes : es ⊆ done) {x : Entity} (hx : x ∈ (pruned s d).applyAll .create es) : ¬ x.Clashes e := by
  intro hclash
  have he : e ∈ insertions s d := Operation.mem_of_plan_eq hplan
  have hins : ∀ y ∈ es, y ∈ insertions s d := fun y hy =>
    (Operation.mem_plan_iff .create).mp (hplan ▸ List.mem_append_left _ (hes hy))
  rw [mem_applyAll_create, mem_pruned_iff hs.unique_ids hd] at hx
  have hgoal : x ∈ goal s d := (mem_goal_iff hs.unique_ids hd).mpr (hx.imp_right (hins x))
  -- In the goal only the entity itself clashes with it, and it was neither kept nor created.
  obtain rfl := (hs.creatable hd).2 e he x hgoal hclash
  rcases hx with ⟨hxd, hkept⟩ | hmem
  · exact key_ne_of_kept_of_insertion hs.unique_ids hd hxd hkept he rfl
  · exact key_not_mem_of_plan (hs.unique_ids.diff hd) hplan (List.mem_map_of_mem (hes hmem))

section
open scoped Classical

/-- The turn of a planned deletion has come, and all before it were deleted but those that are
    stuck: it fails exactly if it is stuck itself. -/
theorem stuck_iff_refused (hs : s.UniqueIds) (hd : d.UniqueIds)
    (hplan : Operation.delete.plan (deletions s d) = done ++ e :: rest) :
    Stuck s d failing e ↔ e.id ∈ failing ∨
      (d.applyAll .delete (done.filter fun x => ¬ Stuck s d failing x)).refusal?
        (Operation.delete.mutation e) ≠ none := by
  have he : e ∈ deletions s d := Operation.mem_of_plan_eq hplan
  have hdone : ∀ x ∈ done, x ∈ deletions s d := fun x hx =>
    (Operation.mem_plan_iff .delete).mp (hplan ▸ List.mem_append_left _ hx)
  have hleft : ∀ x, x ∈ d.applyAll .delete (done.filter fun x => ¬ Stuck s d failing x) ↔
      x ∈ d ∧ (x ∈ done → Stuck s d failing x) := by
    intro x
    rw [mem_applyAll_delete_of_subset hd fun y hy =>
      ((mem_deletions_iff hs).mp (hdone y (List.mem_filter.mp hy).1)).1]
    simp only [List.mem_filter, decide_eq_true_eq, not_and, not_not]
  -- The entity itself is still there, so it is refused only if something refers to it.
  have hself : e ∈ d.applyAll .delete (done.filter fun x => ¬ Stuck s d failing x) :=
    (hleft e).mpr ⟨((mem_deletions_iff hs).mp he).1, fun hmem =>
      absurd (List.mem_map_of_mem hmem) (key_not_mem_of_plan (hd.diff hs) hplan)⟩
  have hrefused : (d.applyAll .delete (done.filter fun x => ¬ Stuck s d failing x)).refusal?
      (Operation.delete.mutation e) ≠ none ↔
      ∃ x, (x ∈ d ∧ (x ∈ done → Stuck s d failing x)) ∧ x.RefersTo e := by
    rw [Ne, Operation.mutation, refusal?, removeRefusal?_eq_none_iff,
      and_iff_left ⟨e, hself, rfl⟩]
    simp only [hleft, not_forall, not_not, exists_prop]
    rfl
  rw [hrefused]
  constructor
  · intro h
    cases h with
    | injected _ hfail => exact .inl hfail
    | needed _ hx hkept href =>
      -- What is kept was not planned.
      refine .inr ⟨_, ⟨hx, fun hmem => ?_⟩, href⟩
      have hlost := ((mem_deletions_iff hs).mp (hdone _ hmem)).2
      exact Bool.noConfusion (hkept.symm.trans hlost)
    | blocked _ hx href =>
      exact .inr ⟨_, ⟨((mem_deletions_iff hs).mp hx.mem_deletions).1, fun _ => hx⟩, href⟩
  · rintro (hfail | ⟨x, ⟨hx, hstuck⟩, href⟩)
    · exact .injected he hfail
    cases hkept : s.keeps x with
    | true => exact .needed he hx hkept href
    | false =>
      -- `x` is planned as well, and as the referring side it had its turn before.
      exact .blocked he (hstuck (Operation.mem_of_precedes hplan
        ((mem_deletions_iff hs).mpr ⟨hx, hkept⟩) (Entity.RefersTo.rank_lt href))) href

/-- The turn of a planned creation has come, and all before it were created but those that are
    orphaned: it fails exactly if it is orphaned itself. -/
theorem orphaned_iff_refused (hs : s.WellFormed) (hd : d.UniqueIds)
    (hplan : Operation.create.plan (insertions s d) = done ++ e :: rest) :
    Orphaned s d failing e ↔ e.id ∈ failing ∨
      ((pruned s d).applyAll .create (done.filter fun x => ¬ Orphaned s d failing x)).refusal?
        (Operation.create.mutation e) ≠ none := by
  have he : e ∈ insertions s d := Operation.mem_of_plan_eq hplan
  have hdone : ∀ x ∈ done, x ∈ insertions s d := fun x hx =>
    (Operation.mem_plan_iff .create).mp (hplan ▸ List.mem_append_left _ hx)
  have hthere : ∀ x, x ∈ (pruned s d).applyAll .create
      (done.filter fun x => ¬ Orphaned s d failing x) ↔
      (x ∈ d ∧ s.keeps x = true) ∨ x ∈ done ∧ ¬ Orphaned s d failing x := by
    intro x
    rw [mem_applyAll_create, mem_pruned_iff hs.unique_ids hd, List.mem_filter, decide_eq_true_eq]
  -- Nothing there clashes with `e`, so it is refused only if something is missing.
  have hfree : ∀ x ∈ (pruned s d).applyAll .create
      (done.filter fun x => ¬ Orphaned s d failing x), ¬ x.Clashes e := fun x hx =>
    not_clashes_of_created hs hd hplan (List.filter_subset_self _) hx
  have hrefused : ((pruned s d).applyAll .create
      (done.filter fun x => ¬ Orphaned s d failing x)).refusal?
      (Operation.create.mutation e) ≠ none ↔
      ∃ r ∈ e.refs, ¬ ((pruned s d).applyAll .create
        (done.filter fun x => ¬ Orphaned s d failing x)).Holds r := by
    rw [Ne, Operation.mutation, refusal?, insertRefusal?_eq_none_iff, and_iff_left hfree]
    simp only [not_forall, exists_prop]
  rw [hrefused]
  constructor
  · intro h
    cases h with
    | injected _ hfail => exact .inl hfail
    | @ungrounded _ x _ hx href =>
      -- Whatever has the key of `x` is neither kept nor was it created.
      refine .inr ⟨x.key, href, ?_⟩
      rintro ⟨y, hy, hkey⟩
      rcases (hthere y).mp hy with ⟨hyd, hkept⟩ | ⟨hmem, hcreated⟩
      · exact key_ne_of_kept_of_insertion hs.unique_ids hd hyd hkept hx.mem_insertions hkey
      · obtain rfl := eq_of_key_eq (hs.unique_ids.diff hd) (hdone y hmem) hx.mem_insertions hkey
        exact hcreated hx
  · rintro (hfail | ⟨r, hr, hmissing⟩)
    · exact .injected he hfail
    -- The goal has what is missing, so its turn came before, and it failed.
    obtain ⟨x, hx, rfl⟩ := (hs.creatable hd).1 e he r hr
    refine .ungrounded (x := x) he (not_not.mp fun hcreated => hmissing ⟨x, (hthere x).mpr ?_, rfl⟩) hr
    rcases (mem_goal_iff hs.unique_ids hd).mp hx with hkept | hins
    · exact .inl hkept
    · exact .inr ⟨Operation.mem_of_precedes hplan hins (Entity.RefersTo.rank_lt hr), hcreated⟩

end

end TenantSync.Graph
