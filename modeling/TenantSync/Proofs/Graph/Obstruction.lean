import TenantSync.Proofs.Graph.Goal

/-!
# What can get in the way of a full run

Whether a store lets a run reach its goal is a question about the two graphs alone.
`unobstructed_iff` answers it for graphs with unique identifiers: the store accepts every step
of both plans exactly when nothing kept refers to anything deleted, and everything created
finds its references, and no clash, in the goal.

If the source is well formed, the second part cannot fail, and the first only for entities
that changed (`WellFormed.unobstructed_iff`): what the source no longer has at all, nothing
kept refers to, for the source holds all that its own entities refer to.
-/

namespace TenantSync.Graph

variable {s d : Graph}

/-- Why the store refuses a mutation. -/
def refusal? (g : Graph) : Mutation → Option Refusal
  | .create e => g.insertRefusal? e
  | .delete k id => g.removeRefusal? k id

/-- The store accepts every mutation of a list, one after the other. -/
def Accepts (g : Graph) (plan : List Mutation) : Prop :=
  ∀ done m rest, plan = done ++ m :: rest → (done.foldl apply g).refusal? m = none

/-- A plan of nothing is accepted. -/
theorem accepts_nil (g : Graph) : g.Accepts [] := by
  intro done m rest h
  exact absurd h (by simp)

/-- A plan is accepted if its first mutation is and the rest is afterwards. -/
theorem accepts_cons {g : Graph} {m : Mutation} {plan : List Mutation} :
    g.Accepts (m :: plan) ↔ g.refusal? m = none ∧ (g.apply m).Accepts plan := by
  constructor
  · intro h
    refine ⟨h [] m plan rfl, fun done m' rest hplan => ?_⟩
    exact h (m :: done) m' rest (by rw [hplan, List.cons_append])
  -- A cut of the plan comes before the first mutation or behind it.
  · rintro ⟨hm, hplan⟩ (_ | ⟨m', done⟩) m'' rest he
    · obtain ⟨rfl, rfl⟩ := List.cons.inj he
      exact hm
    · obtain ⟨rfl, rfl⟩ := List.cons.inj he
      exact hplan done m'' rest rfl

/-- The mutations of an operation, one by one, do what the operation does to all entities. -/
theorem foldl_apply_map (g : Graph) (op : Operation) (es : List Entity) :
    (es.map op.mutation).foldl apply g = g.applyAll op es :=
  List.foldl_map

/-- A plan is accepted exactly when no entity of it is refused after those before it. -/
theorem accepts_map_iff {g : Graph} {op : Operation} {es : List Entity} :
    g.Accepts (es.map op.mutation) ↔ ∀ done e rest, es = done ++ e :: rest →
      (g.applyAll op done).refusal? (op.mutation e) = none := by
  constructor
  · rintro h done e rest rfl
    rw [← foldl_apply_map]
    exact h _ _ (rest.map op.mutation) (by rw [List.map_append, List.map_cons])
  · intro h done m rest hplan
    -- A cut of the mutations is one of the entities.
    obtain ⟨done, rest, hes, rfl, hrest⟩ := List.map_eq_append_iff.mp hplan
    obtain ⟨e, rest, rfl, rfl, -⟩ := List.map_eq_cons_iff.mp hrest
    rw [foldl_apply_map]
    exact h done e rest hes

/-- Nothing gets in the way of a full run. -/
structure Unobstructed (s d : Graph) : Prop where
  /-- Nothing that is kept refers to anything that is not. -/
  removable : ∀ x ∈ d, s.keeps x = true → ∀ e ∈ d, s.keeps e = false → ¬ x.RefersTo e
  /-- What is created finds its references in the goal. -/
  grounded : ∀ e ∈ insertions s d, ∀ r ∈ e.refs, (goal s d).Holds r
  /-- What is created clashes with nothing else in the goal. -/
  compatible : ∀ e ∈ insertions s d, ∀ x ∈ goal s d, x.Clashes e → x = e

/-- With unique identifiers, no entity of a plan stands before itself. -/
theorem key_not_mem_of_plan {op : Operation} {changes : Graph} {done rest : List Entity}
    {e : Entity} (h : changes.UniqueIds) (hplan : op.plan changes = done ++ e :: rest) :
    e.key ∉ done.map Entity.key := by
  have hnodup := op.nodup_keys_plan h
  rw [hplan, List.map_append, List.map_cons] at hnodup
  exact fun hkey => (List.nodup_append.mp hnodup).2.2 _ hkey _ List.mem_cons_self rfl

/-! ## Deletions -/

/-- The store accepts all planned deletions exactly when nothing kept stands in the way. -/
theorem accepts_delete_iff (hs : s.UniqueIds) (hd : d.UniqueIds) :
    d.Accepts (Operation.delete.mutations (deletions s d)) ↔
      ∀ x ∈ d, s.keeps x = true → ∀ e ∈ d, s.keeps e = false → ¬ x.RefersTo e := by
  rw [Operation.mutations, accepts_map_iff]
  constructor
  · intro h x hx hkx e he hke href
    have hmem : e ∈ Operation.delete.plan (deletions s d) :=
      (Operation.mem_plan_iff _).mpr ((mem_deletions_iff hs).mpr ⟨he, hke⟩)
    obtain ⟨done, rest, hplan⟩ := List.append_of_mem hmem
    -- `x` is kept, so it is still there when the turn of `e` comes.
    have hstay : x ∈ d.applyAll .delete done := by
      refine mem_applyAll_delete.mpr ⟨hx, fun hkey => ?_⟩
      refine not_mem_plan_deletions_of_keeps hs hd hx hkx ?_
      rw [hplan, List.map_append]
      exact List.mem_append_left _ hkey
    exact (removeRefusal?_eq_none_iff.mp (h done e rest hplan)).1 x hstay href
  · -- When the turn of `e` comes, all that referred to it is gone, and `e` is still there.
    intro h done e rest hplan
    have he : e ∈ deletions s d := Operation.mem_of_plan_eq hplan
    obtain ⟨hed, hke⟩ := (mem_deletions_iff hs).mp he
    refine removeRefusal?_eq_none_iff.mpr ⟨fun x hx href => ?_, e, ?_, rfl⟩
    · obtain ⟨hxd, hgone⟩ := mem_applyAll_delete.mp hx
      cases hkx : s.keeps x with
      | true => exact h x hxd hkx e hed hke href
      | false =>
        -- `x` is stale too, and as the referring side it came first.
        have hdone : x ∈ done := Operation.mem_of_precedes hplan
          ((mem_deletions_iff hs).mpr ⟨hxd, hkx⟩) (Entity.RefersTo.rank_lt href)
        exact hgone (List.mem_map_of_mem hdone)
    · refine mem_applyAll_delete.mpr ⟨hed, fun hkey => ?_⟩
      exact key_not_mem_of_plan (hd.diff hs) hplan hkey

/-! ## Creations -/

/-- What is created before an entity is part of the goal. -/
private theorem mem_goal_of_mem_applyAll {done rest : List Entity} {e x : Entity}
    (hplan : Operation.create.plan (insertions s d) = done ++ e :: rest)
    (hx : x ∈ (pruned s d).applyAll .create done) : x ∈ goal s d := by
  rw [goal, mem_applyAll_create, hplan]
  exact (mem_applyAll_create.mp hx).imp_right (List.mem_append_left _)

/-- The store accepts all planned creations exactly when each finds its references in the goal
    and clashes with nothing else there. -/
theorem accepts_create_iff (hs : s.UniqueIds) (hd : d.UniqueIds) :
    (pruned s d).Accepts (Operation.create.mutations (insertions s d)) ↔
      (∀ e ∈ insertions s d, ∀ r ∈ e.refs, (goal s d).Holds r) ∧
        ∀ e ∈ insertions s d, ∀ x ∈ goal s d, x.Clashes e → x = e := by
  rw [Operation.mutations, accepts_map_iff]
  constructor
  · intro h
    refine ⟨fun e he r hr => ?_, fun e he x hx hclash => ?_⟩ <;>
      obtain ⟨done, rest, hplan⟩ := List.append_of_mem ((Operation.mem_plan_iff _).mpr he)
    · obtain ⟨x, hx, hkey⟩ := (insertRefusal?_eq_none_iff.mp (h done e rest hplan)).1 r hr
      exact ⟨x, mem_goal_of_mem_applyAll hplan hx, hkey⟩
    · have hfree := (insertRefusal?_eq_none_iff.mp (h done e rest hplan)).2
      rw [goal, mem_applyAll_create, hplan, List.mem_append, List.mem_cons] at hx
      -- `x` was kept, or created before `e`, or is `e`, or is created after it.
      rcases hx with hx | hx | rfl | hx
      · exact absurd hclash (hfree x (mem_applyAll_create.mpr (.inl hx)))
      · exact absurd hclash (hfree x (mem_applyAll_create.mpr (.inr hx)))
      · rfl
      · -- `x` comes later, and was accepted next to `e`.
        obtain ⟨between, last, rfl⟩ := List.append_of_mem hx
        have hlater : Operation.create.plan (insertions s d) =
            (done ++ e :: between) ++ x :: last := by rw [hplan]; simp
        exact absurd hclash.symm ((insertRefusal?_eq_none_iff.mp (h _ x last hlater)).2 e
          (mem_applyAll_create.mpr (.inr (List.mem_append_right _ List.mem_cons_self))))
  · rintro ⟨hground, hcompat⟩ done e rest hplan
    have he : e ∈ insertions s d := Operation.mem_of_plan_eq hplan
    refine insertRefusal?_eq_none_iff.mpr ⟨fun r hr => ?_, fun x hx hclash => ?_⟩
    · -- What `e` refers to was kept, or has its turn before `e`.
      obtain ⟨y, hy, hkey⟩ := hground e he r hr
      refine ⟨y, mem_applyAll_create.mpr ?_, hkey⟩
      rw [goal, mem_applyAll_create, Operation.mem_plan_iff] at hy
      refine hy.imp_right fun hins => Operation.mem_of_precedes hplan hins ?_
      have href : e.RefersTo y := by rw [Entity.RefersTo, hkey]; exact hr
      exact href.rank_lt
    · -- Only `e` itself could clash, and it is not there yet.
      have hxe := hcompat e he x (mem_goal_of_mem_applyAll hplan hx) hclash
      subst hxe
      rcases mem_applyAll_create.mp hx with hx | hx
      · obtain ⟨hxd, hk⟩ := (mem_pruned_iff hs hd).mp hx
        exact key_ne_of_kept_of_insertion hs hd hxd hk he rfl
      · exact key_not_mem_of_plan (hs.diff hd) hplan (List.mem_map_of_mem hx)

/-- The store accepts every step of both plans exactly when nothing gets in the way. -/
theorem unobstructed_iff (hs : s.UniqueIds) (hd : d.UniqueIds) :
    Unobstructed s d ↔
      d.Accepts (Operation.delete.mutations (deletions s d)) ∧
        (pruned s d).Accepts (Operation.create.mutations (insertions s d)) := by
  rw [accepts_delete_iff hs hd, accepts_create_iff hs hd]
  exact ⟨fun h => ⟨h.removable, h.grounded, h.compatible⟩, fun h => ⟨h.1, h.2.1, h.2.2⟩⟩

/-! ## A well-formed source -/

/-- With a well-formed source, the store accepts all creations once the deletions are done. -/
theorem WellFormed.creatable (hs : s.WellFormed) (hd : d.UniqueIds) :
    (∀ e ∈ insertions s d, ∀ r ∈ e.refs, (goal s d).Holds r) ∧
      ∀ e ∈ insertions s d, ∀ x ∈ goal s d, x.Clashes e → x = e := by
  refine ⟨fun e he r hr => ?_, fun e he x hx hclash => ?_⟩ <;>
    obtain ⟨hes, hed⟩ := (mem_insertions_iff hd).mp he
  · -- The source holds what `e` refers to, and the goal has a counterpart of that.
    obtain ⟨y, hy, rfl⟩ := hs.closed e hes r hr
    obtain ⟨x, hx, hkey, -⟩ := exists_goal_of_mem_source hs.unique_ids hd hy
    exact ⟨x, hx, hkey⟩
  · -- The counterpart of `x` in the source clashes with `e` as well, so it is `e`.
    obtain ⟨y, hy, hkey, hc⟩ := exists_source_of_mem_goal hs.unique_ids hd hx
    have hclash' : y.Clashes e :=
      (Entity.clashes_iff_of_sameContent hc (Entity.key_eq_iff.mp hkey).2.symm).mp hclash
    obtain rfl := hs.eq_of_clashes hy hes hclash'
    rcases (mem_goal_iff hs.unique_ids hd).mp hx with ⟨hxd, hk⟩ | hi
    · exact absurd hkey.symm (key_ne_of_kept_of_insertion hs.unique_ids hd hxd hk he)
    · exact eq_of_key_eq hs.unique_ids ((mem_insertions_iff hd).mp hi).1 hes hkey.symm

/-- With a well-formed source, all that can get in the way is something kept that refers to
    something changed. -/
theorem WellFormed.unobstructed_iff (hs : s.WellFormed) (hd : d.UniqueIds) :
    Unobstructed s d ↔
      ∀ x ∈ d, s.keeps x = true → ∀ e ∈ d, s.changes e = true → ¬ x.RefersTo e := by
  constructor
  · intro h x hx hkx e he hce
    exact h.removable x hx hkx e he (not_keeps_of_changes hs.unique_ids hce)
  · intro h
    refine ⟨fun x hx hkx e he hke href => ?_, (hs.creatable hd).1, (hs.creatable hd).2⟩
    cases hce : s.changes e with
    | true => exact h x hx hkx e he hce href
    | false =>
      -- The counterpart of `x` refers to `e` too, and the source is closed.
      obtain ⟨y, hy, -, hc⟩ := keeps_iff.mp hkx
      have href' : e.key ∈ y.refs := Entity.refs_eq_of_sameContent hc ▸ href
      exact not_holds_of_not_keeps hke hce (hs.closed y hy _ href')

end TenantSync.Graph
