import TenantSync.Proofs.Tenant.InsertOnly
import TenantSync.Proofs.Tenant.Passage

/-!
# Edges stay well typed

An edge type says of which types the two objects of its edges are.  The rules of a store do not
look at that (`exists_untyped_insertion`), so it depends on what is asked of it.  A graph whose
edges are typed stays so while a run changes it, because no edge ever stands between forms that do
not belong together: what an edge refers to is either all in the form of the source or all in that
of the destination (`edgesTyped_of_kept`).

- A full run deletes everything stale before it creates anything (`Between.edgesTyped`).
- A run that only inserts and gives up at its first failure never comes to an edge whose edge type
  or objects have changed (`edgesTyped_created`).

`passed_typeCorrect` is the result for all states that such runs pass through.
-/

namespace TenantSync

namespace Graph

/-- Every edge joins objects of the types that its edge type declares. -/
def EdgesTyped (g : Graph) : Prop :=
  ∀ e ∈ g.edges, ∀ t ∈ g.edgeTypes, t.id = e.edgeTypeId → ∀ o ∈ g.objects,
    (o.id = e.sourceId → o.typeId = t.sourceTypeId) ∧
      (o.id = e.targetId → o.typeId = t.targetTypeId)

instance (g : Graph) : Decidable g.EdgesTyped :=
  inferInstanceAs (Decidable (∀ e ∈ g.edges, ∀ t ∈ g.edgeTypes, t.id = e.edgeTypeId →
    ∀ o ∈ g.objects, (o.id = e.sourceId → o.typeId = t.sourceTypeId) ∧
      (o.id = e.targetId → o.typeId = t.targetTypeId)))

/-- What holds of a graph that grew under the rules and whose edges are typed. -/
structure TypeCorrect (g : Graph) : Prop extends g.WellFormed where
  edges_typed : g.EdgesTyped

variable {s d g : Graph}

/-! ## Edges among what a typed graph keeps -/

/-- An object is kept if the source has it with the same type and alias. -/
theorem keeps_object_iff {o : Object} :
    s.keeps (.object o) = true ↔
      ∃ p ∈ s.objects, p.id = o.id ∧ o.typeId = p.typeId ∧ o.alias? = p.alias? := by
  simp [keeps, entities, Entity.kind, Entity.id, Entity.sameContent, Resource.sameContent]

/-- An edge type is kept if the source has it with the same name, ends and attributes. -/
theorem keeps_edgeType_iff {t : EdgeType} :
    s.keeps (.edgeType t) = true ↔
      ∃ u ∈ s.edgeTypes, u.id = t.id ∧ t.typeName = u.typeName ∧
        t.sourceTypeId = u.sourceTypeId ∧ t.targetTypeId = u.targetTypeId ∧
        Attribute.canonical t.attributes = Attribute.canonical u.attributes := by
  simp [keeps, entities, Entity.kind, Entity.id, Entity.sameContent, Resource.sameContent,
    and_assoc]

/-- An edge is kept if the source has it with the same type and ends. -/
theorem keeps_edge_iff {e : Edge} :
    s.keeps (.edge e) = true ↔
      ∃ f ∈ s.edges, f.id = e.id ∧ e.edgeTypeId = f.edgeTypeId ∧ e.sourceId = f.sourceId ∧
        e.targetId = f.targetId := by
  simp [keeps, entities, Entity.kind, Entity.id, Entity.sameContent, Resource.sameContent,
    and_assoc]

/-- If every edge of a graph is kept by some graph whose edges are typed, together with all that
    the edge refers to, then the edges of the graph itself are typed. -/
theorem edgesTyped_of_kept
    (h : ∀ e ∈ g.edges, ∃ k : Graph, k.EdgesTyped ∧ k.keeps (.edge e) = true ∧
      ∀ y ∈ g, (Entity.edge e).RefersTo y → k.keeps y = true) : g.EdgesTyped := by
  intro e he t ht hte o ho
  obtain ⟨k, htyped, hkept, hrefs⟩ := h e he
  -- Edge and edge type have counterparts in `k` that name the same ends and the same types.
  obtain ⟨e', he', -, htype, hsource, htarget⟩ := keeps_edge_iff.mp hkept
  obtain ⟨t', ht', htid, -, hfrom, hto, -⟩ := keeps_edgeType_iff.mp <|
    hrefs (.edgeType t) (List.mem_map_of_mem ht) (by
      simp [Entity.RefersTo, Entity.key, Entity.kind, Entity.id, Entity.refs, hte])
  -- An end of the edge has the type that its counterpart has there.
  have hend : o.id = e.sourceId ∨ o.id = e.targetId →
      ∃ p ∈ k.objects, p.id = o.id ∧ o.typeId = p.typeId := by
    intro hid
    obtain ⟨p, hp, hpid, hptype, -⟩ := keeps_object_iff.mp <|
      hrefs (.object o) (List.mem_map_of_mem ho) (by
        simpa [Entity.RefersTo, Entity.key, Entity.kind, Entity.id, Entity.refs] using hid)
    exact ⟨p, hp, hpid, hptype⟩
  -- So what `k` says about the types of both ends holds of the objects here.
  constructor
  · intro hid
    obtain ⟨p, hp, hpid, hptype⟩ := hend (.inl hid)
    rw [hptype, hfrom]
    exact (htyped e' he' t' ht' (by rw [htid, hte, htype]) p hp).1 (by rw [hpid, hid, hsource])
  · intro hid
    obtain ⟨p, hp, hpid, hptype⟩ := hend (.inr hid)
    rw [hptype, hto]
    exact (htyped e' he' t' ht' (by rw [htid, hte, htype]) p hp).2 (by rw [hpid, hid, htarget])

/-- While full runs change the destination, either everything in it was there before, or everything
    in it is as the source wants it. -/
theorem Between.edgesTyped (h : Between s d g) (hs : s.EdgesTyped) (hd : d.EdgesTyped) :
    g.EdgesTyped := by
  refine edgesTyped_of_kept fun e he => ?_
  have he : Entity.edge e ∈ g := List.mem_map_of_mem he
  -- Once anything new is there, everything stale is gone.
  by_cases hold : ∀ x ∈ g, x ∈ d
  · exact ⟨d, hd, keeps_of_mem (hold _ he), fun y hy _ => keeps_of_mem (hold y hy)⟩
  · simp only [not_forall] at hold
    obtain ⟨x, hx, hxd⟩ := hold
    have hkept := h.staged x hx ((h.known x hx).resolve_left hxd)
    exact ⟨s, hs, hkept _ he, fun y hy _ => hkept y hy⟩

/-- What was there before still refers to what was there before. -/
theorem WellFormed.mem_of_refersTo (hd : d.WellFormed) (hg : g.UniqueIds) (hsub : ∀ x ∈ d, x ∈ g)
    {x y : Entity} (hx : x ∈ d) (hy : y ∈ g) (href : x.RefersTo y) : y ∈ d := by
  obtain ⟨z, hz, hkey⟩ := hd.closed x hx _ href
  rwa [← eq_of_key_eq hg (hsub z hz) hy hkey]

/-- Before the first failure nothing was created that refers to anything but what the source
    keeps. -/
theorem keeps_of_refersTo_created (hs : s.WellFormed) (hd : d.UniqueIds) {es : List Entity}
    (hes : es <+: Operation.create.plan (insertions s d))
    (hleft : (d.applyAll .create es).UniqueIds) {x y : Entity} (hx : x ∈ es)
    (hy : y ∈ d.applyAll .create es) (href : x.RefersTo y) : s.keeps y = true := by
  have hinsertion : ∀ z ∈ es, z ∈ insertions s d := fun z hz =>
    (Operation.mem_plan_iff _).mp (hes.subset hz)
  rcases mem_applyAll_create.mp hy with hyd | hyes
  · by_contra hk
    -- The source holds the key, so it holds it with another content; but then `x` had to wait.
    refine not_holds_of_not_keeps (by simpa using hk) ?_
      (hs.closed x ((mem_insertions_iff hd).mp (hinsertion x hx)).1 _ href)
    rw [← Bool.not_eq_true]
    exact fun hc => not_refersTo_changed_of_prefix hd hes hleft hx hyd hc href
  · exact keeps_of_mem_insertions hd (hinsertion y hyes)

/-- What a run creates before its first failure leaves the edges typed. -/
theorem edgesTyped_created (hs : s.TypeCorrect) (hd : d.TypeCorrect) {es : List Entity}
    (hes : es <+: Operation.create.plan (insertions s d))
    (hleft : (d.applyAll .create es).UniqueIds) : (d.applyAll .create es).EdgesTyped := by
  refine edgesTyped_of_kept fun e he => ?_
  have he : Entity.edge e ∈ d.applyAll .create es := List.mem_map_of_mem he
  -- An old edge refers to what was there, a new one to what the source keeps.
  rcases mem_applyAll_create.mp he with hed | hees
  · exact ⟨d, hd.edges_typed, keeps_of_mem hed, fun y hy href => keeps_of_mem <|
      hd.toWellFormed.mem_of_refersTo hleft (fun x hx => mem_applyAll_create.mpr (.inl hx)) hed hy
        href⟩
  · exact ⟨s, hs.edges_typed, keeps_of_mem_insertions hd.unique_ids
      ((Operation.mem_plan_iff _).mp (hes.subset hees)), fun y hy href =>
      keeps_of_refersTo_created hs.toWellFormed hd.unique_ids hes hleft hees hy href⟩

end Graph

open TenantSync.Graph

open Tenant (Answer)

/-- However a run ends that is full, or only inserts and gives up at its first failure, the edges of
    the destination are typed. -/
theorem RunEnds.typeCorrect {stops readable : Prop} {source destination : String} {o : Options}
    {s g : Graph} {t t' : Tenant} {sent : List (Mutation × Bool)} {out : Except SyncFailure Report}
    (h : RunEnds stops (Answer stops) readable source destination o s g t sent t' out)
    (hg : t.graph = g) (hs : s.TypeCorrect) (hd : g.TypeCorrect)
    (ho : o.insertOnly = true → o.mode = .failFast) : t'.graph.TypeCorrect := by
  have hleft : t'.graph.WellFormed := h.wellFormed (hg ▸ hd.toWellFormed)
  refine ⟨hleft, ?_⟩
  by_cases hdry : o.dryRun = true
  · rw [(h.of_dryRun hdry).2, hg]
    exact hd.edges_typed
  by_cases hins : o.insertOnly = true
  -- Giving up at the first failure, the run has created a beginning of its plan.
  · obtain ⟨es, -, hbefore, hgraph⟩ := h.created hg hins
    rw [hgraph] at hleft ⊢
    exact edgesTyped_created hs hd (hbefore (ho hins)) hleft.unique_ids
  · have hfull : o.Full := ⟨by simpa using hdry, by simpa using hins⟩
    have hb := h.between hg hfull hs.unique_ids hd.unique_ids (Between.refl s hd.unique_ids)
    exact hb.edgesTyped hs.edges_typed hd.edges_typed

namespace Tenant

/-! ## A relation turned round -/

/-- An edge from either object to either is of the type it needs. -/
theorem related_typeCorrect {a b : Object} (ha : a ∈ [user, group]) (hb : b ∈ [user, group]) :
    (related a b).TypeCorrect := by
  simp only [List.mem_cons, List.not_mem_nil, or_false] at ha hb
  rcases ha with rfl | rfl <;> rcases hb with rfl | rfl
  all_goals
    refine ⟨⟨?_, by decide, by decide, ?_⟩, by decide⟩
    · rintro (_ | _ | _ | _) <;> decide
    · rw [forall_mem_iff]
      decide

/-- The rules of a store let an edge join objects of any types. -/
theorem exists_untyped_insertion :
    ∃ (g : Graph) (e : Edge), g.TypeCorrect ∧ g.insertRefusal? (.edge e) = none ∧
      ¬ (g.add (.edge e)).TypeCorrect :=
  ⟨related user group, ⟨numbered 13, numbered 5, group.id, user.id⟩,
    related_typeCorrect (by decide) (by decide), by decide,
    fun h => absurd h.edges_typed (by decide)⟩

/-- Every state that a run passes through has typed edges if both tenants had and the run is full,
    or only inserts and gives up at its first failure.  This is not the doing of the tenants, which
    take edges between objects of any types. -/
theorem passed_typeCorrect {s d : Tenant} (hs : s.graph.TypeCorrect) (hd : d.graph.TypeCorrect)
    {o : Options} (ho : o.insertOnly = true → o.mode = .failFast) (token : CancelToken)
    (clock : Clock) :
    (∀ v ∈ s.passed d o token clock, v.2.graph.TypeCorrect) ∧
      ∃ (g : Graph) (e : Edge), g.TypeCorrect ∧ g.insertRefusal? (.edge e) = none ∧
        ¬ (g.add (.edge e)).TypeCorrect := by
  refine ⟨fun v hv => ?_, exists_untyped_insertion⟩
  obtain ⟨-, _, _, _, ⟨n, rfl⟩, hends⟩ := passed_ends hv
  exact hends.typeCorrect rfl hs hd ho

/-- A full run turns a relation round, and its edge with it. -/
theorem turned_relation_stays_typed :
    let s := ofGraph "src" 1 (related user group)
    let d := ofGraph "dst" 1 (related group user)
    s.graph.TypeCorrect ∧ d.graph.TypeCorrect ∧
      ∀ v ∈ s.passed d {} .fresh (.frozen 0), v.2.graph.TypeCorrect := by
  have hs := related_typeCorrect (a := user) (b := group) (by decide) (by decide)
  have hd := related_typeCorrect (a := group) (b := user) (by decide) (by decide)
  exact ⟨hs, hd, (passed_typeCorrect (s := ofGraph "src" 1 _) (d := ofGraph "dst" 1 _) hs hd
    (o := {}) nofun .fresh (.frozen 0)).1⟩

end Tenant

end TenantSync
