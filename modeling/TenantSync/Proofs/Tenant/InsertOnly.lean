import TenantSync.Proofs.Tenant.Requests

/-!
# Full runs after runs that only insert

A run that only inserts adds what it can to the destination and leaves everything else there, also
the old form of what changed.  Such a run can spoil things for a full run that comes later: if it
creates an entity next to the old form of what that entity refers to, the old form is in use from
then on and can no longer be deleted.

`full_sync_after_insertions` says that nothing else can go wrong, and that it cannot happen to a
run that gives up at its first failure: such a run fails at everything that changed before it comes
to what refers to it.  `stale_type_gains_object` shows that it does happen to a run that collects
its failures.
-/

namespace TenantSync

/-! ## What was created -/

namespace Graph

variable {s d : Graph} {es : List Entity}

/-- What changed has its new form among what is to be created. -/
theorem exists_insertion_of_changes (hd : d.UniqueIds) {x : Entity} (hx : x ∈ d)
    (hc : s.changes x = true) :
    ∃ y ∈ insertions s d, y.key = x.key ∧ x.sameContent y = false := by
  obtain ⟨y, hy, hkey, hdiff⟩ := changes_iff.mp hc
  refine ⟨y, (mem_insertions_iff hd).mpr ⟨hy, ?_⟩, hkey, hdiff⟩
  by_contra hk
  obtain ⟨z, hz, hzkey, hsame⟩ := keeps_iff.mp (by simpa using hk)
  -- The destination has one entity under that key, and that is the old form.
  have hzx : z = x := eq_of_key_eq hd hz hx (hzkey.trans hkey)
  rw [hzx, Entity.sameContent_comm, hdiff] at hsame
  exact nomatch hsame

/-- If nothing got in the way of a full run before some of the missing entities were created, then
    afterwards only these can, by referring to what changed. -/
theorem unobstructed_created_iff (hs : s.WellFormed) (hd : d.UniqueIds) (hfree : Unobstructed s d)
    (hes : es ⊆ Operation.create.plan (insertions s d))
    (hleft : (d.applyAll .create es).UniqueIds) :
    Unobstructed s (d.applyAll .create es) ↔
      ∀ e ∈ es, ∀ x ∈ d, s.changes x = true → ¬ e.RefersTo x := by
  have hkept : ∀ e ∈ es, s.keeps e = true := fun e he =>
    keeps_of_mem_insertions hd ((Operation.mem_plan_iff _).mp (hes he))
  -- What was created has the form that the source wants, so it did not change.
  have hunchanged : ∀ x ∈ es, s.changes x ≠ true := by
    intro x hx hc
    have hx' := not_keeps_of_changes hs.unique_ids hc
    rw [hkept x hx] at hx'
    exact nomatch hx'
  rw [hs.unobstructed_iff hleft]
  rw [hs.unobstructed_iff hd] at hfree
  simp only [mem_applyAll_create]
  constructor
  · intro h e he x hx hc
    exact h e (.inr he) (hkept e he) x (.inl hx) hc
  · rintro h y (hy | hy) hk x (hx | hx) hc
    · exact hfree y hy hk x hx hc
    · exact absurd hc (hunchanged x hx)
    · exact h y hy x hx hc
    · exact absurd hc (hunchanged x hx)

/-- Nothing that was created before the first failure refers to anything that changed: the new form
    of what changed would have been created before it, next to the old one. -/
theorem not_refersTo_changed_of_prefix (hd : d.UniqueIds)
    (hes : es <+: Operation.create.plan (insertions s d))
    (hleft : (d.applyAll .create es).UniqueIds) {e x : Entity} (he : e ∈ es) (hx : x ∈ d)
    (hc : s.changes x = true) : ¬ e.RefersTo x := by
  intro href
  obtain ⟨y, hy, hkey, hdiff⟩ := exists_insertion_of_changes hd hx hc
  obtain ⟨later, hplan⟩ := hes
  obtain ⟨done, rest, rfl⟩ := List.append_of_mem he
  rw [List.append_assoc, List.cons_append] at hplan
  have hrank : y.kind.rank < e.kind.rank := by
    rw [(Entity.key_eq_iff.mp hkey).1]
    exact href.rank_lt
  have hdone : y ∈ done := Operation.mem_of_precedes hplan.symm hy hrank
  -- Both forms would be there under one key.
  have hyx : y = x := eq_of_key_eq hleft
    (mem_applyAll_create.mpr (.inr (List.mem_append_left _ hdone)))
    (mem_applyAll_create.mpr (.inl hx)) hkey
  rw [hyx, Entity.sameContent_refl] at hdiff
  exact nomatch hdiff

/-- With unique identifiers, what was created was not there before. -/
theorem mem_created_iff (hleft : (d.applyAll .create es).UniqueIds) {e : Entity} :
    e ∈ es ↔ e ∈ d.applyAll .create es ∧ e ∉ d := by
  rw [mem_applyAll_create]
  refine ⟨fun he => ⟨.inr he, fun hmem => ?_⟩, fun h => h.1.resolve_left h.2⟩
  -- The list of its kind would hold it twice.
  have hnodup := hleft.nodup_entities e.kind
  rw [entities_applyAll_create, List.nodup_append] at hnodup
  exact hnodup.2.2 e hmem e (List.mem_filter.mpr ⟨he, decide_eq_true rfl⟩) rfl

/-- The graph after a store was asked for a mutation. -/
def attempt (g : Graph) (m : Mutation) : Graph :=
  match g.refusal? m with
  | none => g.apply m
  | some _ => g

end Graph

/-! ## Runs that only insert -/

open Tenant (Answer)
open TenantSync.Graph

/-- Whoever gives up at the first failure has succeeded with a beginning of the plan. -/
theorem Sweep.successes_prefix {σ : Type} {stops : Prop} {mode : FailureMode}
    {R : σ → Mutation → Bool → σ → Prop} {plan : List Mutation} {w w' : σ}
    {sent : List (Mutation × Bool)} {e : Ending} (h : Sweep stops mode R plan w sent w' e)
    (hmode : mode = .failFast) : successes sent <+: plan := by
  induction h with
  | finished => exact List.nil_prefix
  | interrupted => exact List.nil_prefix
  | applied _ _ ih => exact (List.prefix_cons_inj _).mpr ih
  | aborted => exact List.nil_prefix
  | failed hcollect => exact nomatch hmode.symm.trans hcollect

/-- A sweep of creations appends some of the planned entities, and those before the first failure
    if it gives up there. -/
theorem Sweep.created {stops : Prop} {mode : FailureMode} {changes : Graph} {t t' : Tenant}
    {sent : List (Mutation × Bool)} {e : Ending}
    (h : Sweep stops mode (Answer stops) (Operation.create.mutations changes) t sent t' e) :
    ∃ es, es.Sublist (Operation.create.plan changes) ∧
      (mode = .failFast → es <+: Operation.create.plan changes) ∧
      t'.graph = t.graph.applyAll .create es := by
  obtain ⟨es, hes, hsucc⟩ := List.sublist_map_iff.mp h.successes_sublist
  refine ⟨es, hes, fun hmode => ?_, by rw [h.graph_eq, hsucc, foldl_apply_map]⟩
  have hbefore := h.successes_prefix hmode
  rw [hsucc, Operation.mutations] at hbefore
  exact (List.prefix_map_iff_of_injective fun _ _ => Mutation.create.inj).mp hbefore

/-- A run that only inserts appends some of what it planned to create, and what it planned before
    the first failure if it gives up there. -/
theorem RunEnds.created {stops readable : Prop} {source destination : String} {o : Options}
    {s g : Graph} {t t' : Tenant} {sent : List (Mutation × Bool)} {out : Except SyncFailure Report}
    (h : RunEnds stops (Answer stops) readable source destination o s g t sent t' out)
    (hg : t.graph = g) (ho : o.insertOnly = true) :
    ∃ es, es.Sublist (Operation.create.plan (insertions s g)) ∧
      (o.mode = .failFast → es <+: Operation.create.plan (insertions s g)) ∧
      t'.graph = g.applyAll .create es := by
  subst hg
  have hdelSteps : o.deletionSteps s t.graph = [] := by
    simp only [Options.deletionSteps, ho, if_true]
  have hnothing : ∃ es : List Entity,
      es.Sublist (Operation.create.plan (insertions s t.graph)) ∧
      (o.mode = .failFast → es <+: Operation.create.plan (insertions s t.graph)) ∧
      t.graph = t.graph.applyAll .create es :=
    ⟨[], List.nil_sublist _, fun _ => List.nil_prefix, rfl⟩
  cases h with
  | unread => exact hnothing
  | undeleted hdel hc =>
    -- Nothing was to be deleted, so the deletion phase cannot have failed.
    rw [hdelSteps] at hdel
    exact absurd hdel.of_nil.2.2 hc
  | uncreated hdel _ hins | done _ hdel _ hins =>
    rw [hdelSteps] at hdel
    obtain ⟨-, rfl, -⟩ := hdel.of_nil
    by_cases hdry : o.dryRun = true
    · rw [Options.insertionSteps, Options.steps, if_pos hdry] at hins
      obtain ⟨-, rfl, -⟩ := hins.of_nil
      exact hnothing
    · rw [Options.insertionSteps, Options.steps, if_neg hdry] at hins
      exact hins.created

/-- Without disturbances, a sweep that collects its failures does everything that the store accepts
    when its turn comes. -/
theorem Sweep.graph_eq_attempted {stops : Prop} {mode : FailureMode} {plan : List Mutation}
    {t t' : Tenant} {sent : List (Mutation × Bool)} {e : Ending}
    (h : Sweep stops mode (Answer stops) plan t sent t' e) (hstop : ¬ stops)
    (hmode : mode = .collectErrors) (hfailing : t.failing = []) :
    t'.graph = plan.foldl attempt t.graph := by
  -- By induction on the sweep; a step is refused exactly where attempting it does nothing.
  induction h with
  | finished => rfl
  | interrupted _ _ _ hs => exact absurd hs hstop
  | applied hstep _ ih =>
    cases hstep with
    | done _ hrule => rw [ih hfailing, List.foldl_cons, attempt, hrule]
  | aborted _ hfast => exact nomatch hmode.symm.trans hfast
  | failed _ hstep _ ih =>
    cases hstep with
    | stopped hs => exact absurd hs hstop
    | refused hcause =>
      obtain ⟨r, hr⟩ := Option.ne_none_iff_exists'.mp (hcause.resolve_left (by simp [hfailing]))
      rw [ih hfailing, List.foldl_cons, attempt, hr]

/-- Without disturbances, a run that only inserts and collects its failures creates everything that
    the store accepts when its turn comes. -/
theorem RunEnds.graph_eq_attempted {stops readable : Prop} {source destination : String}
    {o : Options} {s g : Graph} {t t' : Tenant} {sent : List (Mutation × Bool)}
    {out : Except SyncFailure Report}
    (h : RunEnds stops (Answer stops) readable source destination o s g t sent t' out)
    (hg : t.graph = g) (ho : o = { insertOnly := true, mode := .collectErrors }) (hstop : ¬ stops)
    (hread : readable) (hfailing : t.failing = []) :
    t'.graph = (Operation.create.mutations (insertions s g)).foldl attempt g := by
  subst hg ho
  cases h with
  | unread hbad => exact absurd hread (hbad.resolve_left hstop)
  | undeleted hdel hc => exact absurd hdel.of_nil.2.2 hc
  | uncreated hdel _ hins | done _ hdel _ hins =>
    obtain ⟨-, rfl, -⟩ := hdel.of_nil
    exact hins.graph_eq_attempted hstop rfl hfailing

/-- Runs keep a well-formed destination so. -/
theorem RunEnds.wellFormed {stops readable : Prop} {source destination : String} {o : Options}
    {s d : Graph} {t t' : Tenant} {sent : List (Mutation × Bool)}
    {out : Except SyncFailure Report}
    (h : RunEnds stops (Answer stops) readable source destination o s d t sent t' out)
    (ht : t.graph.WellFormed) : t'.graph.WellFormed := by
  refine h.preserve (I := fun u => u.graph.WellFormed) (fun u m ok u' hstep hu => ?_) ht
  cases hstep with
  | done _ hrule => exact hu.apply hrule
  | refused => exact hu
  | stopped => exact hu

namespace Tenant

/-- A tenant with one object type of the given name and no object. -/
def withBareType (name endpoint : String) : Tenant :=
  .ofGraph endpoint 1 { objectTypes := (withType name endpoint).graph.objectTypes }

/-- A tenant made from a graph holds that graph. -/
theorem graph_ofGraph (endpoint : String) (g : Graph) : (ofGraph endpoint 1 g).graph = g := rfl

/-- A tenant made from a graph answers everything. -/
theorem ofGraph_faultless (endpoint : String) (g : Graph) : (ofGraph endpoint 1 g).Faultless :=
  ⟨Nat.one_pos, rfl, rfl⟩

/-- A tenant with a bare type answers everything. -/
theorem withBareType_faultless (name endpoint : String) :
    (withBareType name endpoint).Faultless :=
  ⟨Nat.one_pos, rfl, rfl⟩

/-- The graph of a tenant with a bare type is well-formed. -/
theorem withBareType_wellFormed (name endpoint : String) :
    (withBareType name endpoint).graph.WellFormed where
  unique_ids := by rintro (_ | _ | _ | _) <;> simp [withBareType, withType, ofGraph, entities]
  unique_names := List.pairwise_singleton ..
  unique_aliases := .nil
  closed := by
    rw [forall_mem_iff]
    simp [withBareType, withType, ofGraph, Entity.refs]

/-- With default options a full run renames the type of the destination. -/
theorem rename_isOk :
    ((withType "group" "src").sync (withBareType "team" "dst") {} .fresh (.frozen 0)).1.isOk =
      true := by
  rw [sync_isOk_iff (withType_faultless _ _) (withBareType_faultless _ _)
    (withType_wellFormed _ _).unique_ids (withBareType_wellFormed _ _).unique_ids ⟨rfl, rfl⟩,
    (withType_wellFormed _ _).unobstructed_iff (withBareType_wellFormed _ _).unique_ids,
    forall_mem_iff]
  -- There is only the type, and types refer to nothing.
  simp [withBareType, withType, ofGraph, Entity.RefersTo, Entity.refs]

/-- A full run would have succeeded between two well-formed tenants, and then a run only inserts,
    with whatever failures and whenever it is cancelled.  From what it leaves behind, a full run
    succeeds exactly if nothing that was created refers to anything that changed.  If the run gave
    up at its first failure, that is always so. -/
theorem full_sync_after_insertions {s d s₁ d₁ s₂ d₂ : Tenant} (hs : s.Faultless) (hd : d.Faultless)
    (hsg : s.graph.WellFormed) (hdg : d.graph.WellFormed) {o : Options} (ho : o.Full)
    {clock : Clock} (hok : (s.sync d o .fresh clock).1.isOk = true)
    (hs₁ : s₁.graph = s.graph) (hd₁ : d₁.graph = d.graph) (hpages : 0 < s₁.pageSize)
    (hpages' : 0 < d₁.pageSize) {o₁ : Options} (ho₁ : o₁.insertOnly = true) (token : CancelToken)
    (clock₁ : Clock) (hs₂ : s₂.Faultless) (hd₂ : d₂.Faultless)
    (hsource : s₂.graph = (s₁.sync d₁ o₁ token clock₁).2.world.1.graph)
    (hdestination : d₂.graph = (s₁.sync d₁ o₁ token clock₁).2.world.2.graph)
    {o₂ : Options} (ho₂ : o₂.Full) (clock₂ : Clock) :
    ((s₂.sync d₂ o₂ .fresh clock₂).1.isOk = true ↔
      ∀ e ∈ d₂.graph, e ∉ d.graph → ∀ x ∈ d.graph, s.graph.changes x = true → ¬ e.RefersTo x) ∧
    (o₁.mode = .failFast → (s₂.sync d₂ o₂ .fresh clock₂).1.isOk = true) := by
  have hsource : s₂.graph = s.graph := by rw [hsource, source_graph_sync hpages hpages', hs₁]
  obtain ⟨-, _, ⟨n, rfl⟩, hends⟩ := sync_ends hpages hpages' o₁ (.any token) clock₁
  -- The run left the destination well formed, with some of what was missing.
  have hleft : d₂.graph.WellFormed := by
    rw [hdestination]
    exact hends.wellFormed (hd₁ ▸ hdg)
  obtain ⟨es, hes, hbefore, hcreated⟩ := hends.created rfl ho₁
  replace hcreated : d₂.graph = d.graph.applyAll .create es := by
    rw [hdestination, hcreated, hd₁]
  have hids := hleft.unique_ids
  rw [hcreated] at hids
  rw [hs₁, hd₁] at hes hbefore
  have hfree := (sync_isOk_iff hs hd hsg.unique_ids hdg.unique_ids ho).mp hok
  have hiff : (s₂.sync d₂ o₂ .fresh clock₂).1.isOk = true ↔
      ∀ e ∈ es, ∀ x ∈ d.graph, s.graph.changes x = true → ¬ e.RefersTo x := by
    rw [sync_isOk_iff hs₂ hd₂ (hsource ▸ hsg.unique_ids) hleft.unique_ids ho₂, hsource, hcreated,
      unobstructed_created_iff hsg hdg.unique_ids hfree hes.subset hids]
  refine ⟨?_, fun hmode => hiff.mpr fun e he x hx hc =>
    not_refersTo_changed_of_prefix hdg.unique_ids (hbefore hmode) hids he hx hc⟩
  rw [hiff, hcreated]
  simp only [mem_created_iff hids, and_imp]

/-- With default options, a run that only inserts fails at the renamed type and gives up.  The full
    run that follows renames the type. -/
theorem rename_isOk_after_insertions :
    let s := withType "group" "src"
    let d := withBareType "team" "dst"
    let once := s.sync d { insertOnly := true } .fresh (.frozen 0)
    let again := (ofGraph "src" 1 once.2.world.1.graph).sync (ofGraph "dst" 1 once.2.world.2.graph)
      {} .fresh (.frozen 1)
    (s.sync d {} .fresh (.frozen 0)).1.isOk = true ∧ again.1.isOk = true := by
  refine ⟨rename_isOk, ?_⟩
  -- The bare type has no objects, so its renaming comes through, before and after.
  have h := full_sync_after_insertions (withType_faultless "group" "src")
    (withBareType_faultless "team" "dst") (withType_wellFormed _ _) (withBareType_wellFormed _ _)
    (o := {}) ⟨rfl, rfl⟩ rename_isOk rfl rfl Nat.one_pos Nat.one_pos
    (rfl : ({ insertOnly := true } : Options).insertOnly = true) .fresh (.frozen 0)
    (ofGraph_faultless "src" _) (ofGraph_faultless "dst" _) (graph_ofGraph ..) (graph_ofGraph ..)
    (⟨rfl, rfl⟩ : ({} : Options).Full) (.frozen 1)
  exact h.2 rfl

/-- Without disturbances, a run that only inserts and collects its failures creates everything that
    the store accepts when its turn comes. -/
theorem graph_sync_insertOnly {s d : Tenant} (hs : s.Faultless) (hd : d.Faultless) (clock : Clock) :
    (s.sync d { insertOnly := true, mode := .collectErrors } .fresh clock).2.world.2.graph =
      (Operation.create.mutations (insertions s.graph d.graph)).foldl attempt d.graph := by
  obtain ⟨-, _, ⟨n, rfl⟩, hends⟩ := sync_ends hs.pages hd.pages
    { insertOnly := true, mode := .collectErrors } .never clock
  exact hends.graph_eq_attempted rfl rfl id (hs.readable hd) hd.failing

/-- The type with the new name is refused, and the object is created under the old one. -/
theorem attempted_with_stale_type :
    (Operation.create.mutations (insertions (withType "group" "src").graph
      (withBareType "team" "dst").graph)).foldl attempt (withBareType "team" "dst").graph =
        (withType "team" "dst").graph := by
  decide

/-- Between a type with the new name and the same type with the old name, an object of the type
    obstructs a full run. -/
theorem stale_type_obstructs {s d : Tenant} (hs : s.Faultless) (hd : d.Faultless)
    (hsg : s.graph = (withType "group" "src").graph)
    (hdg : d.graph = (withType "team" "dst").graph) (clock : Clock) :
    ¬ (s.sync d {} .fresh clock).1.isOk = true := by
  have hs' : s.graph.WellFormed := hsg ▸ withType_wellFormed _ _
  have hd' : d.graph.WellFormed := hdg ▸ withType_wellFormed _ _
  rw [sync_isOk_iff hs hd hs'.unique_ids hd'.unique_ids ⟨rfl, rfl⟩,
    hs'.unobstructed_iff hd'.unique_ids, hsg, hdg]
  intro h
  exact h (.object ⟨numbered 10, numbered 1, none⟩) (List.mem_singleton.mpr rfl) (by decide)
    (.objectType ⟨numbered 1, "team"⟩) (List.mem_singleton.mpr rfl) (by decide) (by decide)

/-- After a run that only inserts, the object is in the way of a full run. -/
theorem not_isOk_after_insertions {s d : Tenant} (hs : s.Faultless) (hd : d.Faultless)
    (hsg : s.graph = (withType "group" "src").graph)
    (hdg : d.graph = (withBareType "team" "dst").graph) (clock clock' : Clock) :
    let once := s.sync d { insertOnly := true, mode := .collectErrors } .fresh clock
    ¬ ((ofGraph "src" 1 once.2.world.1.graph).sync (ofGraph "dst" 1 once.2.world.2.graph)
        {} .fresh clock').1.isOk = true := by
  refine stale_type_obstructs (ofGraph_faultless _ _) (ofGraph_faultless _ _) ?_ ?_ clock'
  · rw [graph_ofGraph, source_graph_sync hs.pages hd.pages, hsg]
  · rw [graph_ofGraph, graph_sync_insertOnly hs hd, hsg, hdg, attempted_with_stale_type]

/-- The type was renamed in the source, and the destination has no object of it.  A full run would
    succeed, but not after a run that only inserts and goes on when it fails to create the type
    anew: it creates the object under the old type, which then cannot be deleted. -/
theorem stale_type_gains_object :
    let s := withType "group" "src"
    let d := withBareType "team" "dst"
    let once := s.sync d { insertOnly := true, mode := .collectErrors } .fresh (.frozen 0)
    let again := (ofGraph "src" 1 once.2.world.1.graph).sync (ofGraph "dst" 1 once.2.world.2.graph)
      {} .fresh (.frozen 1)
    s.graph.WellFormed ∧ d.graph.WellFormed ∧ (s.sync d {} .fresh (.frozen 0)).1.isOk = true ∧
      ¬ again.1.isOk = true :=
  ⟨withType_wellFormed _ _, withBareType_wellFormed _ _, rename_isOk,
    not_isOk_after_insertions (withType_faultless _ _) (withBareType_faultless _ _) rfl rfl _ _⟩

end Tenant

end TenantSync
