import TenantSync.Proofs.Tenant.Convergence

/-!
# Running again after a failure

A run that fails leaves the destination as it is at that moment; nothing is rolled back.
`AfterRuns` are the graphs that any number of full runs leave behind, whatever was injected into
them and whenever they were cancelled.  Each of these runs stays between the destination and the
goal, so if a run would have succeeded at the start, it still does afterwards and comes to the same
end (`resumed_sync_reaches_goal`).
-/

namespace TenantSync.Tenant

open TenantSync.Graph

/-- The graphs of source and destination after any number of full runs between tenants that hold
    them.  The tenants of each run may fail any listings and mutations, and the run may be cancelled
    at any moment. -/
inductive AfterRuns (source destination : Graph) : Graph → Graph → Prop where
  | refl : AfterRuns source destination source destination
  | next {s d : Tenant} (hprev : AfterRuns source destination s.graph d.graph)
      (hs : 0 < s.pageSize) (hd : 0 < d.pageSize) {o : Options} (ho : o.Full) (token : CancelToken)
      (clock : Clock) :
      AfterRuns source destination (s.sync d o token clock).2.world.1.graph
        (s.sync d o token clock).2.world.2.graph

/-- Runs leave the source as it was and stay between the destination and the goal. -/
theorem AfterRuns.between {source destination s d : Graph}
    (h : AfterRuns source destination s d) (hs : source.UniqueIds) (hd : destination.UniqueIds) :
    s = source ∧ Between source destination d := by
  induction h with
  | refl => exact ⟨rfl, .refl source hd⟩
  | next _ hsize hsize' ho token clock ih =>
    -- A run takes its bounds from the graphs at hand, and the source is still the first one.
    obtain ⟨hsource, hb⟩ := ih
    rw [source_graph_sync hsize hsize']
    refine ⟨hsource, ?_⟩
    rw [← hsource] at hb hs ⊢
    exact between_sync hsize hsize' hs hd ho hb

/-- If an undisturbed full run would have succeeded at the start, then after any number of disturbed
    ones it still does, and the destination holds the same entities in the end. -/
theorem resumed_sync_reaches_goal {s d s' d' : Tenant} (hs : s.Faultless) (hd : d.Faultless)
    (hsg : s.graph.UniqueIds) (hdg : d.graph.UniqueIds) {o : Options} (ho : o.Full) {clock : Clock}
    (hok : (s.sync d o .fresh clock).1.isOk = true)
    (hruns : AfterRuns s.graph d.graph s'.graph d'.graph) (hs' : s'.Faultless) (hd' : d'.Faultless)
    {o' : Options} (ho' : o'.Full) (clock' : Clock) :
    (s'.sync d' o' .fresh clock').1.isOk = true ∧
      ∀ k, ((s'.sync d' o' .fresh clock').2.world.2.graph.entities k).Perm
        ((s.sync d o .fresh clock).2.world.2.graph.entities k) := by
  obtain ⟨hsource, hb⟩ := hruns.between hsg hdg
  have hsg' : s'.graph.UniqueIds := hsource ▸ hsg
  -- Nothing got in the way at the start, so nothing does now.
  have hfree := (sync_isOk_iff hs hd hsg hdg ho).mp hok
  have hok' : (s'.sync d' o' .fresh clock').1.isOk = true := by
    rw [sync_isOk_iff hs' hd' hsg' hb.unique ho', hsource]
    exact hb.unobstructed hsg hdg hfree
  refine ⟨hok', fun k => ?_⟩
  -- Both runs reach their goals, and these hold the same entities.
  rw [graph_of_sync_ok hs'.pages hd'.pages ho' hok', graph_of_sync_ok hs.pages hd.pages ho hok,
    hsource]
  exact hb.goal_perm hsg hdg k

/-- What runs leave behind, in tenants that fail nothing. -/
theorem AfterRuns.ofGraph {source destination s d : Graph} (h : AfterRuns source destination s d) :
    AfterRuns source destination (Tenant.ofGraph "src" 1 s).graph
      (Tenant.ofGraph "dst" 1 d).graph :=
  h

/-- A run in which a creation failed is made good by the next one. -/
theorem resumed_after_failed_creation :
    let failing := { empty "dst" with failing := [numbered 10] }
    let out := (withType "group" "src").sync failing { mode := .collectErrors } .fresh (.frozen 0)
    let again := (ofGraph "src" 1 out.2.world.1.graph).sync (ofGraph "dst" 1 out.2.world.2.graph)
      {} .fresh (.frozen 1)
    again.1.isOk = true ∧ ∀ k, (again.2.world.2.graph.entities k).Perm
      (((withType "group" "src").sync (empty "dst") {} .fresh
        (.frozen 0)).2.world.2.graph.entities k) := by
  have hruns := AfterRuns.next (s := withType "group" "src")
    (d := { empty "dst" with failing := [numbered 10] }) .refl Nat.one_pos Nat.one_pos
    (o := { mode := .collectErrors }) ⟨rfl, rfl⟩ .fresh (.frozen 0)
  exact resumed_sync_reaches_goal (withType_faultless _ _) (empty_faultless _)
    (withType_wellFormed _ _).unique_ids (empty_wellFormed _).unique_ids ⟨rfl, rfl⟩ fill_isOk
    hruns.ofGraph ⟨Nat.one_pos, rfl, rfl⟩ ⟨Nat.one_pos, rfl, rfl⟩ ⟨rfl, rfl⟩ (.frozen 1)

end TenantSync.Tenant
