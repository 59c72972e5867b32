import TenantSync.Proofs.Graph.Between
import TenantSync.Proofs.Sync.Outcome
import TenantSync.Proofs.Tenant.Answer
import TenantSync.Proofs.Tenant.Listing

/-!
# Runs between in-memory tenants

`Tenant.sync` runs a synchronisation from one tenant to another.  All that is said about it
follows from `sync_ends`, which joins how a run can end with what the tenants answer:

- `graph_of_sync_ok`: a full run that succeeds leaves the destination with the goal, whatever
  failures were injected and whenever somebody may have cancelled it,
- `sync_isOk_iff`: without such disturbances it succeeds exactly when nothing gets in its way,
- `between_sync`: a full run that was disturbed stays between the destination and the goal.
-/

namespace TenantSync

/-- Neither phase is left out. -/
def Options.Full (o : Options) : Prop := o.dryRun = false ∧ o.insertOnly = false

namespace Options.Full

variable {o : Options} {s d : Graph}

/-- A full run carries out all deletions. -/
theorem deletionSteps (h : o.Full) :
    o.deletionSteps s d = Operation.delete.mutations (Graph.deletions s d) := by
  simp only [Options.deletionSteps, Options.steps, h.1, h.2, Bool.false_eq_true, if_false]

/-- A full run carries out all insertions. -/
theorem insertionSteps (h : o.Full) :
    o.insertionSteps s d = Operation.create.mutations (Graph.insertions s d) := by
  simp only [Options.insertionSteps, Options.steps, h.1, Bool.false_eq_true, if_false]

end Options.Full

/-! ## Where the phases lead -/

open Tenant (Answer)
open TenantSync.Graph

/-- After all deletions, an undisturbed sweep does all creations exactly when the store accepts
    them. -/
theorem Sweep.complete_creations_iff {stops : Prop} {mode : FailureMode} {s : Graph}
    {t t' t'' : Tenant} {sent sent' : List (Mutation × Bool)} {e e' : Ending}
    (hdel : Sweep stops mode (Answer stops) (Operation.delete.mutations (deletions s t.graph)) t
      sent t' e)
    (hc : Complete sent e)
    (hins : Sweep stops mode (Answer stops) (Operation.create.mutations (insertions s t.graph)) t'
      sent' t'' e')
    (hstop : ¬ stops) (hfailing : t.failing = []) :
    Complete sent' e' ↔
      (pruned s t.graph).Accepts (Operation.create.mutations (insertions s t.graph)) := by
  -- The deletions left the injected failures as they were, that is none.
  obtain ⟨g, record, ht⟩ := hdel.frame
  rw [hins.complete_iff_accepts hstop (by rw [ht]; exact hfailing), hdel.graph_eq_of_complete hc,
    pruned]

namespace RunEnds

variable {stops readable : Prop} {source destination : String} {o : Options} {s d g : Graph}
  {t t' : Tenant} {sent : List (Mutation × Bool)} {out : Except SyncFailure Report}

/-- A run touches nothing but the graph and the record. -/
theorem frame (h : RunEnds stops (Answer stops) readable source destination o s g t sent t' out) :
    ∃ g record, t' = { t with graph := g, record } :=
  h.preserve (I := fun u => ∃ g record, u = { t with graph := g, record })
    (fun _ _ _ _ hstep => hstep.frame) ⟨t.graph, t.record, rfl⟩

/-- A full run that succeeds reaches the goal. -/
theorem graph_eq_goal
    (h : RunEnds stops (Answer stops) readable source destination o s g t sent t' out)
    (hg : t.graph = g) (ho : o.Full) (hok : out.isOk = true) : t'.graph = goal s g := by
  subst hg
  -- A full run that succeeds did all deletions and then all insertions, which makes the goal.
  cases h with
  | unread | undeleted | uncreated => exact nomatch hok
  | done _ hdel hc hins hc' =>
    rw [ho.deletionSteps] at hdel
    rw [ho.insertionSteps] at hins
    rw [hins.graph_eq_of_complete hc', hdel.graph_eq_of_complete hc]
    rfl

/-- Without disturbances a full run succeeds exactly when nothing gets in its way. -/
theorem isOk_iff
    (h : RunEnds stops (Answer stops) readable source destination o s g t sent t' out)
    (hg : t.graph = g) (ho : o.Full) (hstop : ¬ stops) (hread : readable)
    (hfailing : t.failing = []) (hs : s.UniqueIds) (hd : g.UniqueIds) :
    out.isOk = true ↔ Unobstructed s g := by
  subst hg
  rw [unobstructed_iff hs hd]
  cases h with
  | unread hbad => exact absurd hread (hbad.resolve_left hstop)
  | undeleted hdel hc =>
    -- An undisturbed sweep that is not complete was refused something.
    rw [ho.deletionSteps] at hdel
    rw [hdel.complete_iff_accepts hstop hfailing] at hc
    exact ⟨nofun, fun hacc => absurd hacc.1 hc⟩
  | uncreated hdel hc hins hc' =>
    rw [ho.deletionSteps] at hdel
    rw [ho.insertionSteps] at hins
    rw [hdel.complete_creations_iff hc hins hstop hfailing] at hc'
    exact ⟨nofun, fun hacc => absurd hacc.2 hc'⟩
  | done _ hdel hc hins hc' =>
    rw [ho.deletionSteps] at hdel
    rw [ho.insertionSteps] at hins
    rw [hdel.complete_creations_iff hc hins hstop hfailing] at hc'
    exact ⟨fun _ => ⟨hdel.accepts_of_complete hc, hc'⟩, fun _ => rfl⟩

/-- A full run stays between where destination and goal are, however it ends. -/
theorem between
    (h : RunEnds stops (Answer stops) readable source destination o s g t sent t' out)
    (hg : t.graph = g) (ho : o.Full) (hs : s.UniqueIds) (hd : d.UniqueIds) (hb : Between s d g) :
    Between s d t'.graph := by
  subst hg
  cases h with
  | unread => exact hb
  | undeleted hdel =>
    -- The plan was made for the graph at hand, and some part of it was done.
    rw [ho.deletionSteps] at hdel
    obtain ⟨es, hes, hg⟩ := hdel.graph_eq_applyAll
    rw [hg]
    exact hb.deleted hs hes
  | uncreated hdel hc hins | done _ hdel hc hins =>
    -- All deletions were done, and some part of the creations.
    rw [ho.deletionSteps] at hdel
    rw [ho.insertionSteps] at hins
    obtain ⟨es, hes, hg⟩ := hins.graph_eq_applyAll
    rw [hg, hdel.graph_eq_of_complete hc]
    exact hb.created hs hd hes

end RunEnds

/-! ## Runs -/

namespace Tenant

/-- A synchronisation from one tenant to another. -/
def sync (s d : Tenant) (o : Options) (token : CancelToken) (clock : Clock) :
    Except SyncFailure Report × Run (Tenant × Tenant) :=
  (synchronize ((client s.endpoint).zoom .first) ((client d.endpoint).zoom .second) o).run
    (Run.start (s, d) token clock)

/-- A tenant whose calls all follow the rules: none was told to fail, and its pages hold
    something. -/
structure Faultless (t : Tenant) : Prop where
  pages : 0 < t.pageSize
  failing : t.failing = []
  unlisted : t.unlisted = []

/-- Tenants that answer everything can be read. -/
theorem Faultless.readable {s d : Tenant} (hs : s.Faultless) (hd : d.Faultless) :
    (∀ k, k ∉ s.unlisted) ∧ ∀ k, k ∉ d.unlisted := by
  simp only [hs.unlisted, hd.unlisted, List.not_mem_nil, not_false_eq_true, implies_true, and_self]

/-- A tenant is unchanged from itself. -/
theorem Unchanged.refl (t : Tenant) : t.Unchanged t := ⟨t.objectPages, rfl⟩

variable {stops : Prop} {s d : Tenant} {o : Options} {token : CancelToken} {clock : Clock}

/-- Up to the pages that were counted, both tenants are as they were. -/
def BothUnchanged (s d : Tenant) (w : Tenant × Tenant) : Prop := s.Unchanged w.1 ∧ d.Unchanged w.2

/-- Reading the source counts pages and leaves the destination alone. -/
theorem source_serves (s d : Tenant) :
    s.Serves stops (BothUnchanged s d) ((client s.endpoint).zoom .first) :=
  client_serves (fun _ hw => hw.1) (fun _ _ hw hu => ⟨hu, hw.2⟩) _

/-- Reading the destination counts pages and leaves the source alone. -/
theorem destination_serves (s d : Tenant) :
    d.Serves stops (BothUnchanged s d) ((client d.endpoint).zoom .second) :=
  client_serves (fun _ hw => hw.2) (fun _ _ hw hu => ⟨hw.1, hu⟩) _

/-- Where pages hold something, reading the source fails only where it was told to. -/
theorem source_lists (hs : 0 < s.pageSize) (d : Tenant) :
    ((client s.endpoint).zoom .first).Lists stops (BothUnchanged s d) (· ∉ s.unlisted) s.graph :=
  (source_serves s d).lists_of_pages hs

/-- Where pages hold something, reading the destination fails only where it was told to. -/
theorem destination_lists (s : Tenant) (hd : 0 < d.pageSize) :
    ((client d.endpoint).zoom .second).Lists stops (BothUnchanged s d) (· ∉ d.unlisted) d.graph :=
  (destination_serves s d).lists_of_pages hd

/-- A run leaves the source as it was and ends in one of the ways of `RunEnds`. -/
theorem sync_ends_readable (s d : Tenant) (o : Options) (ht : token.FreshUnless stops)
    (clock : Clock) :
    s.Unchanged (s.sync d o token clock).2.world.1 ∧ ∃ d₀, d.Unchanged d₀ ∧
      RunEnds stops (Answer stops) ((∀ k, s.Readable k) ∧ ∀ k, d.Readable k)
        s.endpoint d.endpoint o s.graph d.graph d₀ (s.sync d o token clock).2.mutations
        (s.sync d o token clock).2.world.2 (s.sync d o token clock).1 := by
  obtain ⟨w, sent, ⟨hw₁, hw₂⟩, hsent, hends⟩ := synchronize_ends (o := o)
    (source_serves s d).lists (destination_serves s d).lists
    ((client_answers stops d.endpoint).zoom Lens.second_lawful)
    (r := Run.start (s, d) token clock) ⟨.refl s, .refl d⟩ ht
  refine ⟨?_, w.2, hw₂, ?_⟩
  · -- The destination's answers do not touch the source.
    refine hends.preserve (I := fun w => s.Unchanged w.1) ?_ hw₁
    rintro v m ok v' ⟨-, u, rfl⟩ hv
    exact hv
  · obtain rfl : (s.sync d o token clock).2.mutations = sent := hsent
    exact hends.map Prod.snd fun _ _ _ _ h => h.1

/-- Where pages hold something, a run can read both tenants unless a listing was told to fail. -/
theorem sync_ends (hs : 0 < s.pageSize) (hd : 0 < d.pageSize) (o : Options)
    (ht : token.FreshUnless stops) (clock : Clock) :
    s.Unchanged (s.sync d o token clock).2.world.1 ∧ ∃ d₀, d.Unchanged d₀ ∧
      RunEnds stops (Answer stops) ((∀ k, k ∉ s.unlisted) ∧ ∀ k, k ∉ d.unlisted)
        s.endpoint d.endpoint o s.graph d.graph d₀ (s.sync d o token clock).2.mutations
        (s.sync d o token clock).2.world.2 (s.sync d o token clock).1 := by
  have h := sync_ends_readable s d o ht clock
  simp only [readable_iff hs, readable_iff hd] at h
  exact h

/-- A run leaves the source's graph as it is. -/
theorem source_graph_sync (hs : 0 < s.pageSize) (hd : 0 < d.pageSize) :
    (s.sync d o token clock).2.world.1.graph = s.graph := by
  obtain ⟨⟨n, hn⟩, -⟩ := sync_ends hs hd o (.any token) clock
  rw [hn]

/-- A full run that succeeds reaches the goal, whatever failures were injected and whoever may have
    cancelled it. -/
theorem graph_of_sync_ok (hs : 0 < s.pageSize) (hd : 0 < d.pageSize) (ho : o.Full)
    (hok : (s.sync d o token clock).1.isOk = true) :
    (s.sync d o token clock).2.world.2.graph = Graph.goal s.graph d.graph := by
  obtain ⟨-, _, ⟨n, rfl⟩, hends⟩ := sync_ends hs hd o (.any token) clock
  exact hends.graph_eq_goal rfl ho hok

/-- A full run between tenants that follow the rules succeeds exactly when nothing gets in its
    way. -/
theorem sync_isOk_iff (hs : s.Faultless) (hd : d.Faultless) (hsg : s.graph.UniqueIds)
    (hdg : d.graph.UniqueIds) (ho : o.Full) :
    (s.sync d o .fresh clock).1.isOk = true ↔ Graph.Unobstructed s.graph d.graph := by
  obtain ⟨-, _, ⟨n, rfl⟩, hends⟩ := sync_ends hs.pages hd.pages o .never clock
  exact hends.isOk_iff rfl ho id (hs.readable hd) hd.failing hsg hdg

/-- A full run stays between where destination and goal are, however it ends. -/
theorem between_sync {g : Graph} (hs : 0 < s.pageSize) (hd : 0 < d.pageSize)
    (hsg : s.graph.UniqueIds) (hg : g.UniqueIds) (ho : o.Full)
    (hb : Graph.Between s.graph g d.graph) :
    Graph.Between s.graph g (s.sync d o token clock).2.world.2.graph := by
  obtain ⟨-, _, ⟨n, rfl⟩, hends⟩ := sync_ends hs hd o (.any token) clock
  exact hends.between rfl ho hsg hg hb

end Tenant

end TenantSync
