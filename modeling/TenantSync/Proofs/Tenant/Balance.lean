import TenantSync.Proofs.Graph.Upkeep
import TenantSync.Proofs.Sync.Applied
import TenantSync.Proofs.Sync.Balance
import TenantSync.Proofs.Tenant.Narration

/-!
# Events, report and store agree

A run between in-memory tenants leaves three accounts of what it did: the events it told, the
counts of its report, and the graph in the store.  They agree however the run ends.  The events of
applied entities, done to the destination in their order, make the graph that is left
(`RunEnds.graph_eq`), so each kind has lost and gained as many entities as were told; and a
report says what was there, what was planned, and what was told (`Report.Faithful`).
-/

namespace TenantSync

open TenantSync.Graph

/-- The graph after a run is the old one with the mutations applied that succeeded. -/
theorem RunEnds.graph_eq {stops readable : Prop} {source destination : String} {o : Options}
    {s d : Graph} {t t' : Tenant} {sent : List (Mutation × Bool)} {out : Except SyncFailure Report}
    (h : RunEnds stops (Tenant.Answer stops) readable source destination o s d t sent t' out) :
    t'.graph = (successes sent).foldl Graph.apply t.graph := by
  cases h with
  | unread => rfl
  | undeleted hdel => exact hdel.graph_eq
  | uncreated hdel _ hins | done _ hdel _ hins =>
    rw [successes_append, List.foldl_append, hins.graph_eq, hdel.graph_eq]

/-- A run that reports says what it read and what it planned. -/
theorem RunEnds.report {σ : Type} {stops readable : Prop} {R : σ → Mutation → Bool → σ → Prop}
    {source destination : String} {o : Options} {s d : Graph} {w w' : σ}
    {sent : List (Mutation × Bool)} {report : Report}
    (h : RunEnds stops R readable source destination o s d w sent w' (.ok report)) :
    report.source = s.counts ∧ report.destination = d.counts ∧
      report.deletions? = (if o.insertOnly then none else some (deletions s d).counts) ∧
      report.insertions = (insertions s d).counts ∧ report.dryRun = o.dryRun := by
  generalize hout : Except.ok report = out at h
  cases h with
  | unread | undeleted | uncreated => exact nomatch hout
  | done =>
    cases hout
    exact ⟨rfl, rfl, rfl, rfl, rfl⟩

/-! ## Plans, counted -/

section
variable {o : Options} {s d : Graph} {k : Kind}

/-- A plan holds as many entities of a kind as the changes count. -/
theorem length_filter_plan (o : Options) (op : Operation) (changes : Graph) (k : Kind) :
    ((o.plan op changes).filter fun x => x.kind = k).length =
      (if o.dryRun then {} else changes.counts : Counts).get k := by
  rw [Options.plan]
  split
  · rw [Counts.get_empty, List.filter_nil, List.length_nil]
  · rw [op.filter_plan, length_entities]

/-- The plan of the deletions holds as many of a kind as they count, and none in a dry run. -/
theorem length_filter_deletionPlan (o : Options) (s d : Graph) (k : Kind) :
    ((o.deletionPlan s d).filter fun x => x.kind = k).length =
      (if o.dryRun then {}
        else (if o.insertOnly then none else some (deletions s d).counts : Option Counts).getD {} :
          Counts).get k := by
  rw [Options.deletionPlan]
  split
  · rw [Option.getD_none, ite_self, Counts.get_empty, List.filter_nil, List.length_nil]
  · exact length_filter_plan o .delete _ k

/-- A run deletes nothing beyond the deletions of a full run. -/
theorem deletionPlan_sublist (o : Options) (s d : Graph) :
    (o.deletionPlan s d).Sublist (Operation.delete.plan (deletions s d)) := by
  rw [Options.deletionPlan, Options.plan]
  split
  · exact List.nil_sublist _
  · split
    · exact List.nil_sublist _
    · exact List.Sublist.refl _

/-- Whatever part of the two plans is carried out, the graph loses as many entities of a kind as
    are deleted, and gains as many as are created. -/
theorem length_entities_carried (hs : s.UniqueIds) (hd : d.UniqueIds) {deleted created : List Entity}
    (hdeleted : deleted.Sublist (o.deletionPlan s d)) :
    (((d.applyAll .delete deleted).applyAll .create created).entities k).length +
        (deleted.filter fun x => x.kind = k).length =
      (d.entities k).length + (created.filter fun x => x.kind = k).length := by
  have hplanned := hdeleted.trans (deletionPlan_sublist o s d)
  have hlen := hd.length_entities_applyAll_delete
    (fun x hx => ((mem_deletions_iff hs).mp
      ((Operation.delete.mem_plan_iff).mp (hplanned.subset hx))).1)
    ((Operation.delete.nodup_keys_plan (hd.diff hs)).sublist (hplanned.map _)) k
  rw [entities_applyAll_create, List.length_append]
  omega

end

/-! ## Reports -/

/-- A run that succeeds has a report. -/
theorem exists_report_of_isOk {out : Except SyncFailure Report} (hok : out.isOk = true) :
    ∃ report, out = .ok report := by
  cases out with
  | error f => exact nomatch hok
  | ok report => exact ⟨report, rfl⟩

/-- A report on a run between two graphs that says what they held, what was planned, and what was
    done and told: all that was planned, or nothing in a dry run. -/
structure Report.Faithful (report : Report) (o : Options) (s d : Graph) (events : List Event) :
    Prop where
  source : report.source = s.counts
  destination : report.destination = d.counts
  deletions : report.deletions? = if o.insertOnly then none else some (Graph.deletions s d).counts
  insertions : report.insertions = (Graph.insertions s d).counts
  real : o.dryRun = false →
    report.deleted = report.deletions?.getD {} ∧ report.inserted = report.insertions
  dry : o.dryRun = true → report.deleted = {} ∧ report.inserted = {}
  told : ∀ k, report.deleted.get k = appliedCount .delete k events ∧
    report.inserted.get k = appliedCount .create k events

namespace Tenant

variable {s d : Tenant}

/-- What a run tells, together with the mutations that it sent and what it returned. -/
theorem sync_tells (s d : Tenant) (o : Options) (token : CancelToken) (clock : Clock) :
    let run := s.sync d o token clock
    Story (s.site token) (d.site token) o (run.2.token.cancelled = true) run.2.events
      run.2.mutations run.1 := by
  intro run
  have htoken : token.FreshUnless (token ≠ .fresh) := not_not.mp
  obtain ⟨events, sent, hevents, hsent, hstory⟩ := synchronize_story (source_serves s d).lists
    (destination_serves s d).lists o (r := Run.start (s, d) token clock) ⟨.refl s, .refl d⟩ htoken
  obtain rfl : run.2.events = events := hevents
  obtain rfl : run.2.mutations = sent := hsent
  exact hstory

/-- However a run between two tenants ends, what it said it applied, done to the destination in
    that order, makes the graph that is left there.  Of each kind the destination has lost and
    gained as many entities as were told, and the report, if there is one, is faithful. -/
theorem sync_balances (hs : s.graph.UniqueIds) (hd : d.graph.UniqueIds) (o : Options)
    (token : CancelToken) (clock : Clock) :
    let run := s.sync d o token clock
    (∃ deleted created : List Entity,
      deleted.Sublist (o.deletionPlan s.graph d.graph) ∧
      created.Sublist (o.plan .create (insertions s.graph d.graph)) ∧
      run.2.events.filter Event.isApplied =
        deleted.map Operation.delete.told ++ created.map Operation.create.told ∧
      run.2.world.2.graph = (d.graph.applyAll .delete deleted).applyAll .create created) ∧
    (∀ k, run.2.world.2.graph.counts.get k + appliedCount .delete k run.2.events =
      d.graph.counts.get k + appliedCount .create k run.2.events) ∧
    ∀ report, run.1 = .ok report → report.Faithful o s.graph d.graph run.2.events := by
  intro run
  obtain ⟨-, _, ⟨n, rfl⟩, hends⟩ := sync_ends_readable s d o (.any token) clock
  obtain ⟨deleted, created, hdeleted, hcreated, htold, hdone, hwhole⟩ :=
    (sync_tells s d o token clock).exists_applied
  -- The store applied the mutations that succeeded, and those are the entities that were told.
  have hgraph : run.2.world.2.graph =
      (d.graph.applyAll .delete deleted).applyAll .create created := by
    refine hends.graph_eq.trans ?_
    rw [hdone, List.foldl_append, foldl_apply_map, foldl_apply_map]
  have hcount (op : Operation) (k : Kind) : appliedCount op k run.2.events =
      match op with
      | .delete => (deleted.filter fun x => x.kind = k).length
      | .create => (created.filter fun x => x.kind = k).length := by
    rw [← appliedCount_filter, htold, appliedCount, List.countP_append, ← appliedCount,
      ← appliedCount, appliedCount_map_told, appliedCount_map_told]
    cases op <;> simp
  refine ⟨⟨deleted, created, hdeleted, hcreated, htold, hgraph⟩, fun k => ?_, fun report hok => ?_⟩
  · rw [hcount, hcount, hgraph, ← length_entities, ← length_entities]
    exact length_entities_carried hs hd hdeleted
  have hsettled : report.Settled := synchronize_settled hok
  obtain ⟨rfl, rfl⟩ := hwhole (congrArg Except.isOk hok)
  rw [show (s.sync d o token clock).1 = .ok report from hok] at hends
  obtain ⟨hsource, hdestination, hdeletions, hinsertions, hdry⟩ := hends.report
  have hdel := hsettled.deleted
  have hins := hsettled.inserted
  rw [hdry] at hdel hins
  refine ⟨hsource, hdestination, hdeletions, hinsertions, fun h => ?_, fun h => ?_, fun k => ?_⟩
  · simp only [h, Bool.false_eq_true, if_false] at hdel hins
    exact ⟨hdel, hins⟩
  · simp only [h, if_true] at hdel hins
    exact ⟨hdel, hins⟩
  · -- All that was planned was told, and it is counted as it was planned.
    rw [hcount, hcount, length_filter_deletionPlan, length_filter_plan, hdel, hins, hdeletions,
      hinsertions]
    exact ⟨rfl, rfl⟩

/-- Two deletions and two creations, of a type and of an object each, were told and are counted. -/
theorem renewal_balances :
    let run := renewed.sync outdated {} .fresh (.frozen 0)
    (∀ k, run.2.world.2.graph.counts.get k + appliedCount .delete k run.2.events =
      outdated.graph.counts.get k + appliedCount .create k run.2.events) ∧
    ∃ report, run.1 = .ok report ∧
      report.Faithful {} renewed.graph outdated.graph run.2.events ∧
      report.deleted = { objectTypes := 1, objects := 1 } ∧
      report.inserted = { objectTypes := 1, objects := 1 } := by
  have h := sync_balances renewed_wellFormed.unique_ids outdated_wellFormed.unique_ids {} .fresh
    (.frozen 0)
  obtain ⟨report, hok⟩ := exists_report_of_isOk renewal_isOk
  -- The run is not to be looked into.
  generalize renewed.sync outdated {} .fresh (.frozen 0) = run at h hok ⊢
  have hfaithful := h.2.2 report hok
  obtain ⟨hdeleted, hinserted⟩ := hfaithful.real rfl
  rw [hfaithful.deletions] at hdeleted
  rw [hfaithful.insertions] at hinserted
  exact ⟨h.2.1, report, hok, hfaithful, hdeleted.trans (by decide), hinserted.trans (by decide)⟩

end Tenant

end TenantSync
