import TenantSync.Proofs.Sync.Stages

/-!
# What a report counts

A phase counts the entities of a kind while it applies them, writes the count down when the kind is
done, and looks at its failures only at the end.  `Pass.Balanced` is what its books say in between:
as long as nothing failed, the kinds that are done were applied whole, and nothing of the others.

`synchronize_settled` draws the balance: a run that reports, whatever its clients answered, reports
as done all that it planned, and nothing if it was a dry run.
-/

namespace TenantSync

section
variable {σ : Type} {c : Client σ} {mode : FailureMode} {op : Operation} {changes : Graph}
  {done : List Kind} {pass after : Pass} {r : Run σ}

/-- As long as nothing failed, the books of a pass show the kinds that are done as applied whole,
    and nothing of the others. -/
def Pass.Balanced (changes : Graph) (done : List Kind) (pass : Pass) : Prop :=
  pass.failures = [] → ∀ k, pass.applied.get k = if k ∈ done then changes.counts.get k else 0

/-- While the entities of a kind are applied, no count is written down, and unless one of them
    fails, all are counted. -/
theorem applyEntities_counted {k : Kind} {total applied n : Nat} {es : List Entity}
    (hrun : ((applyEntities c mode op k total es applied pass).run r).1 = .ok (n, after)) :
    after.applied = pass.applied ∧
      (after.failures = [] → pass.failures = [] ∧ n = applied + es.length) := by
  obtain ⟨out, r', hout, h⟩ := applyEntities_applies c mode op k total es applied pass r
  rw [hout] at hrun
  clear hout
  induction h with
  | finished =>
    cases hrun
    exact ⟨rfl, fun h => ⟨h, rfl⟩⟩
  | interrupted | aborted => cases hrun
  | applied _ _ _ ih =>
    obtain ⟨hcounts, hall⟩ := ih hrun
    refine ⟨hcounts, fun h => (hall h).imp_right fun hn => ?_⟩
    rw [hn, List.length_cons]
    omega
  | failed _ _ _ _ ih =>
    -- What is collected stays collected.
    obtain ⟨hcounts, hall⟩ := ih hrun
    exact ⟨hcounts, fun h => by simpa using (hall h).1⟩

/-- Applying a kind leaves the books balanced, with that kind done. -/
theorem Pass.Balanced.applyKind {k : Kind} (h : pass.Balanced changes done)
    (hrun : ((applyKind c mode op changes k pass).run r).1 = .ok after) :
    after.Balanced changes (k :: done) := by
  intro hnone j
  by_cases hempty : changes.entities k = []
  · simp only [TenantSync.applyKind, hempty, List.isEmpty_nil, if_true, SyncM.run_pure] at hrun
    cases hrun
    have hzero : changes.counts.get k = 0 := by
      rw [← Graph.length_entities, hempty, List.length_nil]
    -- A kind without entities is as good as done.
    rw [h hnone j]
    by_cases hj : j = k <;> simp [hj, hzero]
  simp only [TenantSync.applyKind, List.isEmpty_iff, hempty, if_false] at hrun
  obtain ⟨_, _, _, hrun⟩ := SyncM.ok_of_bind hrun
  obtain ⟨⟨n, mid⟩, r', hentities, hrun⟩ := SyncM.ok_of_bind hrun
  obtain ⟨hcounts, hall⟩ := applyEntities_counted (congrArg Prod.fst hentities)
  cases hrun
  obtain ⟨hbefore, rfl⟩ := hall hnone
  by_cases hj : j = k
  · subst hj
    simp
  · simp [Counts.get_set_of_ne _ _ hj, hcounts, h hbefore j, hj]

/-- Applying several kinds leaves the books balanced, by induction on the kinds. -/
theorem Pass.Balanced.applyKinds {ks : List Kind} (h : pass.Balanced changes done)
    (hrun : ((applyKinds c mode op changes ks pass).run r).1 = .ok after) :
    after.Balanced changes (ks.reverse ++ done) := by
  induction ks generalizing done pass r with
  | nil =>
    cases hrun
    exact h
  | cons k ks ih =>
    -- The first kind succeeded and left a balanced pass for the others.
    obtain ⟨mid, r', hkind, hrun⟩ := SyncM.ok_of_bind hrun
    rw [List.reverse_cons, List.append_assoc]
    exact ih (h.applyKind (congrArg Prod.fst hkind)) hrun

/-- A set of changes that was applied without failure was applied whole. -/
theorem applyChanges_counts {applied : Counts}
    (hrun : ((applyChanges c mode op changes).run r).1 = .ok applied) :
    applied = changes.counts := by
  obtain ⟨after, r', hkinds, hrun⟩ := SyncM.ok_of_bind hrun
  by_cases hnone : after.failures = []
  · simp only [hnone, List.isEmpty_nil, if_true] at hrun
    cases hrun
    -- Nothing is applied at the start, and in the end no kind is left.
    have hstart : ({} : Pass).Balanced changes [] := fun _ k => Counts.get_empty k
    refine Counts.ext_get fun k => ?_
    rw [hstart.applyKinds (congrArg Prod.fst hkinds) hnone k, if_pos]
    simpa using op.mem_order k
  · simp only [List.isEmpty_iff, hnone, if_false] at hrun
    cases hrun

/-- A phase that succeeds has done what it planned, unless the run is a dry one. -/
theorem changePhase_counts {o : Options} {idle : String} {planned applied : Counts}
    (hrun : ((changePhase c o op idle changes).run r).1 = .ok (planned, applied)) :
    planned = changes.counts ∧ applied = if o.dryRun then {} else planned := by
  simp only [changePhase, SyncM.run_bind, SyncM.run_emit] at hrun
  -- Dry runs and phases without changes are settled by the counts alone.
  by_cases hdry : o.dryRun = true
  · simp only [hdry, if_true] at hrun ⊢
    cases hrun
    exact ⟨rfl, rfl⟩
  by_cases hempty : changes.isEmpty = true
  · simp only [hdry, hempty, Bool.false_eq_true, if_false, if_true] at hrun ⊢
    cases hrun
    exact ⟨rfl, (Graph.counts_eq_of_isEmpty hempty).symm⟩
  simp only [hdry, hempty, Bool.false_eq_true, if_false] at hrun ⊢
  obtain ⟨x, r', happlied, hrun⟩ := SyncM.ok_of_bind hrun
  have hcounts := applyChanges_counts (SyncM.ok_of_within (congrArg Prod.fst happlied))
  cases hrun
  exact ⟨rfl, hcounts⟩

end

/-! ## Reports -/

/-- A report that counts as done what it says was planned, and nothing for a dry run. -/
structure Report.Settled (report : Report) : Prop where
  deleted : report.deleted = if report.dryRun then {} else report.deletions?.getD {}
  inserted : report.inserted = if report.dryRun then {} else report.insertions

section
variable {σ : Type} {source destination : Client σ} {o : Options} {s d : Graph} {r : Run σ}
  {report : Report}

/-- The deletions reported are the planned ones, or none in a dry run. -/
theorem deletionPhase_counts {planned? : Option Counts} {deleted : Counts}
    (hrun : ((deletionPhase destination o s d).run r).1 = .ok (planned?, deleted)) :
    deleted = if o.dryRun then {} else planned?.getD {} := by
  simp only [deletionPhase] at hrun
  -- An insert-only run plans no deletions, which count as none.
  by_cases hins : o.insertOnly = true
  · simp only [hins, if_true] at hrun
    cases hrun
    exact (ite_self _).symm
  simp only [hins, Bool.false_eq_true, if_false] at hrun
  obtain ⟨⟨planned, applied⟩, r', hphase, hrun⟩ := SyncM.ok_of_bind hrun
  cases hrun
  exact (changePhase_counts (congrArg Prod.fst hphase)).2

/-- The report of a run that succeeds is settled. -/
theorem phases_settled (hrun : ((phases source destination o s d).run r).1 = .ok report) :
    report.Settled := by
  obtain ⟨⟨planned?, deleted⟩, r', hdel, hrun⟩ := SyncM.ok_of_bind hrun
  obtain ⟨⟨planned, inserted⟩, r'', hins, hrun⟩ := SyncM.ok_of_bind hrun
  cases hrun
  exact ⟨deletionPhase_counts (congrArg Prod.fst hdel),
    (changePhase_counts (congrArg Prod.fst hins)).2⟩

/-- Every report of a run, between whatever clients, counts as done what it says was planned. -/
theorem synchronize_settled
    (hrun : ((synchronize source destination o).run r).1 = .ok report) : report.Settled := by
  rw [run_synchronize_eq_conclude] at hrun
  rcases hcarried : (carriedOut source destination o).run r.tick with ⟨f | planned, r'⟩ <;>
    rw [hcarried] at hrun
  case error => cases hrun
  case ok =>
    obtain ⟨⟨s, d⟩, _, _, hphases⟩ := SyncM.ok_of_bind (congrArg Prod.fst hcarried)
    -- The last look at the clock changes no count.
    have hsettled : planned.Settled := phases_settled hphases
    simp only [run_conclude] at hrun
    cases hrun
    exact ⟨hsettled.deleted, hsettled.inserted⟩

end

end TenantSync
