import TenantSync.Proofs.Sync.Announcement
import TenantSync.Proofs.Tenant.Balance

/-!
# A dry run predicts the real one

A dry run reads both tenants, compares them and stops there; a real run goes on and changes one of
them between its two phases.  Both work from what they read, so the real run announces for each
phase what the dry run announced, and if it succeeds, it asks for just the mutations that the dry
run counted (`dry_run_predicts`).
-/

namespace TenantSync

open TenantSync.Graph
open Tenant (Answer)

/-- In a sweep that is complete, the calls sent are those that succeeded. -/
theorem Complete.map_fst {sent : List (Mutation × Bool)} {e : Ending} (h : Complete sent e) :
    sent.map Prod.fst = successes sent := by
  rw [successes, List.filter_eq_self.mpr h.2]

namespace RunEnds

variable {σ : Type} {stops readable : Prop} {source destination : String} {o : Options}
  {s d : Graph} {out : Except SyncFailure Report}

/-- A dry run that can read both tenants and that nobody stops succeeds. -/
theorem isOk_of_dryRun {R : σ → Mutation → Bool → σ → Prop} {w w' : σ}
    {sent : List (Mutation × Bool)}
    (h : RunEnds stops R readable source destination o s d w sent w' out) (ho : o.dryRun = true)
    (hstop : ¬ stops) (hread : readable) : out.isOk = true := by
  -- Neither phase of a dry run has steps, so neither can end badly.
  cases h with
  | unread hbad => exact absurd hread (hbad.resolve_left hstop)
  | undeleted hdel hc =>
    rw [Options.deletionSteps, Options.steps, if_pos ho, ite_self] at hdel
    exact absurd hdel.of_nil.2.2 hc
  | uncreated _ _ hins hc' =>
    rw [Options.insertionSteps, Options.steps, if_pos ho] at hins
    exact absurd hins.of_nil.2.2 hc'
  | done => rfl

/-- A run that nobody stops and that succeeds has asked for all that it planned, once. -/
theorem record_of_isOk {t t' : Tenant} {sent : List (Mutation × Bool)}
    (h : RunEnds stops (Answer stops) readable source destination o s d t sent t' out)
    (hstop : ¬ stops) (hok : out.isOk = true) :
    t'.record =
      t.record ++ (o.deletionSteps s d ++ o.insertionSteps s d).map Mutation.entry := by
  cases h with
  | unread | undeleted | uncreated => exact nomatch hok
  | done _ hdel hc hins hc' =>
    rw [hins.record_eq hstop, hdel.record_eq hstop, ← hdel.successes_eq hc,
      ← hins.successes_eq hc', ← hc.map_fst, ← hc'.map_fst, List.append_assoc]
    simp only [List.map_append, List.map_map, Function.comp_def]

end RunEnds

namespace Tenant

/-- The identifiers of the entities of a kind for which a record shows an operation. -/
def asked (op : Operation) (k : Kind) (record : List Entry) : List Uuid :=
  (record.filter fun r => r.operation = op ∧ r.kind = k).map Entry.id

theorem asked_nil (op : Operation) (k : Kind) : asked op k [] = [] := rfl

theorem asked_append (op : Operation) (k : Kind) (record record' : List Entry) :
    asked op k (record ++ record') = asked op k record ++ asked op k record' := by
  rw [asked, List.filter_append, List.map_append, asked, asked]

/-- A set of changes asks for its entities, in order. -/
theorem asked_mutations (op op' : Operation) (k : Kind) (changes : Graph) :
    asked op k ((op'.mutations changes).map Mutation.entry) =
      if op' = op then (changes.entities k).map Entity.id else [] := by
  rw [← op'.filter_plan, Operation.mutations, asked, List.map_map, List.filter_map, List.map_map]
  split <;> simp [Function.comp_def, Operation.entry_mutation, *]

variable {s d : Tenant}

/-- Between tenants that can be read, and if nobody cancels, a dry run succeeds.  The real run
    announces, for each phase that it starts, what the dry run announced.  If the real run succeeds
    as well, then it asked of each kind for the deletions and creations that the dry run
    reports, of just the entities in which the two tenants differ. -/
theorem dry_run_predicts (hs : ∀ k, s.Readable k) (hd : ∀ k, d.Readable k) (o : Options)
    (clock clock' : Clock) :
    let dry := s.sync d { o with dryRun := true } .fresh clock
    let real := s.sync d { o with dryRun := false } .fresh clock'
    ∃ report, dry.1 = .ok report ∧
      (∀ phase, Starts phase real.2.events →
        announced phase real.2.events = announced phase dry.2.events) ∧
      (real.1.isOk = true → ∃ calls, real.2.world.2.record = d.record ++ calls ∧ ∀ k,
        asked .delete k calls =
          (if o.insertOnly then [] else ((deletions s.graph d.graph).entities k).map Entity.id) ∧
        asked .create k calls = ((insertions s.graph d.graph).entities k).map Entity.id ∧
        (asked .delete k calls).length = (report.deletions?.getD {}).get k ∧
        (asked .create k calls).length = report.insertions.get k) := by
  intro dry real
  obtain ⟨-, _, -, hdryEnds⟩ :=
    sync_ends_readable s d { o with dryRun := true } .never clock
  obtain ⟨-, _, ⟨n, rfl⟩, hrealEnds⟩ :=
    sync_ends_readable s d { o with dryRun := false } .never clock'
  obtain ⟨report, hok⟩ := exists_report_of_isOk (hdryEnds.isOk_of_dryRun rfl id ⟨hs, hd⟩)
  refine ⟨report, hok, fun phase hstart => ?_, fun hreal => ?_⟩
  · -- What is announced does not depend on whether the run is dry.
    rw [(sync_tells s d _ .fresh clock').announced_eq (.inl hstart),
      (sync_tells s d _ .fresh clock).announced_eq (.inr (congrArg Except.isOk hok))]
    cases phase <;> rfl
  · obtain ⟨-, -, hdeletions, hinsertions, -⟩ := RunEnds.report (hok ▸ hdryEnds)
    refine ⟨_, hrealEnds.record_of_isOk id hreal, fun k => ?_⟩
    simp only [Options.deletionSteps, Options.insertionSteps, Options.steps, Bool.false_eq_true,
      if_false, List.map_append, asked_append]
    rw [hdeletions, hinsertions]
    by_cases hins : o.insertOnly = true <;>
      simp [hins, asked_mutations, asked_nil, ← length_entities]

/-- Both phases are started and announced as the dry run announced them, and the real run asks for
    what was announced: the type and the user of the destination go, those of the source come. -/
theorem renewal_predicted :
    let dry := renewed.sync outdated { dryRun := true } .fresh (.frozen 0)
    let real := renewed.sync outdated {} .fresh (.frozen 0)
    (∀ phase ∈ [Phase.delete, Phase.insert],
      announced phase real.2.events = announced phase dry.2.events) ∧
    ∃ report calls, dry.1 = .ok report ∧ real.2.world.2.record = outdated.record ++ calls ∧
      asked .delete .objectType calls = [numbered 3] ∧ asked .delete .object calls = [numbered 10] ∧
      asked .create .objectType calls = [numbered 2] ∧ asked .create .object calls = [numbered 10] ∧
      ∀ k, (asked .delete k calls).length = (report.deletions?.getD {}).get k ∧
        (asked .create k calls).length = report.insertions.get k := by
  have hreadable (t : Tenant) (h : t.Faultless) (k : Kind) : t.Readable k :=
    (readable_iff h.pages k).mpr (h.unlisted ▸ List.not_mem_nil)
  have h := dry_run_predicts (hreadable _ renewed_faultless) (hreadable _ outdated_faultless) {}
    (.frozen 0) (.frozen 0)
  have hok := renewal_isOk
  have hstarts : ∀ phase ∈ [Phase.delete, Phase.insert],
      Event.phaseStarted phase "dst" ∈
        (renewed.sync outdated {} .fresh (.frozen 0)).2.events := by
    decide +kernel
  -- Otherwise neither run is to be looked into.
  dsimp only at h ⊢
  generalize renewed.sync outdated { dryRun := true } .fresh (.frozen 0) = dry at h ⊢
  generalize renewed.sync outdated {} .fresh (.frozen 0) = real at h hok hstarts ⊢
  obtain ⟨report, hdry, hannounced, hreal⟩ := h
  obtain ⟨calls, hcalls, hasked⟩ := hreal hok
  refine ⟨fun phase hphase => hannounced phase ⟨_, hstarts phase hphase⟩, report, calls, hdry,
    hcalls, ?_, ?_, ?_, ?_, fun k => (hasked k).2.2⟩
  · exact (hasked .objectType).1.trans (by decide)
  · exact (hasked .object).1.trans (by decide)
  · exact (hasked .objectType).2.1.trans (by decide)
  · exact (hasked .object).2.1.trans (by decide)

end Tenant

end TenantSync
