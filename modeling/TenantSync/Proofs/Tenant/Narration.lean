import TenantSync.Proofs.Sync.Narration
import TenantSync.Proofs.Tenant.Convergence

/-!
# What a run between two tenants tells

Whatever was injected and whenever it is cancelled, a synchronisation of in-memory tenants tells a
story about the two graphs that they hold (`sync_story`).  Reading them breaks off only at a kind
that cannot be read, or where the run may be cancelled.  The report is told exactly if the run
returns it, and then nothing comes behind it.
-/

namespace TenantSync

namespace Tenant

/-- A tenant as a run with this token meets it: a listing fails only if it cannot be read or if the
    token may be cancelled. -/
def site (t : Tenant) (token : CancelToken) : Site :=
  ⟨t.endpoint, t.graph, fun k => token ≠ .fresh ∨ ¬ t.Readable k⟩

/-- A synchronisation tells one of the stories about its tenants.  It tells of a report exactly if
    it returns that report, and that is the last it tells. -/
theorem sync_story (s d : Tenant) (o : Options) (token : CancelToken) (clock : Clock) :
    let run := s.sync d o token clock
    Story (s.site token) (d.site token) o (run.2.token.cancelled = true) run.2.events
        run.2.mutations run.1 ∧
      ∀ report, (.finished report ∈ run.2.events ↔ run.1 = .ok report) ∧
        (run.1 = .ok report → run.2.events.getLast? = some (.finished report)) := by
  intro run
  have htoken : token.FreshUnless (token ≠ .fresh) := not_not.mp
  obtain ⟨events, sent, hevents, hsent, hstory⟩ := synchronize_story (source_serves s d).lists
    (destination_serves s d).lists o (r := Run.start (s, d) token clock) ⟨.refl s, .refl d⟩ htoken
  -- A run that starts has told nothing yet and sent nothing.
  obtain rfl : run.2.events = events := hevents
  obtain rfl : run.2.mutations = sent := hsent
  refine ⟨hstory, fun report => ⟨hstory.finished_mem_iff, fun hok => ?_⟩⟩
  exact Story.getLast?_eq_of_ok (hok ▸ hstory)

/-- What is told, between the readings and the report, of a type and its object that are inserted
    into an empty tenant. -/
example :
    (((withType "group" "src").sync (empty "dst") { insertOnly := true } .fresh
        (.frozen 0)).2.events.drop 10).dropLast =
      [.phaseStarted .insert "dst",
        .changesComputed .insert { objectTypes := 1, objects := 1 },
        .kindStarted .insert .objectType 1,
        .entityApplied .insert .objectType "'group'",
        .kindFinished .insert .objectType 1 1,
        .kindStarted .insert .object 1,
        .entityApplied .insert .object "00000000-0000-0000-0000-00000000000a",
        .kindFinished .insert .object 1 1] := by
  decide +kernel

end Tenant

end TenantSync
