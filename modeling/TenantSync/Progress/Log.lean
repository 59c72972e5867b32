import TenantSync.Session.Log
import TenantSync.Sync.Event
import TenantSync.Text.Fixed

/-! # Progress in the log -/

namespace TenantSync

/-- An event as a line of the log. -/
def Event.logLine (e : Event) : LogLine :=
  let line (level : Level) (text : String) : LogLine := ⟨level, .progress, text⟩
  match e with
  | .phaseStarted phase endpoint => line .info s!"{phase.title} {endpoint}"
  | .kindFetched k count => line .info s!"Fetched {count} {k.plural}"
  | .changesComputed phase changes => line .info s!"Computed {phase.noun}: {changes}"
  | .phaseSkipped phase reason => line .info s!"Skipped {phase.noun} ({reason})"
  | .kindStarted phase k total => line .info s!"{phase.verb} {total} {k.plural}"
  | .entityApplied phase k label => line .debug s!"{phase.pastTense} {k.singular} {label}"
  | .entityFailed phase k label fault =>
    line .warn s!"{phase.noun} of {k.singular} {label} failed: {fault.text}"
  | .kindFinished phase k applied total =>
    line .info s!"{phase.pastTense} {applied}/{total} {k.plural}"
  | .finished r =>
    let only := if r.insertOnly then " (insert-only)" else ""
    let dry := if r.dryRun then " (dry run)" else ""
    line .info <|
      s!"Sync finished in {secondsText r.elapsed}s: source [{r.source}], destination before " ++
        s!"[{r.destination}], deleted {r.deleted.total}, inserted {r.inserted.total}{only}{dry}"

end TenantSync
