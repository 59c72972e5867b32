import TenantSync.Sync.Event
import TenantSync.Text.Fixed
import TenantSync.Text.Styled

/-! # Progress on a terminal

`consoleLines` writes an event as lines for a terminal.  The names of applied entities are
shown only on request. -/

namespace TenantSync

/-- How progress is shown on a terminal. -/
structure ConsoleStyle where
  verbose : Bool
  colours : Bool

namespace ConsoleStyle

variable (style : ConsoleStyle)

/-- A line with the number of entities of a kind. -/
def countLine (k : Kind) (count : Nat) : String :=
  s!"  {paint style.colours [.bold] (padLeft 8 (toString count))} {k.plural}"

/-- The lines for a computed set of changes: the total, and the kinds that change. -/
def changesLines (phase : Phase) (changes : Counts) : List String :=
  let headline := s!"{changes.total} {phase.noun} planned"
  if changes.total = 0 then [s!"  {paint style.colours [.green] headline}"]
  else
    s!"  {paint style.colours [.yellow] headline}" ::
      (phase.order.filter fun k => changes.get k > 0).map fun k =>
        style.countLine k (changes.get k)

/-- The closing lines of a successful run. -/
def reportLines (r : Report) : List String :=
  let bold (n : Nat) := paint style.colours [.bold] (toString n)
  let headline :=
    if r.dryRun then paint style.colours [.bold, .yellow] "Dry run complete"
    else paint style.colours [.bold, .green] "Sync complete"
  let skipped := if r.insertOnly then ["  Deletions skipped (insert-only)"] else []
  let deleted := match r.deletions? with
    | some planned => [s!"  Deleted {bold r.deleted.total} of {planned.total} planned"]
    | none => []
  ["", s!"{headline} in {secondsText r.elapsed}s", s!"  Source       {r.source}",
    s!"  Destination  {r.destination}"] ++ skipped ++ deleted ++
    [s!"  Inserted {bold r.inserted.total} of {r.insertions.total} planned"]

/-- The lines for an event. -/
def lines : Event → List String
  | .phaseStarted phase endpoint =>
    let title := paint style.colours [.bold, .cyan] phase.title
    ["", s!"{title} {paint style.colours [.dimmed] endpoint}"]
  | .kindFetched k count => [style.countLine k count]
  | .changesComputed phase changes => style.changesLines phase changes
  | .phaseSkipped phase reason =>
    let skipped := paint style.colours [.yellow] "Skipped"
    [s!"  {skipped} {phase.noun} ({reason})"]
  | .kindStarted phase k total => [s!"  {phase.verb} {total} {k.plural}"]
  | .entityApplied phase k label =>
    if style.verbose then
      [s!"    {paint style.colours [.dimmed] phase.pastTense} {k.singular} {label}"]
    else []
  | .entityFailed phase k label fault =>
    let failed := paint style.colours [.red] "Failed to"
    let verb := paint style.colours [.red] phase.verb.toLower
    [s!"    {failed} {verb} {k.singular} {label}: {fault.text}"]
  | .kindFinished phase k applied total =>
    let mark :=
      if applied = total then paint style.colours [.green] "✓"
      else paint style.colours [.red] "✗"
    [s!"  {mark} {phase.pastTense} {applied}/{total} {k.plural}"]
  | .finished r => style.reportLines r

end ConsoleStyle

end TenantSync
