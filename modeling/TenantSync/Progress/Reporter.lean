import TenantSync.Progress.Console
import TenantSync.Progress.Log
import TenantSync.Sync.Run

/-! # Reporters

A reporter is the observer of a run.  What it prints and logs is a function of the trace:
it adds its own lines where the events stand. -/

namespace TenantSync

/-- Who observes a run. -/
inductive Reporter where
  | silent
  | console (style : ConsoleStyle)
  | log

namespace Reporter

/-- The lines that a trace puts on standard output. -/
def printed (reporter : Reporter) (trace : List Item) : List String :=
  match reporter with
  | console style => (traceEvents trace).flatMap style.lines
  | _ => []

/-- The lines that a trace puts into the log. -/
def logged (reporter : Reporter) (trace : List Item) : List LogLine :=
  trace.filterMap fun
    | .line l => some l
    | .event e =>
      match reporter with
      | log => some e.logLine
      | _ => none
    | .mutation _ _ => none

end Reporter

end TenantSync
