import TenantSync.CommandLine.Shell
import TenantSync.Http.Links
import TenantSync.Progress.Reporter
import TenantSync.Sync.Engine
import TenantSync.Text.Styled

/-! # The command that synchronises

Both endpoints are put together before the network is touched; then the engine runs.  Its
progress is printed for somebody at a terminal and goes to the log for everybody else. -/

namespace TenantSync.CommandLine

/-- The saved context that a side names. -/
def savedContext? (path? : Option String) (flags : EndpointFlags) :
    ShellM (Option Store.SavedContext) := do
  match flags.context? with
  | none => return none
  | some name => do
    let store ← ShellM.openStore path?
    return some (← ShellM.onStore store (Store.requireContext name))

/-- Puts the endpoint of a side together. -/
def resolveSide (path? : Option String) (side : Side) (flags : EndpointFlags) :
    ShellM Endpoint := do
  let context? ← savedContext? path? flags
  let m := (← get).machine
  ShellM.log (Endpoint.notices side flags context? m.lookup? m)
  ShellM.ofExcept .endpoint (Endpoint.resolve side flags context? m.lookup? m)

/-- Whether two endpoints are at one address, slashes at the end left out. -/
def sameAddress (a b : Endpoint) : Bool :=
  trimRight (· = '/') a.url == trimRight (· = '/') b.url

/-- The settings of both clients. -/
def SyncArguments.resilience (a : SyncArguments) : Http.Resilience :=
  (({} : Http.Resilience).withRequestLog a.verbose |>.withPageSize a.pageSize
    |>.withMaxAttempts a.maxAttempts |>.withTimeout (a.timeout * 1000))

/-- The client of an endpoint. -/
def connect (e : Endpoint) (r : Http.Resilience) : ShellM Http.Service := do
  let service ← ShellM.ofExcept .call (Http.Service.ofAddress e.url e.credentials r)
  ShellM.log [service.announcement]
  return service

/-- Who observes the run. -/
def Shell.reporter (s : Shell) (verbose : Bool) : Reporter :=
  if s.terminal then .console ⟨verbose, s.colours⟩ else .log

/-- Runs the engine between two services. -/
def runEngine (source destination : Http.Service) (o : Options) (verbose : Bool) :
    ShellM Report := do
  let s ← get
  let run := synchronize (source.client.zoom Http.Links.source)
    (destination.client.zoom Http.Links.destination) o
  let (outcome, r) := run.run (Run.start ⟨s.network, none, none⟩ .fresh s.machine.clock)
  set { s with network := r.world.network, machine := { s.machine with clock := r.clock } }
  ((s.reporter verbose).printed r.trace).forM ShellM.print
  ShellM.log ((s.reporter verbose).logged r.trace)
  ShellM.ofExcept .sync outcome

/-- Makes the destination match the source. -/
def synchronizeTenants (path? : Option String) (a : SyncArguments) : ShellM Unit := do
  if a.noColor then modify fun s => { s with colours := false }
  let source ← resolveSide path? .source a.source
  let destination ← resolveSide path? .destination a.destination
  if sameAddress source destination then
    ShellM.log [⟨.warn, .command,
      s!"Source and destination point at the same tenant ({source.url})"⟩]
  let sourceService ← connect source a.resilience
  let destinationService ← connect destination a.resilience
  if a.options.dryRun then
    ShellM.print (paint (← get).colours [.yellow] "Dry run: no changes will be applied")
  let report ← runEngine sourceService destinationService a.options a.verbose
  ShellM.log [⟨.info, .command,
    s!"Synced {report.sourceEndpoint} -> {report.destinationEndpoint}: " ++
      s!"{report.deleted.total} deleted, {report.inserted.total} inserted"⟩]

end TenantSync.CommandLine
