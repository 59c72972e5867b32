import TenantSync.Sync.Outcome

/-! # Progress events -/

namespace TenantSync

/-- What a run tells its observer, in order. -/
inductive Event where
  | phaseStarted (phase : Phase) (endpoint : String)
  | kindFetched (k : Kind) (count : Nat)
  /-- The size of a set of changes. -/
  | changesComputed (phase : Phase) (changes : Counts)
  | phaseSkipped (phase : Phase) (reason : String)
  | kindStarted (phase : Phase) (k : Kind) (total : Nat)
  | entityApplied (phase : Phase) (k : Kind) (label : String)
  | entityFailed (phase : Phase) (k : Kind) (label : String) (fault : Fault)
  | kindFinished (phase : Phase) (k : Kind) (applied total : Nat)
  | finished (report : Report)
  deriving DecidableEq

end TenantSync
