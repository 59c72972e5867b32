import TenantSync.Http.Retry

/-! # How a client behaves under trouble -/

namespace TenantSync.Http

/-- The settings of a client. -/
structure Resilience where
  retry : RetryPolicy := {}
  /-- Write a line to the log for every request. -/
  logRequests : Bool := true
  /-- Quote the body of an error answer. -/
  errorBodies : Bool := true
  /-- How long to wait for an answer, in milliseconds. -/
  timeout : Nat := 60000
  /-- How many entities a page should hold. -/
  pageSize : Nat := 1000

namespace Resilience

/-- Limits the number of attempts; there is always one. -/
def withMaxAttempts (r : Resilience) (n : Nat) : Resilience :=
  { r with retry := { r.retry with maxAttempts := max n 1 } }

/-- Sets the page size; a page holds at least one entity. -/
def withPageSize (r : Resilience) (n : Nat) : Resilience := { r with pageSize := max n 1 }

/-- Sets how long to wait for an answer. -/
def withTimeout (r : Resilience) (milliseconds : Nat) : Resilience :=
  { r with timeout := milliseconds }

/-- Chooses whether requests are logged. -/
def withRequestLog (r : Resilience) (on : Bool) : Resilience := { r with logRequests := on }

end Resilience

end TenantSync.Http
