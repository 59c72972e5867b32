/-! # The log

Every part of the program writes lines to one log.  A line knows its level and the
component that wrote it. -/

namespace TenantSync

/-- How much a line matters. -/
inductive Level where
  | error
  | warn
  | info
  | debug
  | trace
  deriving DecidableEq, Repr

namespace Level

/-- The level as it is printed. -/
def text : Level → String
  | error => "ERROR"
  | warn => "WARN"
  | info => "INFO"
  | debug => "DEBUG"
  | trace => "TRACE"

/-- The number of a level: the more a level lets through, the larger. -/
def rank : Level → Nat
  | error => 1
  | warn => 2
  | info => 3
  | debug => 4
  | trace => 5

end Level

/-- The parts of the program that write to the log. -/
inductive Component where
  | engine
  | fetch
  | apply
  | progress
  | http
  | token
  | store
  | secret
  | command
  deriving DecidableEq, Repr

/-- A line of the log. -/
structure LogLine where
  level : Level
  component : Component
  text : String
  deriving DecidableEq, Repr

/-- A line with its level in front. -/
def LogLine.full (l : LogLine) : String := s!"{l.level.text} {l.text}"

end TenantSync
