import TenantSync.Pattern.Meaning
import TenantSync.Session.LogStyle

/-! # Which lines of the log are shown

A `LogFilter` has directives, each of which says down to which level the lines of the
components whose names start in a given way are shown.  Of the directives that apply, the
one with the longest name counts.  `LogFilter.parse` reads directives between commas:
`level`, `name` or `name=level`.  Behind a slash stands a pattern that must occur in a line. -/

namespace TenantSync

/-- Down to which level the lines of some components are shown. -/
structure Directive where
  /-- What the name of a component starts with; a directive without a name is for all of them. -/
  name? : Option String
  /-- The least important level, unless all lines are hidden. -/
  level? : Option Level
  deriving DecidableEq, Repr

/-- What the name of a component starts with. -/
def Directive.start (d : Directive) : String := d.name?.getD ""

/-- Which lines are shown. -/
structure LogFilter where
  directives : List Directive := []
  /-- A pattern that must occur in the text of a line. -/
  pattern? : Option Pattern := none
  deriving DecidableEq, Repr

namespace LogFilter

/-- The levels by name; `off` hides all lines. -/
def levels : List (String × Option Level) :=
  [("off", none), ("error", some .error), ("warn", some .warn), ("info", some .info),
    ("debug", some .debug), ("trace", some .trace)]

/-- The level of a name, in letters of either case. -/
def level? (name : String) : Option (Option Level) :=
  (levels.find? (·.1 == name.toLower)).map (·.2)

/-- Whether a line passes a level. -/
def passes (l : LogLine) : Option Level → Bool
  | none => false
  | some level => l.level.rank ≤ level.rank

/-- The directive that counts for a component: among those that apply the longest, and of two
    equally long ones the later. -/
def directive? (f : LogFilter) (target : String) : Option Directive :=
  (f.directives.filter fun d => d.start.toList.isPrefixOf target.toList).foldl
    (fun best d =>
      match best with
      | some b => if d.start.utf8ByteSize < b.start.utf8ByteSize then some b else some d
      | none => some d)
    none

/-- Whether a line is shown. -/
def shows (f : LogFilter) (l : LogLine) : Bool :=
  let heard := match f.directive? l.component.target with
    | some d => passes l d.level?
    | none => false
  heard && f.pattern?.all fun p => p.occursIn l.text

/-- The filter with another directive, in place of one of the same name. -/
def insert (f : LogFilter) (d : Directive) : LogFilter :=
  if f.directives.any (·.name? == d.name?) then
    { f with directives := f.directives.map fun e => if e.name? = d.name? then d else e }
  else { f with directives := f.directives ++ [d] }

/-- What is said about a part of a filter that is left out. -/
def warning (what : String) : String := s!"warning: invalid {what}, ignoring it"

/-- A part of a filter that is not understood. -/
def spec (part : String) : String := s!"logging spec '{part}'"

/-- Reads a directive, or says what is wrong with it. -/
def parseDirective (part : String) : Except String Directive :=
  match part.splitOn "=" with
  | [single] =>
    match level? single with
    | some level? => .ok ⟨none, level?⟩
    | none => .ok ⟨some single, some .trace⟩
  | [name, level] =>
    if (trim level).isEmpty then .ok ⟨some name, some .trace⟩
    else
      match level? (trim level) with
      | some level? => .ok ⟨some name, level?⟩
      | none => .error (warning (spec (trim level)))
  | _ => .error (warning (spec part))

/-- Reads the directives of a filter. -/
def parseDirectives (text : String) : LogFilter × List String :=
  let parts := ((text.splitOn ",").map trim).filter (!·.isEmpty)
  parts.foldl
    (fun (f, warnings) part =>
      match parseDirective part with
      | .ok d => (f.insert d, warnings)
      | .error w => (f, warnings ++ [w]))
    ({}, [])

/-- A filter without directives shows errors. -/
def withDefault (f : LogFilter) : LogFilter :=
  if f.directives.isEmpty then { f with directives := [⟨none, some .error⟩] } else f

/-- Reads a filter.  Returns it and what is said about the parts that are not understood. -/
def parse (text : String) : LogFilter × List String :=
  match text.splitOn "/" with
  | [directives] =>
    let (f, warnings) := parseDirectives directives
    (f.withDefault, warnings)
  | [directives, text] =>
    let (f, warnings) := parseDirectives directives
    match Pattern.ofText text with
    | .ok p => ({ f.withDefault with pattern? := some p }, warnings)
    | .error problem => (f.withDefault, warnings ++ [warning s!"regex filter - {problem}"])
  | _ => (withDefault {}, [warning (spec text ++ " (too many '/'s)")])

end LogFilter

end TenantSync
