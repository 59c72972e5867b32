import TenantSync.Text.Numeral

/-! # Command-line grammars

A `Grammar` says which command lines there are.  A group chooses one of its members by
name; a command builds a value of type `α` from the options, switches and positional
arguments it was given.  The options of a group may stand before the name of the member.
Every grammar also has switches for help and for the version, and every group a member
`help`. -/

namespace TenantSync.CommandLine

/-- Why a command line is not carried out. -/
inductive UsageFault where
  | helpWanted
  /-- The version is wanted, of the member that the names lead to. -/
  | versionWanted (path : List String)
  /-- Nothing was given where the name of a command must be. -/
  | nothingGiven
  | noCommand
  | unknownCommand
  | unknownArgument
  | missingValue
  | unneededValue
  | repeated
  | badValue
  | missingArgument
  deriving DecidableEq, Repr

/-- The fault as seen from the group that chose a member. -/
def UsageFault.inside (member : String) : UsageFault → UsageFault
  | versionWanted path => versionWanted (member :: path)
  | f => f

/-- What the value of an option may be. -/
inductive ValueRule where
  | text
  /-- A text that is not empty. -/
  | path
  /-- A whole number up to a bound; when it is signed, zero may follow a minus sign. -/
  | number (bound : Nat) (signed : Bool)
  deriving DecidableEq, Repr

/-- The number that a text stands for. -/
def ValueRule.number? (bound : Nat) (signed : Bool) (text : String) : Option Nat :=
  match text.toList with
  | '-' :: '0' :: zeros => if signed && zeros.all (· = '0') then some 0 else none
  | _ => (Numeral.parse bound text).toOption

/-- Checks a value. -/
def ValueRule.check : ValueRule → String → Except UsageFault Unit
  | text, _ => .ok ()
  | path, value => if value.isEmpty then .error .missingValue else .ok ()
  | number bound signed, value =>
    if (number? bound signed value).isSome then .ok () else .error .badValue

/-- An option that takes a value. -/
structure ValueOption where
  name : String
  rule : ValueRule := .text
  required : Bool := false
  deriving DecidableEq, Repr

/-- What a switch brings about. -/
inductive Effect where
  | flag
  | help
  | version
  deriving DecidableEq, Repr

/-- An option that takes no value. -/
structure Switch where
  name : String
  letter? : Option Char := none
  effect : Effect := .flag
  deriving DecidableEq, Repr

/-- The switches that every command understands. -/
def commonSwitches : List Switch :=
  [⟨"help", some 'h', .help⟩, ⟨"version", some 'V', .version⟩]

/-- An argument that is known by its place. -/
structure Positional where
  name : String
  required : Bool := true
  deriving DecidableEq, Repr

/-- The arguments that were found, by name.  A switch has an empty value. -/
abbrev Found := List (String × String)

namespace Found

/-- The value of an argument that was found. -/
def value? (f : Found) (name : String) : Option String := (f.find? (·.1 == name)).map (·.2)

/-- Whether an argument was found. -/
def has (f : Found) (name : String) : Bool := f.any (·.1 == name)

end Found

/-- Which command lines there are. -/
inductive Grammar (α : Type) where
  | group (options : List ValueOption) (members : List (String × Grammar α))
  | command (options : List ValueOption) (switches : List Switch)
      (positionals : List Positional) (build : Found → α)

namespace Grammar

variable {α : Type}

/-- The options with a value. -/
def options : Grammar α → List ValueOption
  | group options _ => options
  | command options _ _ _ => options

/-- The switches. -/
def switches : Grammar α → List Switch
  | group _ _ => commonSwitches
  | command _ switches _ _ => switches ++ commonSwitches

/-- The positional arguments. -/
def positionals : Grammar α → List Positional
  | group _ _ => []
  | command _ _ positionals _ => positionals

/-- The members by name. -/
def members : Grammar α → List (String × Grammar α)
  | group _ members => members
  | command _ _ _ _ => []

/-- The member of a name. -/
def member? (g : Grammar α) (name : String) : Option (Grammar α) :=
  (g.members.find? (·.1 == name)).map (·.2)

/-- Whether a group must choose a member. -/
def isGroup : Grammar α → Bool
  | group _ _ => true
  | command _ _ _ _ => false

/-- The name of the member that shows help. -/
def helpName : String := "help"

/-- Whether a word chooses a member. -/
def chooses (g : Grammar α) (word : String) : Bool :=
  g.isGroup && (word == helpName || (g.member? word).isSome)

/-- The arguments that must be given. -/
def required (g : Grammar α) : List String :=
  (g.options.filter (·.required)).map (·.name) ++
    (g.positionals.filter (·.required)).map (·.name)

end Grammar

end TenantSync.CommandLine
