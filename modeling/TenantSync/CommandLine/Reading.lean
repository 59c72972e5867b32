import TenantSync.CommandLine.Grammar

/-! # Reading command lines

`Grammar.read` goes through the words of a command line from the left.  The value of an
option or of a positional argument is not judged where it stands but when the next
argument is understood, or at the end; so a word that is not understood counts before a
bad value that stands right in front of it.  Behind `--` all words are positional. -/

namespace TenantSync.CommandLine

/-- An argument whose value was not judged yet. -/
structure Pending where
  name : String
  rule : ValueRule
  /-- The value, unless it is still to come. -/
  value? : Option String
  deriving DecidableEq, Repr

/-- What was read of the words for one grammar. -/
structure Level where
  found : Found := []
  pending? : Option Pending := none
  /-- Whether `--` was read. -/
  onlyPositionals : Bool := false
  /-- The number of positional arguments. -/
  placed : Nat := 0
  deriving DecidableEq, Repr, Inhabited

namespace Level

/-- Whether the next word is the value of an option. -/
def awaitsValue (l : Level) : Bool :=
  match l.pending? with
  | some p => p.value?.isNone
  | none => false

/-- Notes an argument with its value.  No argument is given twice. -/
def add (l : Level) (name : String) (rule : ValueRule) (value : String) :
    Except UsageFault Level := do
  if l.found.has name then throw .repeated
  rule.check value
  return { l with found := l.found ++ [(name, value)] }

/-- Judges the argument whose value was not judged yet. -/
def settle (l : Level) : Except UsageFault Level :=
  match l.pending? with
  | none => .ok l
  | some p =>
    match p.value? with
    | none => .error .missingValue
    | some value => { l with pending? := none }.add p.name p.rule value

/-- Reads a switch. -/
def turnOn (l : Level) (s : Switch) : Except UsageFault Level := do
  let l ← l.settle
  match s.effect with
  | .help => throw .helpWanted
  | .version => throw (.versionWanted [])
  | .flag => l.add s.name .text ""

/-- Reads an option with its value, which may be still to come. -/
def setOption (l : Level) (o : ValueOption) (value? : Option String) :
    Except UsageFault Level := do
  let l ← l.settle
  match value? with
  | some value => l.add o.name o.rule value
  | none => return { l with pending? := some ⟨o.name, o.rule, none⟩ }

end Level

/-- A word of a command line by its form. -/
inductive Word where
  /-- The word `--`. -/
  | separator
  | long (name : String) (value? : Option String)
  | letters (cs : List Char)
  | plain (text : String)
  deriving DecidableEq, Repr

/-- The form of a word. -/
def Word.ofText (text : String) : Word :=
  match text.toList with
  | ['-', '-'] => separator
  | '-' :: '-' :: cs =>
    let name := cs.takeWhile (· ≠ '=')
    match cs.drop name.length with
    | [] => long (String.ofList name) none
    | _ :: value => long (String.ofList name) (some (String.ofList value))
  | '-' :: c :: cs => letters (c :: cs)
  | _ => plain text

namespace Grammar

variable {α : Type} (g : Grammar α)

/-- Why a word that has no place is refused. -/
def refusal (l : Level) (word : String) : UsageFault :=
  if l.onlyPositionals && g.chooses word then .unknownArgument
  else if g.isGroup then .unknownCommand
  else .unknownArgument

/-- Reads a positional argument. -/
def place (l : Level) (word : String) : Except UsageFault Level :=
  match g.positionals[l.placed]? with
  | none => .error (g.refusal l word)
  | some p => do
    let l ← l.settle
    return { l with pending? := some ⟨p.name, .text, some word⟩, placed := l.placed + 1 }

/-- Reads an option by its name. -/
def readLong (l : Level) (name : String) (value? : Option String) : Except UsageFault Level :=
  match g.options.find? (·.name == name), g.switches.find? (·.name == name), value? with
  | some o, _, value? => l.setOption o value?
  | none, some s, none => l.turnOn s
  | none, some _, some _ => .error .unneededValue
  | none, none, _ => .error .unknownArgument

/-- Reads switches by their letters. -/
def readLetters : Level → List Char → Except UsageFault Level
  | l, [] => .ok l
  | l, c :: cs =>
    match g.switches.find? (·.letter? == some c) with
    | some s => do readLetters (← l.turnOn s) cs
    | none => .error .unknownArgument

/-- Reads a word that chooses no member. -/
def readWord (l : Level) (word : String) : Except UsageFault Level :=
  if l.onlyPositionals then g.place l word
  else
    match Word.ofText word with
    | .separator => .ok { l with onlyPositionals := true }
    | .long name value? => g.readLong l name value?
    | .letters cs => g.readLetters l cs
    | .plain text =>
      match l.pending? with
      | some ⟨name, rule, none⟩ => .ok { l with pending? := some ⟨name, rule, some text⟩ }
      | _ => g.place l text

/-- What asking for help about a path of members leads to. -/
def helpAbout : Grammar α → List String → UsageFault
  | _, [] => .helpWanted
  | g, word :: words =>
    match g.member? word with
    | some inner => helpAbout inner words
    | none =>
      if g.isGroup && word == helpName && words.isEmpty then .helpWanted else .unknownCommand

/-- Judges what is left at the end of the words. -/
def close (l : Level) : Except UsageFault Found := do
  let l ← l.settle
  if g.required.all l.found.has then return l.found else throw .missingArgument

/-- Reads words.  Returns what the command builds and what was found at every level, the
    outermost first. -/
def read (g : Grammar α) (l : Level) : List String → Except UsageFault (α × List Found)
  | [] => do
    let found ← g.close l
    match g with
    | group _ _ => throw (if found.isEmpty then .nothingGiven else .noCommand)
    | command _ _ _ build => return (build found, [found])
  | word :: words =>
    if !l.onlyPositionals && !l.awaitsValue && g.chooses word then
      match g.member? word with
      | none => .error (g.helpAbout words)
      | some inner => do
        let (a, levels) ← (read inner {} words).mapError (UsageFault.inside word)
        return (a, (← g.close l) :: levels)
    else do read g (← g.readWord l word) words

end Grammar

end TenantSync.CommandLine
