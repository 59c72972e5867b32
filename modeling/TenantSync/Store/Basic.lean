import TenantSync.Secret.Location

/-! # The tables of the store

The store keeps saved contexts and settings in two tables.  It is changed only by
statements, each of which takes effect as a whole.  A statement on a table that is missing
fails and changes nothing. -/

namespace TenantSync.Store

/-- A named tenant with the credentials to reach it. -/
structure SavedContext where
  name : String
  url : String
  clientId : String
  clientSecret : Secret.Location
  createdAt : Int
  updatedAt : Int
  deriving DecidableEq

/-- The two tables. -/
inductive Table where
  | contexts
  | settings
  deriving DecidableEq, Repr

/-- The name of a table. -/
def Table.name : Table → String
  | contexts => "contexts"
  | settings => "settings"

/-- Why the database refuses a statement or cannot be opened. -/
inductive DatabaseFault where
  | noTable (t : Table)
  | notDatabase
  | cannotOpen
  | unreadable
  | readOnly
  -- an address that makes no sense
  | unknownAuthority (text : String)
  | unknownAccess (text : String)
  | unknownCache (text : String)
  | unknownBackend (text : String)
  /-- More is asked for than an earlier part of the address allows. -/
  | deniedAccess (text : String)
  deriving DecidableEq, Repr

namespace DatabaseFault

/-- The number of a database fault. -/
def code : DatabaseFault → Nat
  | noTable _ | unknownAuthority _ | unknownAccess _ | unknownCache _ | unknownBackend _ => 1
  | deniedAccess _ => 3
  | readOnly => 8
  | cannotOpen => 14
  | notDatabase => 26
  | unreadable => 266

/-- What a database fault says. -/
def text : DatabaseFault → String
  | noTable t => s!"no such table: {t.name}"
  | notDatabase => "file is not a database"
  | cannotOpen => "unable to open database file"
  | unreadable => "disk I/O error"
  | readOnly => "attempt to write a readonly database"
  | unknownAuthority text => s!"invalid uri authority: {text}"
  | unknownAccess text => s!"no such access mode: {text}"
  | unknownCache text => s!"no such cache mode: {text}"
  | unknownBackend text => s!"no such vfs: {text}"
  | deniedAccess text => s!"access mode not allowed: {text}"

/-- The wording of a database fault. -/
def message (f : DatabaseFault) : String :=
  s!"error returned from database: (code: {f.code}) {f.text}"

end DatabaseFault

/-- The contents of a database: each table, if it is there. -/
structure Tables where
  contexts? : Option (List SavedContext)
  settings? : Option (List (String × String))
  deriving DecidableEq, Inhabited

namespace Tables

/-- A new database without tables. -/
def empty : Tables := ⟨none, none⟩

/-- The database without a table. -/
def drop (t : Tables) : Table → Except DatabaseFault Tables
  | .contexts =>
    if t.contexts?.isSome then .ok { t with contexts? := none } else .error (.noTable .contexts)
  | .settings =>
    if t.settings?.isSome then .ok { t with settings? := none } else .error (.noTable .settings)

end Tables

/-! ## Statements -/

/-- What can be asked of the database. -/
inductive Statement where
  | createTable (t : Table)
  | listContexts
  | getContext (name : String)
  | putContext (name url clientId : String) (clientSecret : Secret.Location) (now : Int)
  | removeContext (name : String)
  | getSetting (key : String)
  | putSetting (key value : String)
  | removeSetting (key : String)
  deriving DecidableEq

/-- The type of the answer to a statement. -/
abbrev Statement.Answer : Statement → Type
  | createTable _ => Unit
  | listContexts => List SavedContext
  | getContext _ => Option SavedContext
  | putContext .. => Unit
  | removeContext _ => Bool
  | getSetting _ => Option String
  | putSetting .. => Unit
  | removeSetting _ => Unit

/-- Whether answering a statement on tables changes a database.  Without its table a statement
    fails before it could. -/
def Statement.changes (t : Tables) : Statement → Bool
  | createTable .contexts => t.contexts?.isNone
  | createTable .settings => t.settings?.isNone
  | putContext .. | removeContext _ => t.contexts?.isSome
  | putSetting .. | removeSetting _ => t.settings?.isSome
  | listContexts | getContext _ | getSetting _ => false

/-- Contexts with one saved: a new one, or new contents of an old one, whose time of creation
    is kept. -/
def upsert (c : SavedContext) (cs : List SavedContext) : List SavedContext :=
  if cs.any (·.name == c.name) then
    cs.map fun old => if old.name = c.name then { c with createdAt := old.createdAt } else old
  else cs ++ [c]

/-- Settings with one written. -/
def assign (key value : String) (settings : List (String × String)) : List (String × String) :=
  if settings.any (·.1 == key) then
    settings.map fun s => if s.1 = key then (key, value) else s
  else settings ++ [(key, value)]

/-- Contexts in ascending order of their names. -/
def inOrder (cs : List SavedContext) : List SavedContext :=
  cs.mergeSort fun a b => !decide (b.name < a.name)

/-- Answers a statement on the table of contexts. -/
def onContexts {α : Type} (t : Tables) (f : List SavedContext → α × List SavedContext) :
    Except DatabaseFault α × Tables :=
  match t.contexts? with
  | none => (.error (.noTable .contexts), t)
  | some cs => (.ok (f cs).1, { t with contexts? := some (f cs).2 })

/-- Answers a statement on the table of settings. -/
def onSettings {α : Type} (t : Tables)
    (f : List (String × String) → α × List (String × String)) : Except DatabaseFault α × Tables :=
  match t.settings? with
  | none => (.error (.noTable .settings), t)
  | some ss => (.ok (f ss).1, { t with settings? := some (f ss).2 })

/-- Answers a statement. -/
def execute : (s : Statement) → Tables → Except DatabaseFault s.Answer × Tables
  | .createTable .contexts, t => (.ok (), { t with contexts? := some (t.contexts?.getD []) })
  | .createTable .settings, t => (.ok (), { t with settings? := some (t.settings?.getD []) })
  | .listContexts, t => onContexts t fun cs => (inOrder cs, cs)
  | .getContext name, t => onContexts t fun cs => (cs.find? (·.name == name), cs)
  | .putContext name url clientId clientSecret now, t =>
    onContexts t fun cs => ((), upsert ⟨name, url, clientId, clientSecret, now, now⟩ cs)
  | .removeContext name, t =>
    onContexts t fun cs => (cs.any (·.name == name), cs.filter (·.name ≠ name))
  | .getSetting key, t => onSettings t fun ss => ((ss.find? (·.1 == key)).map (·.2), ss)
  | .putSetting key value, t => onSettings t fun ss => ((), assign key value ss)
  | .removeSetting key, t => onSettings t fun ss => ((), ss.filter (·.1 ≠ key))

end TenantSync.Store
