/-! # Paths

A path is a text in which slashes separate names.  `Path.join` and `Path.parent?` work on
the text alone; `Path.normalize` follows the names `.` and `..` without looking at any
file. -/

namespace TenantSync.Path

/-- Whether a path starts at the root. -/
def isAbsolute (p : String) : Bool := p.toList.head? == some '/'

/-- The names between the slashes of a path; that of an absolute one starts with no name. -/
def names (p : String) : List String := (p.toList.splitOn '/').map String.ofList

/-- A path below another one, unless it is absolute itself. -/
def join (a b : String) : String :=
  if isAbsolute b then b
  else if a.isEmpty then b
  else if a.toList.getLast? = some '/' then a ++ b
  else s!"{a}/{b}"

/-- Whether a name inside a path leads nowhere else. -/
def isIdle (name : String) : Bool := name == "" || name == "."

/-- Names without the ones at the end that lead nowhere else. -/
def withoutIdleEnd (ns : List String) : List String :=
  (ns.reverse.dropWhile isIdle).reverse

/-- The path without its last name. -/
def parent? (p : String) : Option String :=
  match names p with
  | [] => none
  | first :: rest =>
    let below := withoutIdleEnd rest
    if below.isEmpty then
      if first.isEmpty then none else some ""
    else
      let above := withoutIdleEnd below.dropLast
      if above.isEmpty ∧ first.isEmpty then some "/"
      else some ("/".intercalate (first :: above))

/-- One more name behind names that were followed: none and `.` stay, `..` goes back. -/
def follow (at' : List String) (name : String) : List String :=
  if isIdle name then at' else if name == ".." then at'.dropLast else at' ++ [name]

/-- The names that an absolute path leads through, with `.` and `..` followed. -/
def normalize (p : String) : List String := (names p).foldl follow []

end TenantSync.Path
