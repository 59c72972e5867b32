import TenantSync.Secret.Scheme

/-! # Locations of secrets

A `Location` says where a secret is, not what it is.  What a user types is taken as a
location if it starts with a known marker and else as the secret itself. -/

namespace TenantSync.Secret

/-- Where a secret is.  The empty location is that of no secret. -/
structure Location where
  text : String
  deriving DecidableEq, Repr, Inhabited

namespace Scheme

/-- What stands behind the marker of a location, if it has this one. -/
def value? (s : Scheme) (location : String) : Option String :=
  if s.marker.toList.isPrefixOf location.toList then
    some (String.ofList (location.toList.drop s.marker.length))
  else none

/-- The scheme of a location. -/
def of? (location : String) : Option Scheme := all.find? fun s => (s.value? location).isSome

end Scheme

namespace Location

/-- The location of a secret that is given as it is. -/
def ofLiteral (secret : String) : Location := ⟨Scheme.devLiteral.marker ++ secret⟩

/-- The location that a user means. -/
def ofUserInput (text : String) : Location :=
  if text.isEmpty || (Scheme.of? text).isSome then ⟨text⟩ else ofLiteral text

/-- Whether a location is that of no secret. -/
def isEmpty (l : Location) : Bool := l.text.isEmpty

/-- A location as messages show it: one star for every byte. -/
def masked (l : Location) : String := String.ofList (List.replicate l.text.utf8ByteSize '*')

end Location

end TenantSync.Secret
