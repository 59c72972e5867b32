/-! # Where secrets live

A secret is stored as a location; the beginning of the location, its marker, says which
provider holds the value. -/

namespace TenantSync.Secret

/-- A kind of place that holds secrets. -/
inductive Scheme where
  | aws
  | dev
  | devLiteral
  | kubernetes
  | env
  deriving DecidableEq, Repr

namespace Scheme

/-- Every scheme, in the order in which they are tried. -/
def all : List Scheme := [aws, dev, devLiteral, kubernetes, env]

/-- What a location of the scheme starts with. -/
def marker : Scheme → String
  | aws => "aws://secrets/"
  | dev => "dev://"
  | devLiteral => "dev-literal://"
  | kubernetes => "kube://secrets/"
  | env => "env://"

instance : ToString Scheme := ⟨marker⟩

/-- The list of the schemes leaves none out. -/
theorem mem_all (s : Scheme) : s ∈ all := by cases s <;> decide

end Scheme

end TenantSync.Secret
