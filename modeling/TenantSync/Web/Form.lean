import TenantSync.Web.Percent

/-! # Form fields

Fields of a form or a query are written as `name=value`, joined by ampersands.  Letters,
digits and the four marks `*-._` stand for themselves, a blank is written as a plus sign
and everything else is percent-encoded. -/

namespace TenantSync.Form

/-- Whether a character stands for itself. -/
def isPlain (c : Char) : Bool := c.isAlphanum || "*-._".toList.contains c

/-- A name or a value in its written form. -/
def encodePart (cs : List Char) : List Char :=
  cs.flatMap fun c =>
    if isPlain c then [c] else if c = ' ' then ['+'] else Percent.encodeChar c

/-- Fields in their written form. -/
def encodeChars : List (String × String) → List Char
  | [] => []
  | [(k, v)] => encodePart k.toList ++ '=' :: encodePart v.toList
  | (k, v) :: f :: rest =>
    encodePart k.toList ++ '=' :: encodePart v.toList ++ '&' :: encodeChars (f :: rest)

/-- The text of fields. -/
def encode (fields : List (String × String)) : String := String.ofList (encodeChars fields)

end TenantSync.Form
