import TenantSync.Text.Hidden

/-! # Quoted text

A quoted text stands between double quotes.  A quote and a backslash are marked by a
backslash, and a character that would not be seen is written by name or by number. -/

namespace TenantSync.Quoted

/-- The digits of a number to base 16, without zeros in front. -/
def hexText (n : Nat) : String := String.ofList (Nat.toDigits 16 n)

/-- A character inside a quoted text. -/
def escape (c : Char) : String :=
  if c = '"' then "\\\""
  else if c = '\\' then "\\\\"
  else if c = '\n' then "\\n"
  else if c = '\r' then "\\r"
  else if c = '\t' then "\\t"
  else if c = '\x00' then "\\0"
  else if isHidden c then "\\u\x7b" ++ hexText c.toNat ++ "\x7d"
  else c.toString

/-- A text in quotes. -/
def quoted (s : String) : String := "\"" ++ String.join (s.toList.map escape) ++ "\""

end TenantSync.Quoted
