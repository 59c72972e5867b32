import TenantSync.Text.Hex

/-! # JSON documents and their text

`Json` is the document a request carries: everything the service is sent is made of
strings, switches, absent values, lists and records.  `Json.text` writes it without
blanks; inside a string the quotation mark, the backslash and the control characters are
escaped and every other character stands for itself. -/

namespace TenantSync

/-- A JSON document without numbers. -/
inductive Json where
  | null
  | bool (b : Bool)
  | string (s : String)
  | array (items : List Json)
  | object (fields : List (String × Json))
  deriving Inhabited

namespace Json

/-- A character as it is written inside a string. -/
def escape (c : Char) : List Char :=
  if c = '"' then ['\\', '"']
  else if c = '\\' then ['\\', '\\']
  else if c = '\n' then ['\\', 'n']
  else if c = '\r' then ['\\', 'r']
  else if c = '\t' then ['\\', 't']
  else if c = '\x08' then ['\\', 'b']
  else if c = '\x0c' then ['\\', 'f']
  else if c.toNat < 0x20 then ['\\', 'u', '0', '0', Hex.lower (Hex.digit (c.toNat / 16)),
    Hex.lower (Hex.digit c.toNat)]
  else [c]

/-- A string with its quotation marks. -/
def quote (s : String) : List Char := '"' :: s.toList.flatMap escape ++ ['"']

mutual

/-- The characters of a document. -/
def chars : Json → List Char
  | null => "null".toList
  | bool true => "true".toList
  | bool false => "false".toList
  | string s => quote s
  | array items => '[' :: charsList items ++ [']']
  | object fields => '{' :: charsFields fields ++ ['}']

/-- Items separated by commas. -/
def charsList : List Json → List Char
  | [] => []
  | [x] => chars x
  | x :: y :: rest => chars x ++ ',' :: charsList (y :: rest)

/-- Fields separated by commas. -/
def charsFields : List (String × Json) → List Char
  | [] => []
  | [(k, v)] => quote k ++ ':' :: chars v
  | (k, v) :: f :: rest => quote k ++ ':' :: chars v ++ ',' :: charsFields (f :: rest)

end

/-- The text of a document. -/
def text (j : Json) : String := String.ofList j.chars

/-- The value of the first field with the given name. -/
def field? (name : String) : Json → Option Json
  | object fields => (fields.find? (·.1 == name)).map (·.2)
  | _ => none

end Json

end TenantSync
