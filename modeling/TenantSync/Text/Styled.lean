/-! # Coloured text

Text for a terminal is painted by surrounding it with control sequences.  A painted text
may be painted again: the outer paint is taken up again after each reset inside. -/

namespace TenantSync

/-- A way to paint text. -/
inductive Paint where
  | bold
  | dimmed
  | red
  | green
  | yellow
  | cyan
  deriving DecidableEq, Repr

namespace Paint

/-- The number of a paint in a control sequence. -/
def code : Paint → String
  | bold => "1"
  | dimmed => "2"
  | red => "31"
  | green => "32"
  | yellow => "33"
  | cyan => "36"

/-- The sequence that ends all paint. -/
def reset : String := "\x1b[0m"

/-- The sequence that starts the given paints. -/
def start (paints : List Paint) : String :=
  s!"\x1b[{semicolon.intercalate (paints.map code)}m"
where
  semicolon := ";"

end Paint

/-- Paints a text when colours are on. -/
def paint (colours : Bool) (paints : List Paint) (text : String) : String :=
  if colours && !paints.isEmpty then
    let start := Paint.start paints
    start ++ (s!"{Paint.reset}{start}").intercalate (text.splitOn Paint.reset) ++ Paint.reset
  else text

/-- Puts blanks before a text up to a width in characters. -/
def padLeft (width : Nat) (text : String) : String :=
  String.ofList (List.replicate (width - text.length) ' ') ++ text

/-- Puts blanks behind a text up to a width in characters. -/
def padRight (width : Nat) (text : String) : String :=
  text ++ String.ofList (List.replicate (width - text.length) ' ')

end TenantSync
