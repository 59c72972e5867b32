/-! # Text without control sequences

A control sequence tells a terminal something and is not shown by it: it begins with the
escape character, and what follows says where it ends.  `Plain.strip` leaves out control
sequences and the control characters that are no white space. -/

namespace TenantSync.Plain

/-- Where a character stands. -/
inductive Mode where
  | shown
  /-- Behind the escape character. -/
  | escape
  /-- Behind the escape character and others that do not end the sequence. -/
  | intermediate
  /-- Within a sequence that a letter ends. -/
  | control
  /-- Within a title, which the bell ends. -/
  | title
  /-- Within a text for the device. -/
  | device
  deriving DecidableEq, Repr

/-- The escape character. -/
def escapeChar : Char := '\x1b'

/-- The control characters that are white space. -/
def isBreak (c : Char) : Bool := c = '\t' || c = '\n' || c = '\x0c' || c = '\r'

/-- Whether a character ends a sequence of any kind. -/
def cancels (c : Char) : Bool := c = '\x18' || c = '\x1a'

/-- Whether a character ends a text for the device: the byte that does so may stand inside of the
    character. -/
def endsDevice (c : Char) : Bool := (String.utf8EncodeChar c).contains 0x9C

/-- Where the next character stands if the last one, not shown, is behind the escape character. -/
def Mode.behindEscape (c : Char) : Mode :=
  if c = '[' then .control
  else if c = ']' then .title
  else if "PX^_".toList.contains c then .device
  else if ' ' ≤ c ∧ c < '0' then .intermediate
  else if '0' ≤ c ∧ c < '\x7f' then .shown
  else .escape

/-- Whether a character is shown, and where the next one stands. -/
def Mode.next (c : Char) (m : Mode) : Bool × Mode :=
  if c = escapeChar then (false, .escape)
  else if cancels c then (false, .shown)
  else
    match m with
    | shown => (isBreak c || (' ' ≤ c && c ≠ '\x7f'), .shown)
    | escape => if isBreak c then (true, .shown) else (false, .behindEscape c)
    | intermediate =>
      if isBreak c then (true, .shown)
      else (false, if '0' ≤ c ∧ c < '\x7f' then .shown else .intermediate)
    | control =>
      if isBreak c then (true, .shown)
      else (false, if '@' ≤ c ∧ c < '\x7f' then .shown else .control)
    | title => (false, if c = '\x07' then .shown else .title)
    | device => (false, if endsDevice c then .shown else .device)

/-- The characters that are shown. -/
def shownChars (m : Mode) : List Char → List Char
  | [] => []
  | c :: cs =>
    let (isShown, m) := m.next c
    if isShown then c :: shownChars m cs else shownChars m cs

/-- The text without what a terminal does not show. -/
def strip (s : String) : String := String.ofList (shownChars .shown s.toList)

end TenantSync.Plain
