import TenantSync.Json.Fault
import TenantSync.Text.Hex
import TenantSync.Text.Numeral
import TenantSync.Text.Rounding

/-! # Scanning JSON text

Each scanner takes the characters that are left and returns what it read together with
what is left after it.  `skip` passes over a value of any form; the number it takes first
bounds the nesting and the length of what it passes, and the length of the text is always
enough. -/

namespace TenantSync.Json

/-- The four blanks of JSON. -/
def isBlank (c : Char) : Bool := c = ' ' || c = '\n' || c = '\t' || c = '\r'

/-- The text without the blanks in front. -/
def skipBlanks (cs : List Char) : List Char := cs.dropWhile isBlank

/-- Reads the rest of a word. -/
def word : List Char → List Char → Except Fault (List Char)
  | [], cs => .ok cs
  | _ :: _, [] => .error .truncated
  | w :: ws, c :: cs => if c = w then word ws cs else .error .malformed

/-! ## Strings -/

/-- The value of four hexadecimal digits. -/
def hex4 (a b c d : Char) : Option Nat := do
  let a ← Hex.value? a
  let b ← Hex.value? b
  let c ← Hex.value? c
  let d ← Hex.value? d
  return ((a.val * 16 + b.val) * 16 + c.val) * 16 + d.val

/-- What is wrong where four hexadecimal digits should stand: fewer than four bytes are left,
    or one of them is no digit. -/
def hexFault (cs : List Char) : Fault :=
  if (String.ofList (cs.take 4)).utf8ByteSize < 4 then .truncated else .malformed

/-- The character that a one-letter escape stands for. -/
def shortEscape? (c : Char) : Option Char :=
  match c with
  | '"' => some '"'
  | '\\' => some '\\'
  | '/' => some '/'
  | 'b' => some '\x08'
  | 'f' => some '\x0c'
  | 'n' => some '\n'
  | 'r' => some '\r'
  | 't' => some '\t'
  | _ => none

/-- The first half of a pair of escapes that stand for one character. -/
def isHighSurrogate (n : Nat) : Bool := 0xD800 ≤ n && n ≤ 0xDBFF

/-- The second half of a pair of escapes that stand for one character. -/
def isLowSurrogate (n : Nat) : Bool := 0xDC00 ≤ n && n ≤ 0xDFFF

/-- The character that a pair of escapes stands for. -/
def pairChar (high low : Nat) : Char :=
  Char.ofNat ((high - 0xD800) * 1024 + (low - 0xDC00) + 0x10000)

/-- What is wrong behind the first half of a pair that no second half follows. -/
def pairFault : List Char → Fault
  | [] => .truncated
  | ['\\'] => .truncated
  | '\\' :: 'u' :: cs => hexFault cs
  | _ => .malformed

/-- The characters of a string up to its closing quotation mark. -/
def stringBody : List Char → Except Fault (List Char × List Char)
  | [] => .error .truncated
  | '"' :: cs => .ok ([], cs)
  | ['\\'] => .error .truncated
  | '\\' :: 'u' :: a :: b :: c :: d :: '\\' :: 'u' :: e :: f :: g :: h :: cs =>
    match hex4 a b c d with
    | none => .error (hexFault [a, b, c, d])
    | some n =>
      if isLowSurrogate n then .error .malformed
      else if isHighSurrogate n then
        match hex4 e f g h with
        | none => .error (hexFault [e, f, g, h])
        | some m =>
          if isLowSurrogate m then
            (stringBody cs).map fun (s, r) => (pairChar n m :: s, r)
          else .error .malformed
      else
        (stringBody ('\\' :: 'u' :: e :: f :: g :: h :: cs)).map fun (s, r) =>
          (Char.ofNat n :: s, r)
  | '\\' :: 'u' :: a :: b :: c :: d :: cs =>
    match hex4 a b c d with
    | none => .error (hexFault [a, b, c, d])
    | some n =>
      if isLowSurrogate n then .error .malformed
      else if isHighSurrogate n then .error (pairFault cs)
      else (stringBody cs).map fun (s, r) => (Char.ofNat n :: s, r)
  | '\\' :: 'u' :: cs => .error (hexFault cs)
  | '\\' :: c :: cs =>
    match shortEscape? c with
    | some e => (stringBody cs).map fun (s, r) => (e :: s, r)
    | none => .error .malformed
  | c :: cs =>
    if c.toNat < 0x20 then .error .malformed
    else (stringBody cs).map fun (s, r) => (c :: s, r)

/-- Passes over a string up to its closing quotation mark.  Escaped surrogates need not form
    pairs. -/
def skipString : List Char → Except Fault (List Char)
  | [] => .error .truncated
  | '"' :: cs => .ok cs
  | ['\\'] => .error .truncated
  | '\\' :: 'u' :: a :: b :: c :: d :: cs =>
    if (hex4 a b c d).isSome then skipString cs else .error (hexFault [a, b, c, d])
  | '\\' :: 'u' :: cs => .error (hexFault cs)
  | '\\' :: c :: cs => if (shortEscape? c).isSome then skipString cs else .error .malformed
  | c :: cs => if c.toNat < 0x20 then .error .malformed else skipString cs

/-! ## Numbers -/

/-- A number as far as its reader tells numbers apart. -/
inductive Number where
  | whole (n : Int)
  | fractional
  deriving DecidableEq, Repr

/-- Whether a character is a decimal digit. -/
def isDigit (c : Char) : Bool := (Numeral.digit? c).isSome

/-- The text without the digits in front. -/
def skipDigits (cs : List Char) : List Char := cs.dropWhile isDigit

/-- The largest significand that is kept exactly. -/
def maxSignificand : Nat := Numeral.max64

/-- The largest exponent that is kept exactly. -/
def maxExponent : Nat := 0x7FFFFFFF

/-- Whether a significand and a decimal exponent lie beyond the floating-point numbers: the
    significand and the power of ten are floating-point numbers each, and their product is
    closer to the number behind the largest one than to that. -/
def outOfRange (significand : Nat) (exponent : Int) : Bool :=
  if exponent < 0 then false
  else if exponent > 308 then significand ≠ 0
  else
    Nat.pow 2 1024 - Nat.pow 2 970 ≤
      toPrecision 53 significand * toPrecision 53 (Nat.pow 10 exponent.toNat)

/-- The end of a number that is not whole. -/
def fractionalEnd (significand : Nat) (exponent : Int) (cs : List Char) :
    Except Fault (Number × List Char) :=
  if outOfRange significand exponent then .error .malformed else .ok (.fractional, cs)

/-- Reads the digits of an exponent; `exponent` is the value of those before.  An exponent
    that is too large for its own range decides by sign and significand alone. -/
def exponentDigits (significand : Nat) (scale : Int) (negative : Bool) :
    Nat → List Char → Except Fault (Number × List Char)
  | exponent, [] => fractionalEnd significand (signed exponent) []
  | exponent, c :: cs =>
    match Numeral.digit? c with
    | none => fractionalEnd significand (signed exponent) (c :: cs)
    | some d =>
      if exponent * 10 + d ≤ maxExponent then
        exponentDigits significand scale negative (exponent * 10 + d) cs
      else if significand ≠ 0 ∧ !negative then .error .malformed
      else .ok (.fractional, skipDigits cs)
where
  signed (exponent : Nat) : Int := if negative then scale - exponent else scale + exponent

/-- Reads an exponent behind its letter. -/
def exponentPart (significand : Nat) (scale : Int) (cs : List Char) :
    Except Fault (Number × List Char) :=
  let (negative, cs) := match cs with
    | '+' :: cs => (false, cs)
    | '-' :: cs => (true, cs)
    | cs => (false, cs)
  match cs with
  | [] => .error .truncated
  | c :: cs =>
    match Numeral.digit? c with
    | none => .error .malformed
    | some d => exponentDigits significand scale negative d cs

/-- What may follow the digits of a number: an exponent. -/
def afterDigits (significand : Nat) (scale : Int) (cs : List Char) :
    Except Fault (Number × List Char) :=
  match cs with
  | 'e' :: cs => exponentPart significand scale cs
  | 'E' :: cs => exponentPart significand scale cs
  | cs => fractionalEnd significand scale cs

/-- Reads the digits behind the point.  Digits that the significand cannot take are dropped. -/
def fractionDigits : Nat → Int → Bool → List Char → Except Fault (Number × List Char)
  | significand, scale, seen, [] =>
    if seen then afterDigits significand scale [] else .error .truncated
  | significand, scale, seen, c :: cs =>
    match Numeral.digit? c with
    | some d =>
      if significand * 10 + d ≤ maxSignificand then
        fractionDigits (significand * 10 + d) (scale - 1) true cs
      else afterDigits significand scale (skipDigits cs)
    | none => if seen then afterDigits significand scale (c :: cs) else .error .malformed

/-- Reads the digits of a number that is too long for the significand. -/
def longDigits (significand : Nat) : Int → List Char → Except Fault (Number × List Char)
  | scale, [] => fractionalEnd significand scale []
  | scale, c :: cs =>
    if isDigit c then longDigits significand (scale + 1) cs
    else if c = '.' then fractionDigits significand scale false cs
    else afterDigits significand scale (c :: cs)

/-- The end of the digits before the point.  A negative number that has no place among the
    whole numbers of 64 bits, and negative zero, count as fractional. -/
def wholeEnd (positive : Bool) (significand : Nat) (cs : List Char) :
    Except Fault (Number × List Char) :=
  match cs with
  | '.' :: cs => fractionDigits significand 0 false cs
  | 'e' :: cs => exponentPart significand 0 cs
  | 'E' :: cs => exponentPart significand 0 cs
  | cs =>
    if positive then .ok (.whole significand, cs)
    else if 0 < significand ∧ significand ≤ 0x8000000000000000 then .ok (.whole (-significand), cs)
    else .ok (.fractional, cs)

/-- Reads the digits before the point; `significand` is the value of those before. -/
def wholeDigits (positive : Bool) : Nat → List Char → Except Fault (Number × List Char)
  | significand, [] => wholeEnd positive significand []
  | significand, c :: cs =>
    match Numeral.digit? c with
    | none => wholeEnd positive significand (c :: cs)
    | some d =>
      if significand * 10 + d ≤ maxSignificand then wholeDigits positive (significand * 10 + d) cs
      else longDigits significand 1 cs

/-- Reads a number behind its sign.  No digit may follow a leading zero. -/
def number (positive : Bool) : List Char → Except Fault (Number × List Char)
  | [] => .error .truncated
  | '0' :: cs =>
    if (cs.head?.map isDigit).getD false then .error .malformed else wholeEnd positive 0 cs
  | c :: cs =>
    match Numeral.digit? c with
    | none => .error .malformed
    | some d => wholeDigits positive d cs

/-- Passes over an exponent behind its letter. -/
def skipExponent (cs : List Char) : Except Fault (List Char) :=
  let cs := match cs with
    | '+' :: cs => cs
    | '-' :: cs => cs
    | cs => cs
  match cs with
  | c :: cs => if isDigit c then .ok (skipDigits cs) else .error .malformed
  | [] => .error .malformed

/-- Passes over what may follow the whole part of a number. -/
def skipFraction (cs : List Char) : Except Fault (List Char) :=
  match cs with
  | '.' :: c :: cs =>
    if isDigit c then
      match skipDigits cs with
      | 'e' :: cs => skipExponent cs
      | 'E' :: cs => skipExponent cs
      | cs => .ok cs
    else .error .malformed
  | ['.'] => .error .malformed
  | 'e' :: cs => skipExponent cs
  | 'E' :: cs => skipExponent cs
  | cs => .ok cs

/-- Passes over a number behind its sign. -/
def skipNumber : List Char → Except Fault (List Char)
  | '0' :: cs =>
    if (cs.head?.map isDigit).getD false then .error .malformed else skipFraction cs
  | c :: cs => if isDigit c then skipFraction (skipDigits cs) else .error .malformed
  | [] => .error .malformed

/-! ## Any value -/

mutual

/-- Passes over a value of any form. -/
def skip : Nat → List Char → Except Fault (List Char)
  | 0, _ => .error .malformed
  | n + 1, cs =>
    match skipBlanks cs with
    | [] => .error .truncated
    | '"' :: cs => skipString cs
    | '[' :: cs => skipItems n true cs
    | '{' :: cs => skipMembers n true cs
    | 'n' :: cs => word ['u', 'l', 'l'] cs
    | 't' :: cs => word ['r', 'u', 'e'] cs
    | 'f' :: cs => word ['a', 'l', 's', 'e'] cs
    | '-' :: cs => skipNumber cs
    | c :: cs => if isDigit c then skipNumber (c :: cs) else .error .malformed

/-- Passes over the items of a list up to its bracket. -/
def skipItems : Nat → Bool → List Char → Except Fault (List Char)
  | 0, _, _ => .error .malformed
  | n + 1, first, cs =>
    match skipBlanks cs with
    | [] => .error .truncated
    | ']' :: cs => .ok cs
    | c :: cs =>
      if first then do skipItems n false (← skip n (c :: cs))
      else if c = ',' then do skipItems n false (← skip n cs)
      else .error .malformed

/-- Passes over the members of a record up to its brace. -/
def skipMembers : Nat → Bool → List Char → Except Fault (List Char)
  | 0, _, _ => .error .malformed
  | n + 1, first, cs =>
    match skipBlanks cs with
    | [] => .error .truncated
    | '}' :: cs => .ok cs
    | c :: cs =>
      if first then skipMember n (c :: cs)
      else if c = ',' then skipMember n (skipBlanks cs)
      else .error .malformed

/-- Passes over a member and those after it. -/
def skipMember : Nat → List Char → Except Fault (List Char)
  | 0, _ => .error .malformed
  | n + 1, cs =>
    match cs with
    | [] => .error .truncated
    | '"' :: cs => do
      match skipBlanks (← skipString cs) with
      | [] => .error .truncated
      | ':' :: cs => skipMembers n false (← skip n cs)
      | _ => .error .malformed
    | _ => .error .malformed

end

/-- Why a value that is neither the record, list nor scalar asked for is refused: a scalar is
    read to its end first, and its own fault counts. -/
def wrongForm (cs : List Char) : Fault :=
  let read : Except Fault Unit := match cs with
    | [] => .error .truncated
    | '"' :: cs => (stringBody cs).map fun _ => ()
    | 'n' :: cs => (word ['u', 'l', 'l'] cs).map fun _ => ()
    | 't' :: cs => (word ['r', 'u', 'e'] cs).map fun _ => ()
    | 'f' :: cs => (word ['a', 'l', 's', 'e'] cs).map fun _ => ()
    | '-' :: cs => (number false cs).map fun _ => ()
    | '[' :: _ => .ok ()
    | '{' :: _ => .ok ()
    | c :: cs => if isDigit c then (number true (c :: cs)).map fun _ => () else .error .malformed
  match read with
  | .ok _ => .unexpected
  | .error f => f

end TenantSync.Json
