import TenantSync.Text.Hex
import TenantSync.Text.Numeral
import TenantSync.Text.Utf8
import TenantSync.Web.AddressFault
import TenantSync.Web.Domain.Label
import TenantSync.Web.Percent

/-! # Hosts

The host of a web address is a bracketed IPv6 address, an IPv4 address in any of its
shorthands, or a domain.  `Host.parse` gives the canonical text, which is made of ASCII
characters. -/

namespace TenantSync.Host

/-! ## IPv4 -/

/-- The value of a digit in a base of at most sixteen. -/
def digitIn? (base : Nat) (c : Char) : Option Nat :=
  match Hex.value? c with
  | some d => if d.val < base then some d.val else none
  | none => none

/-- The value of digits in a base. -/
def digitsIn? (base : Nat) (cs : List Char) : Option Nat :=
  cs.foldlM (fun acc c => (digitIn? base c).map (acc * base + ·)) 0

/-- One part of an IPv4 address: hexadecimal after `0x`, octal after a zero, else decimal. -/
def ipv4Number? : List Char → Option Nat
  | [] => none
  | ['0'] => some 0
  | '0' :: 'x' :: cs => digitsIn? 16 cs
  | '0' :: 'X' :: cs => digitsIn? 16 cs
  | '0' :: cs => digitsIn? 8 cs
  | cs => digitsIn? 10 cs

/-- The parts between dots. -/
def dotted (cs : List Char) : List (List Char) := cs.splitOn '.'

/-- The parts of a host without the empty one behind a final dot. -/
def hostParts (cs : List Char) : List (List Char) :=
  let parts := dotted cs
  if parts.getLast? = some [] then parts.dropLast else parts

/-- Whether a host ends in a number and so can only be an IPv4 address. -/
def endsInNumber (cs : List Char) : Bool :=
  match (hostParts cs).getLast? with
  | none => false
  | some last =>
    (!last.isEmpty && last.all fun c => (Numeral.digit? c).isSome) || (ipv4Number? last).isSome

/-- The value of an IPv4 address.  The last part fills all bytes that are left. -/
def ipv4? (cs : List Char) : Option Nat := do
  let parts := hostParts cs
  let numbers ← parts.mapM ipv4Number?
  let last ← numbers.getLast?
  let heads := numbers.dropLast
  if 4 < parts.length ∨ heads.any (255 < ·) ∨ Nat.pow 256 (4 - heads.length) ≤ last then none
  else some (heads.foldr (fun n acc => (n * 0x1000000 + acc / 256)) 0 + last)

/-- The four bytes of an IPv4 address in decimal. -/
def ipv4Text (n : Nat) : String :=
  ".".intercalate ([n / 0x1000000, n / 0x10000 % 256, n / 256 % 256, n % 256].map toString)

/-! ## IPv6 -/

/-- Reads the decimal number of one byte: no leading zero, at most 255. -/
def byte? (cs : List Char) : Option Nat :=
  match cs with
  | [] => none
  | ['0'] => some 0
  | '0' :: _ => none
  | cs => do
    let n ← digitsIn? 10 cs
    if n ≤ 255 then some n else none

/-- The two pieces that an IPv4 address at the end of an IPv6 address stands for. -/
def embedded? (cs : List Char) : Option (List Nat) := do
  let [a, b, c, d] ← (dotted cs).mapM byte? | none
  return [a * 256 + b, c * 256 + d]

/-- Reads pieces from a position on; `gap` is the number of pieces up to the end of the gap
    that two colons leave. -/
def pieces? : Nat → List Nat → Option Nat → List Char → Option (List Nat × Option Nat)
  | _, done, gap, [] => some (done, gap)
  | 0, _, _, _ => none
  | n + 1, done, gap, ':' :: cs =>
    if done.length = 8 ∨ gap.isSome then none
    else pieces? n (done ++ [0]) (some (done.length + 1)) cs
  | n + 1, done, gap, cs =>
    if done.length = 8 then none
    else
      let digits := (cs.take 4).takeWhile Hex.isDigit
      match digitsIn? 16 digits, cs.drop digits.length with
      | none, _ => none
      | some v, [] => some (done ++ [v], gap)
      | some v, ':' :: rest => if rest.isEmpty then none else pieces? n (done ++ [v]) gap rest
      | some _, '.' :: _ =>
        if digits.isEmpty ∨ 6 < done.length then none
        else (embedded? cs).map fun tail => (done ++ tail, gap)
      | _, _ => none

/-- The eight pieces of an IPv6 address. -/
def ipv6? (cs : List Char) : Option (List Nat) := do
  let (done, gap) ←
    match cs with
    | ':' :: ':' :: cs => pieces? 9 [0] (some 1) cs
    | ':' :: _ => none
    | cs => if cs.length < 2 then none else pieces? 9 [] none cs
  match gap with
  | some g => return done.take g ++ List.replicate (8 - done.length) 0 ++ done.drop g
  | none => if done.length = 8 then return done else none

/-- The hexadecimal digits of a number without leading zeros. -/
def hexText (n : Nat) : String := String.ofList (Nat.toDigits 16 n)

/-- The length of the run of zeros at the front. -/
def zeroRun (ps : List Nat) : Nat := (ps.takeWhile (· == 0)).length

/-- Start and length of the first of the longest runs of zeros. -/
def longestRun (ps : List Nat) : Nat × Nat :=
  (List.range ps.length).foldl
    (fun best i => if best.2 < zeroRun (ps.drop i) then (i, zeroRun (ps.drop i)) else best) (0, 0)

/-- The shortest text of an IPv6 address: the first longest run of at least two zeros is left
    out. -/
def ipv6Text (ps : List Nat) : String :=
  let join (qs : List Nat) := ":".intercalate (qs.map hexText)
  let (start, length) := longestRun ps
  if length < 2 then join ps else s!"{join (ps.take start)}::{join (ps.drop (start + length))}"

/-- Reads the inside of a bracketed address. -/
def bracketed (cs : List Char) : Except AddressFault String :=
  if cs.getLast? = some ']' then
    match ipv6? cs.dropLast with
    | some ps => .ok s!"[{ipv6Text ps}]"
    | none => .error .ipv6
  else .error .ipv6

/-! ## Domains -/

/-- The host of a domain, which is an IPv4 address if it ends in a number. -/
def ofDomain (cs : List Char) : Except AddressFault String :=
  if cs.isEmpty then .error .emptyHost
  else if endsInNumber cs then
    match ipv4? cs with
    | some n => .ok (ipv4Text n)
    | none => .error .ipv4
  else .ok (String.ofList cs)

/-- Reads a host of an address with a well-known scheme. -/
def parse (cs : List Char) : Except AddressFault String :=
  match cs with
  | '[' :: cs => bracketed cs
  | cs =>
    match (Utf8.decode (Percent.decode cs)).toOption.bind fun s => Domain.canonical? s.toList with
    | some domain => ofDomain domain
    | none => .error .domain

/-- Checks a host of an address with another scheme. -/
def check (cs : List Char) : Except AddressFault Unit :=
  match cs with
  | '[' :: cs => (bracketed cs).map fun _ => ()
  | cs =>
    if cs.any fun c => "\x00\t\n\r #/:<>?@[\\]^|".toList.contains c then .error .domainCharacter
    else .ok ()

end TenantSync.Host
