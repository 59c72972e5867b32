/-! # Labels of domains beyond ASCII

A label of a domain that holds other characters is written as `xn--`, its ASCII
characters and a hyphen, and then a row of numbers: each says how far the next character
lies behind the one before, counted through all places of the label and all code points
in turn.  Numbers have digits to the base 36, the least one first; a digit below a
threshold, which follows the size of the numbers before, is the last one of its number.

`Punycode.decode?` reads what stands behind the marker, and `Punycode.encode` writes it. -/

namespace TenantSync.Punycode

/-! ## Reading -/

/-- The value of a digit: letters come before figures. -/
def digit? (c : Char) : Option Nat :=
  if 'a' ≤ c ∧ c ≤ 'z' then some (c.toNat - 'a'.toNat)
  else if '0' ≤ c ∧ c ≤ '9' then some (c.toNat - '0'.toNat + 26)
  else none

/-- The threshold of a digit; `place` is 36 for the first digit of a number and 36 more for each
    digit behind it. -/
def threshold (bias place : Nat) : Nat :=
  if place ≤ bias then 1 else if bias + 26 ≤ place then 26 else place - bias

/-- What is beyond the range of the numbers. -/
def limit : Nat := 0x100000000

/-- Keeps a number that is in range. -/
def inRange? (n : Nat) : Option Nat := if n < limit then some n else none

/-- Reads one number.  `weight` is what a one counts at this place, and `total` the value of the
    digits before. -/
def number? (bias : Nat) :
    Nat → Nat → Nat → (cs : List Char) → Option (Nat × { r : List Char // r.length < cs.length })
  | _, _, _, [] => none
  | place, weight, total, c :: cs => do
    let d ← digit? c
    let total ← inRange? (total + (← inRange? (d * weight)))
    let t := threshold bias place
    if d < t then return (total, ⟨cs, by simp⟩)
    else
      let (n, ⟨rest, h⟩) ← number? bias (place + 36) (← inRange? (weight * (36 - t))) total cs
      return (n, ⟨rest, by simp only [List.length_cons]; omega⟩)

/-- Scales a number down and counts, in steps of 36, how often that was done. -/
def scale (n : Nat) : Nat × Nat :=
  if 455 < n then
    let (m, steps) := scale (n / 35)
    (m, steps + 36)
  else (n, 0)
termination_by n

/-- The bias behind a number; `count` is how many characters the label has by then. -/
def adapt (n count : Nat) (first : Bool) : Nat :=
  let n := if first then n / 700 else n / 2
  let (m, steps) := scale (n + n / count)
  steps + 36 * m / (m + 38)

/-- Puts characters into a label.  `code` is the code point that is next and `place` the place of
    the label that is. -/
def insert? (bias code place : Nat) (label : List Char) (cs : List Char) : Option (List Char) :=
  match cs with
  | [] => some label
  | c :: cs => do
    let (n, ⟨rest, _⟩) ← number? bias 36 1 place (c :: cs)
    let count := label.length + 1
    let code := code + n / count
    if code.isValidChar then
      insert? (adapt (n - place) count (place == 0)) code (n % count + 1)
        (label.insertIdx (n % count) (Char.ofNat code)) rest
    else none
termination_by cs.length
decreasing_by assumption

/-- The label of a domain that stands behind the marker. -/
def decode? (cs : List Char) : Option (List Char) :=
  let numbers := (cs.reverse.takeWhile (· ≠ '-')).reverse
  let ascii := cs.take (cs.length - numbers.length - 1)
  if ascii.isEmpty then insert? 72 0x80 0 [] cs else insert? 72 0x80 0 ascii numbers

/-! ## Writing -/

/-- The character of a digit. -/
def digit (n : Nat) : Char :=
  if n < 26 then Char.ofNat ('a'.toNat + n) else Char.ofNat ('0'.toNat + (n - 26))

/-- A digit can always be below its threshold. -/
theorem threshold_pos (bias place : Nat) : 0 < threshold bias place := by
  unfold threshold; split <;> (try split) <;> omega

/-- Writes one number. -/
def digits (bias place n : Nat) : List Char :=
  let t := threshold bias place
  if h : n < t then [digit n]
  else
    have : (n - t) / (36 - t) < n := by
      have := threshold_pos bias place
      have := Nat.div_le_self (n - t) (36 - t)
      omega
    digit (t + (n - t) % (36 - t)) :: digits bias (place + 36) ((n - t) / (36 - t))
termination_by n

/-- The characters of a label beyond ASCII in the order of their code points, each with its place
    among those before it in that order. -/
def insertions (label : List Char) : List (Nat × Nat) :=
  let others := label.zipIdx.filter fun x => 0x80 ≤ x.1.toNat
  (others.mergeSort fun x y => x.1.toNat ≤ y.1.toNat).map fun (c, i) =>
    (c.toNat, ((label.take i).filter fun d => d.toNat ≤ c.toNat).length)

/-- Writes the numbers by which characters are put into a label of `count` others. -/
def numbers (bias code place count : Nat) : List (Nat × Nat) → List Char
  | [] => []
  | (c, p) :: rest =>
    let n := (c - code) * (count + 1) + p - place
    digits bias 36 n ++
      numbers (adapt n (count + 1) (place == 0)) c (p + 1) (count + 1) rest

/-- What stands behind the marker of a label. -/
def encode (label : List Char) : List Char :=
  let ascii := label.filter fun c => c.toNat < 0x80
  let front := if ascii.isEmpty then [] else ascii ++ ['-']
  front ++ numbers 72 0x80 0 ascii.length (insertions label)

end TenantSync.Punycode
