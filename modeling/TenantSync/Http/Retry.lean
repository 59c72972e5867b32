/-! # Retrying

Reads are repeated when the service cannot answer for the moment; mutations never are.
The wait before an attempt grows by a constant factor up to a limit.  Numbers are
floating-point numbers of 64 bits, and a wait is a whole number of milliseconds: what is
beyond the range is cut off, and what is no number counts as nothing. -/

namespace TenantSync.Http

/-- When and how long to wait before another attempt. -/
structure RetryPolicy where
  /-- Attempts altogether, the first one included. -/
  maxAttempts : Nat := 3
  /-- In microseconds. -/
  baseDelay : Nat := 500000
  /-- In microseconds. -/
  maxDelay : Nat := 30000000
  multiplier : Float := 2.0
  /-- For each attempt a share, from -1 to 1, of a quarter of the wait by which it is moved. -/
  jitter? : Option (Nat → Float) := none
  statuses : List Nat := [429, 502, 503, 504]

/-- Raises a number to a whole power by repeated squaring; a negative power is the reciprocal
    of the positive one. -/
def powInt (a : Float) (n : Int) : Float :=
  let rec go : Nat → Float → Float → Nat → Float
    | 0, r, _, _ => r
    | fuel + 1, r, a, b =>
      let r := if b % 2 = 1 then r * a else r
      if b / 2 = 0 then r else go fuel r (a * a) (b / 2)
  let p := go 64 1.0 a n.natAbs
  if n < 0 then 1.0 / p else p

namespace RetryPolicy

variable (p : RetryPolicy)

/-- Whether a status is worth another attempt. -/
def retries (code : Nat) : Bool := p.statuses.contains code

/-- Whether another attempt is allowed after `attempt` of them. -/
def attemptsLeft (attempt : Nat) : Bool := attempt < p.maxAttempts

/-- The exponent of the factor after `attempt` attempts: one less, as a signed number of 32
    bits. -/
def exponent (attempt : Nat) : Int := Int.bmod ((attempt : Int) - 1) 0x100000000

/-- The smaller of two numbers; one that is no number is passed over. -/
def least (a b : Float) : Float :=
  if a.isNaN then b else if b.isNaN then a else if b < a then b else a

/-- The wait after `attempt` attempts in milliseconds, before it is moved and rounded. -/
def capped (attempt : Nat) : Float :=
  least (Float.ofNat (p.baseDelay / 1000) * powInt p.multiplier (exponent attempt))
    (Float.ofNat (p.maxDelay / 1000))

/-- The wait after `attempt` attempts in milliseconds. -/
def backoff (attempt : Nat) : Nat :=
  if attempt = 0 then 0
  else
    let wait := p.capped attempt
    let moved := match p.jitter? with
      | some share =>
        if wait > 0 then
          let moved := wait + wait * 0.25 * share attempt
          if moved < 0 then 0 else moved
        else wait
      | none => wait
    moved.toUInt64.toNat

end RetryPolicy

end TenantSync.Http
