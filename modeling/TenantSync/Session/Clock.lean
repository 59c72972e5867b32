/-! # Time

A `Clock` is a sequence of readings in nanoseconds since 1970.  Lifetimes are given in
seconds; a lifetime whose end lies outside the years that the calendar covers has no
end (`Clock.expiry?`). -/

namespace TenantSync

/-- Nanoseconds in a second. -/
def second : Int := 1000000000

/-- The readings of a clock and how many of them were taken. -/
structure Clock where
  reading : Nat → Int
  taken : Nat

instance : Inhabited Clock := ⟨⟨fun _ => 0, 0⟩⟩

namespace Clock

/-- A clock that always shows the same time. -/
def frozen (t : Int) : Clock := ⟨fun _ => t, 0⟩

/-- The current time. -/
def now (c : Clock) : Int := c.reading c.taken

/-- The clock after one reading. -/
def tick (c : Clock) : Clock := { c with taken := c.taken + 1 }

/-- The first second of the calendar: the year 262143 before the era. -/
def firstSecond : Int := -8334601228800

/-- The last second of the calendar, in the year 262142. -/
def lastSecond : Int := 8210266876799

/-- The longest time span in seconds. -/
def longestSpan : Int := 9223372036854775

/-- The end of a lifetime that starts now, if the calendar has it. -/
def expiry? (now lifetime : Int) : Option Int :=
  let expiry := now + lifetime * second
  if -longestSpan ≤ lifetime ∧ lifetime ≤ longestSpan ∧ firstSecond * second ≤ expiry ∧
      expiry < (lastSecond + 1) * second then
    some expiry
  else none

end Clock

end TenantSync
