import TenantSync.Session.Clock

/-! # Points in time as text

`Timestamp.text` writes a reading of the clock as date and time of the Gregorian calendar
in universal time.  Years are counted from March on, so that a leap day is the last day
of its year. -/

namespace TenantSync.Timestamp

/-- Year, month and day of the month. -/
structure Date where
  year : Int
  month : Nat
  day : Nat
  deriving DecidableEq, Repr

/-- The days from the first of March of the year 0 to the first of January 1970. -/
def daysToEpoch : Int := 719468

/-- The days in four centuries. -/
def daysInEra : Int := 146097

/-- The date that lies a number of days after the first of January 1970. -/
def Date.ofDays (days : Int) : Date :=
  let day := days + daysToEpoch
  let era := day.fdiv daysInEra
  let ofEra := (day - era * daysInEra).toNat
  let yearOfEra := (ofEra - ofEra / 1460 + ofEra / 36524 - ofEra / 146096) / 365
  let ofYear := ofEra - (365 * yearOfEra + yearOfEra / 4 - yearOfEra / 100)
  let fromMarch := (5 * ofYear + 2) / 153
  let month := if fromMarch < 10 then fromMarch + 3 else fromMarch - 9
  let year := era * 400 + yearOfEra + (if month ≤ 2 then 1 else 0)
  ⟨year, month, ofYear - (153 * fromMarch + 2) / 5 + 1⟩

/-- The digits of a number, with zeros in front up to a width. -/
def digits (width n : Nat) : String :=
  let text := toString n
  String.ofList (List.replicate (width - text.length) '0') ++ text

/-- A year: four digits, and a sign when they do not suffice. -/
def yearText (year : Int) : String :=
  if year < 0 then s!"-{digits 4 year.natAbs}"
  else if year > 9999 then s!"+{year}"
  else digits 4 year.toNat

/-- The seconds in a day. -/
def secondsInDay : Int := 86400

/-- A point in time, given in nanoseconds since 1970, to the second. -/
def text (nanoseconds : Int) : String :=
  let seconds := nanoseconds.fdiv second
  let date := Date.ofDays (seconds.fdiv secondsInDay)
  let ofDay := (seconds.fmod secondsInDay).toNat
  let time := s!"{digits 2 (ofDay / 3600)}:{digits 2 (ofDay / 60 % 60)}:{digits 2 (ofDay % 60)}"
  s!"{yearText date.year}-{digits 2 date.month}-{digits 2 date.day} {time} UTC"

end TenantSync.Timestamp
