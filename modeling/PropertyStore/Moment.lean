import PropertyStore.Calendar
import PropertyStore.Text.Numeral

/-!
# Moments

A moment is told in whole seconds since the first of January 1970 in universal time, negative
before it, and in billionths of a second past them. The calendar has a date for it if its year is
one of those from -262143 to 262142.

In writing, the year has four digits; before the year zero it has a minus sign, and from the year
10000 on a plus sign and as many digits as it takes. A fraction of a second has the fewest of zero,
three, six or nine digits that say it exactly.
-/

namespace PropertyStore

/-- A moment in universal time. -/
structure Moment where
  /-- Whole seconds since the first of January 1970. -/
  seconds : Int64
  /-- Billionths of a second past them. -/
  nanoseconds : UInt32
  /-- They are less than a second. -/
  nanoseconds_lt : nanoseconds.toNat < 1000000000
  deriving DecidableEq

namespace Moment

/-- Seconds in a day. -/
def secondsPerDay : Nat := 86400

/-- Days from the first of January 1601 to that of 1970. -/
def daysTo1970 : Nat := 134774

/-- The first and the last year that the calendar has dates for. -/
def years : Int × Int := (-262143, 262142)

/-- The date of a moment. -/
def date (m : Moment) : Date := .ofDay (m.seconds.toInt / secondsPerDay + daysTo1970)

/-- Whole seconds since the day began. -/
def secondOfDay (m : Moment) : Nat := (m.seconds.toInt % secondsPerDay).toNat

/-- The moment of a count of seconds and one of billionths, if those are less than a second and the
calendar has a date for it. -/
def ofTimestamp? (seconds : Int64) (nanoseconds : UInt32) : Option Moment :=
  if h : nanoseconds.toNat < 1000000000 then
    let m : Moment := ⟨seconds, nanoseconds, h⟩
    if years.1 ≤ m.date.year ∧ m.date.year ≤ years.2 then some m else none
  else none

/-! ### Moments in writing -/

/-- A year in writing. -/
def yearText (year : Int) : String :=
  (if year < 0 then "-" else if 9999 < year then "+" else "") ++
    (if year.natAbs ≤ 9999 then Text.Numeral.decimal 4 year.natAbs else Nat.repr year.natAbs)

/-- A count of billionths of a second in writing, in the fewest digits. -/
def fractionText (nanoseconds : Nat) : String :=
  if nanoseconds = 0 then ""
  else if nanoseconds % 1000000 = 0 then "." ++ Text.Numeral.decimal 3 (nanoseconds / 1000000)
  else if nanoseconds % 1000 = 0 then "." ++ Text.Numeral.decimal 6 (nanoseconds / 1000)
  else "." ++ Text.Numeral.decimal 9 nanoseconds

/-- The moment in writing. -/
def text (m : Moment) : String :=
  yearText m.date.year ++ "-" ++ Text.Numeral.decimal 2 m.date.month ++ "-" ++
    Text.Numeral.decimal 2 m.date.day ++ "T" ++
    Text.Numeral.decimal 2 (m.secondOfDay / 3600) ++ ":" ++
    Text.Numeral.decimal 2 (m.secondOfDay / 60 % 60) ++ ":" ++
    Text.Numeral.decimal 2 (m.secondOfDay % 60) ++ fractionText m.nanoseconds.toNat ++ "Z"

end Moment

end PropertyStore
