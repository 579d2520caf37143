/-!
# The calendar

Days are counted from the first of January 1601, the first day of a cycle of four
hundred years in the Gregorian calendar, which is taken to have always been in use;
days before it are negative, and so are years before the year zero.
`Date.ofDay` gives the date of a day and `Date.toDay` the day of a date.
-/

namespace PropertyStore

/-- A day of a month of a year. -/
structure Date where
  /-- The year. -/
  year : Int
  /-- The month, from one to twelve. -/
  month : Nat
  /-- The day of the month, from one. -/
  day : Nat
  deriving DecidableEq, Repr

namespace Calendar

/-- Whether a year has a twenty-ninth of February. -/
def isLeap (year : Int) : Bool :=
  year % 4 == 0 && (year % 100 != 0 || year % 400 == 0)

/-- The lengths of the months of a year. -/
def monthLengths (year : Int) : List Nat :=
  [31, if isLeap year then 29 else 28, 31, 30, 31, 30, 31, 31, 30, 31, 30, 31]

/-- How many days lie between the first of January 1601 and that of `1601 + n`. -/
def daysBefore (n : Int) : Int := 365 * n + n / 4 - n / 100 + n / 400

/-- The year that day `n` lies in, counted from 1601, and the days of that year before it:
four hundred years are `146097` days, and in them a hundred are `36524` and four are `1461`
except that the last of each kind may be a day longer or shorter. -/
def yearOfDay (n : Int) : Int × Nat :=
  let cycle := n / 146097
  let n := (n % 146097).toNat
  let century := min (n / 36524) 3
  let n := n - 36524 * century
  let quad := n / 1461
  let n := n % 1461
  let year := min (n / 365) 3
  (400 * cycle + (100 * century + 4 * quad + year : Nat), n - 365 * year)

/-- The month that a day of a year lies in, counted from the first of the given lengths,
and the days of that month before it. -/
def monthOfDay : List Nat → Nat → Nat × Nat
  | [], n => (0, n)
  | length :: rest, n =>
    if n < length then (0, n)
    else
      let (month, day) := monthOfDay rest (n - length)
      (month + 1, day)

end Calendar

namespace Date

open Calendar

/-- The date of the day that comes `n` days after the first of January 1601. -/
def ofDay (n : Int) : Date :=
  let (years, dayOfYear) := yearOfDay n
  let (month, day) := monthOfDay (monthLengths (1601 + years)) dayOfYear
  ⟨1601 + years, month + 1, day + 1⟩

/-- How many days after the first of January 1601 a date comes. -/
def toDay (d : Date) : Int :=
  let months := (monthLengths d.year).take (d.month - 1)
  daysBefore (d.year - 1601) + (months.foldr (· + ·) 0 + (d.day - 1) : Nat)

end Date

end PropertyStore
