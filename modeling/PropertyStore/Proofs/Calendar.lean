import Mathlib.Logic.Function.Iterate
import PropertyStore.Calendar

/-!
# Days and dates

The day of a date is a count of days: the first of January 1601 is day zero, and the date that comes
after a date, by the lengths of months and the rule of leap years, is one day later, so a day counts
the dates since the first (`toDay_iterate_next`). Every day, before or after, has a date that the
calendar has (`valid_ofDay`), and it is a date of that day (`toDay_ofDay`).

Four hundred years have as many days as the next four hundred, so a day is found by division, but for
the last day of the last year of each kind of cycle, which comes on top (`yearOfDay_spec`).
-/

namespace PropertyStore

namespace Calendar

variable {year n : Int} {lengths : List Nat} {i : Nat}

/-! ### Years -/

/-- The days of a year. -/
def yearLength (year : Int) : Nat := if isLeap year then 366 else 365

theorem isLeap_iff : isLeap year = true ↔ year % 4 = 0 ∧ (year % 100 ≠ 0 ∨ year % 400 = 0) := by
  simp [isLeap]

/-- A year is as long as its months. -/
theorem sum_monthLengths (year : Int) : (monthLengths year).foldr (· + ·) 0 = yearLength year := by
  rw [monthLengths, yearLength]
  split <;> rfl

/-- The days before a year are those before the year before it and of that year. -/
theorem daysBefore_succ (n : Int) : daysBefore (n + 1) = daysBefore n + yearLength (1601 + n) := by
  have leap := @isLeap_iff (1601 + n)
  rw [daysBefore, daysBefore, yearLength]
  split
  · next h =>
    have := leap.mp h
    omega
  · next h =>
    have := mt leap.mpr h
    omega

/-- What is left of a day after whole cycles, hundreds, fours and single years, and where the days
lie that are left: only a year that ends four of them has a day 365, and of those that end a hundred
only the one that ends four hundreds. -/
theorem yearOfDay_parts (n : Int) :
    ∃ (cycle : Int) (century quad year day : Nat),
      yearOfDay n = (400 * cycle + (100 * century + 4 * quad + year : Nat), day) ∧
      n = 146097 * cycle + (36524 * century + 1461 * quad + 365 * year + day : Nat) ∧
      century ≤ 3 ∧ quad ≤ 24 ∧ year ≤ 3 ∧ day ≤ 365 ∧
      (day = 365 → year = 3 ∧ (quad = 24 → century = 3)) := by
  generalize hr : (n % 146097).toNat = r
  generalize hcentury : min (r / 36524) 3 = century
  generalize hrest : r - 36524 * century = rest
  generalize hyear : min (rest % 1461 / 365) 3 = year
  refine ⟨n / 146097, century, rest / 1461, year, rest % 1461 - 365 * year, ?_, ?_⟩
  · simp only [yearOfDay, hr, hcentury, hrest, hyear]
  · omega

/-- A day is in the year that was found for it, behind as many days of that year. -/
theorem yearOfDay_spec (n : Int) :
    (yearOfDay n).2 < yearLength (1601 + (yearOfDay n).1) ∧
      daysBefore (yearOfDay n).1 + (yearOfDay n).2 = n := by
  obtain ⟨cycle, century, quad, year, day, found, hn, hcentury, hquad, hyear, hday, last⟩ :=
    yearOfDay_parts n
  rw [found]
  constructor
  · have leap := @isLeap_iff (1601 + (400 * cycle + (100 * century + 4 * quad + year : Nat)))
    rw [yearLength]
    split
    · omega
    · next h =>
      have := mt leap.mpr h
      omega
  · rw [daysBefore]
    omega

/-! ### Months -/

theorem monthOfDay_of_le {first n : Nat} {rest : List Nat} (later : first ≤ n) :
    monthOfDay (first :: rest) n =
      ((monthOfDay rest (n - first)).1 + 1, (monthOfDay rest (n - first)).2) := by
  rw [monthOfDay, if_neg (Nat.not_lt.mpr later)]

/-- A day that lies in one of the months lies in the month that was found for it, behind as many
days of that month. -/
theorem monthOfDay_spec {n : Nat} (inside : n < lengths.foldr (· + ·) 0) :
    ∃ length, lengths[(monthOfDay lengths n).1]? = some length ∧ (monthOfDay lengths n).2 < length ∧
      (lengths.take (monthOfDay lengths n).1).foldr (· + ·) 0 + (monthOfDay lengths n).2 = n := by
  induction lengths generalizing n with
  | nil => exact absurd inside (Nat.not_lt_zero n)
  | cons first rest ih =>
    by_cases here : n < first
    · rw [monthOfDay, if_pos here]
      exact ⟨first, rfl, here, Nat.zero_add n⟩
    · have later := Nat.not_lt.mp here
      rw [List.foldr_cons] at inside
      obtain ⟨length, found, before, sum⟩ := ih (show n - first < _ by omega)
      rw [monthOfDay_of_le later]
      refine ⟨length, found, before, ?_⟩
      rw [List.take_succ_cons, List.foldr_cons]
      omega

/-- The days before a month are those before the month before it and of that month. -/
theorem sum_take_succ {length : Nat} (h : lengths[i]? = some length) :
    (lengths.take (i + 1)).foldr (· + ·) 0 = (lengths.take i).foldr (· + ·) 0 + length := by
  induction lengths generalizing i with
  | nil => cases h
  | cons first rest ih =>
    cases i with
    | zero =>
      cases h
      simp
    | succ i =>
      rw [List.take_succ_cons, List.foldr_cons, ih h, List.take_succ_cons, List.foldr_cons,
        Nat.add_assoc]

theorem monthLength_bounds {length : Nat} (h : (monthLengths year)[i]? = some length) :
    i < 12 ∧ 28 ≤ length ∧ length ≤ 31 := by
  refine ⟨(List.getElem?_eq_some_iff.mp h).1, ?_⟩
  have mem := List.mem_of_getElem? h
  simp only [monthLengths, List.mem_cons, List.not_mem_nil, or_false] at mem
  split at mem <;> omega

end Calendar

namespace Date

open Calendar

variable {d : Date}

/-- The calendar has the date: its month is one of the year, and its day is one of the month. -/
structure Valid (d : Date) : Prop where
  month_pos : 1 ≤ d.month
  day_pos : 1 ≤ d.day
  day_le : ∃ length, (monthLengths d.year)[d.month - 1]? = some length ∧ d.day ≤ length

theorem Valid.month_le (h : d.Valid) : d.month ≤ 12 := by
  obtain ⟨length, hlength, -⟩ := h.day_le
  have := monthLength_bounds hlength
  omega

theorem Valid.day_le_31 (h : d.Valid) : d.day ≤ 31 := by
  obtain ⟨length, hlength, hday⟩ := h.day_le
  have := monthLength_bounds hlength
  omega

/-- Months and days of a date are counted from one, those before it from zero. -/
theorem valid_mk {year : Int} {month day length : Nat}
    (found : (monthLengths year)[month]? = some length) (before : day < length) :
    Valid ⟨year, month + 1, day + 1⟩ where
  month_pos := Nat.le_add_left 1 month
  day_pos := Nat.le_add_left 1 day
  day_le := ⟨length, by rwa [Nat.add_sub_cancel], before⟩

theorem toDay_mk (year : Int) (month day : Nat) :
    toDay ⟨year, month + 1, day + 1⟩ = daysBefore (year - 1601) +
      (((monthLengths year).take month).foldr (· + ·) 0 + day : Nat) := by
  simp only [toDay, Nat.add_sub_cancel]

/-- The parts of the date of a day. -/
theorem ofDay_eq (n : Int) : ∃ (y : Int) (dayOfYear month day length : Nat),
    ofDay n = ⟨1601 + y, month + 1, day + 1⟩ ∧ daysBefore y + dayOfYear = n ∧
      (monthLengths (1601 + y))[month]? = some length ∧ day < length ∧
      ((monthLengths (1601 + y)).take month).foldr (· + ·) 0 + day = dayOfYear := by
  obtain ⟨inside, sum⟩ := yearOfDay_spec n
  rw [ofDay]
  generalize yearOfDay n = parts at inside sum ⊢
  obtain ⟨y, dayOfYear⟩ := parts
  rw [← sum_monthLengths] at inside
  obtain ⟨length, found, before, days⟩ := monthOfDay_spec inside
  dsimp only
  generalize monthOfDay (monthLengths (1601 + y)) dayOfYear = inYear at found before days ⊢
  obtain ⟨month, day⟩ := inYear
  exact ⟨y, dayOfYear, month, day, length, rfl, sum, found, before, days⟩

/-- From 1601 on, the days of so many years are in no more years. -/
theorem year_ofDay_bounds {n : Int} {years : Nat} (since : 0 ≤ n) (before : n < 365 * years) :
    1601 ≤ (ofDay n).year ∧ (ofDay n).year < 1601 + years := by
  obtain ⟨inside, sum⟩ := yearOfDay_spec n
  have year : (ofDay n).year = 1601 + (yearOfDay n).1 := by rw [ofDay]
  have length : yearLength (1601 + (yearOfDay n).1) ≤ 366 := by
    rw [yearLength]
    split <;> decide
  rw [daysBefore] at sum
  rw [year]
  omega

/-- **Every day has a date that the calendar has.** -/
theorem valid_ofDay (n : Int) : (ofDay n).Valid := by
  obtain ⟨y, dayOfYear, month, day, length, hd, -, found, before, -⟩ := ofDay_eq n
  rw [hd]
  exact valid_mk found before

/-- **The date of a day is a date of that day.** -/
theorem toDay_ofDay (n : Int) : (ofDay n).toDay = n := by
  obtain ⟨y, dayOfYear, month, day, length, hd, sum, -, -, days⟩ := ofDay_eq n
  rw [hd, toDay_mk, days, show 1601 + y - 1601 = y by omega]
  exact sum

/-! ### The calendar day by day -/

/-- The date that comes after a date. -/
def next (d : Date) : Date :=
  if d.day < ((monthLengths d.year)[d.month - 1]?).getD 0 then ⟨d.year, d.month, d.day + 1⟩
  else if d.month < 12 then ⟨d.year, d.month + 1, 1⟩
  else ⟨d.year + 1, 1, 1⟩

/-- The next date is one day later. -/
theorem toDay_next (h : d.Valid) : d.next.Valid ∧ d.next.toDay = d.toDay + 1 := by
  obtain ⟨year, month, day⟩ := d
  obtain ⟨month_pos, day_pos, length, hlength, day_le⟩ := h
  obtain ⟨month, rfl⟩ := Nat.exists_eq_add_of_le' month_pos
  obtain ⟨day, rfl⟩ := Nat.exists_eq_add_of_le' day_pos
  simp only [Nat.add_sub_cancel] at hlength day_le
  simp only [next, hlength, Nat.add_sub_cancel, Option.getD_some]
  split
  · next inMonth =>
    refine ⟨valid_mk hlength inMonth, ?_⟩
    rw [toDay_mk, toDay_mk]
    omega
  · next lastDay =>
    -- The month is over, so its days are all of them.
    have whole := sum_take_succ hlength
    split
    · next inYear =>
      have more : month + 1 < (monthLengths year).length := inYear
      have found := List.getElem?_eq_getElem more
      have some := (monthLength_bounds found).2
      refine ⟨valid_mk found (show 0 < _ by omega), ?_⟩
      rw [toDay_mk year (month + 1) 0, toDay_mk]
      omega
    · next lastMonth =>
      have twelve := (monthLength_bounds hlength).1
      have all : (monthLengths year).take (month + 1) = monthLengths year :=
        List.take_of_length_le (show 12 ≤ month + 1 by omega)
      have later := daysBefore_succ (year - 1601)
      rw [show 1601 + (year - 1601) = year by omega,
        show year - 1601 + 1 = year + 1 - 1601 by omega] at later
      rw [all, sum_monthLengths] at whole
      have january : (monthLengths (year + 1))[0]? = some 31 := rfl
      refine ⟨valid_mk january (by decide), ?_⟩
      rw [toDay_mk (year + 1) 0 0, toDay_mk, later, List.take_zero, List.foldr_nil]
      omega

/-- **A day counts the dates since the first of January 1601.** -/
theorem toDay_iterate_next (n : Nat) :
    (next^[n] ⟨1601, 1, 1⟩).Valid ∧ (next^[n] ⟨1601, 1, 1⟩).toDay = n := by
  induction n with
  | zero =>
    have january : (monthLengths 1601)[0]? = some 31 := rfl
    exact ⟨valid_mk january (by decide), rfl⟩
  | succ n ih =>
    rw [Function.iterate_succ_apply']
    obtain ⟨valid, day⟩ := ih
    obtain ⟨valid', later⟩ := toDay_next valid
    exact ⟨valid', by rw [later, day, Int.natCast_succ]⟩

end Date

end PropertyStore
