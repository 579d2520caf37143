import PropertyStore.Moment
import PropertyStore.Proofs.Calendar
import PropertyStore.Proofs.Text.Numeral

/-!
# Moments read back

A text tells a moment by a date, a time of day and a fraction of a second, and is read from left to
right (`Stamp.read?`). What it tells is a count of billionths of a second from the first of January
1601, by the days of the calendar (`Stamp.instant`).

The text of a moment is read back (`Moment.read?_text`). It tells a date and a time of day that
there are (`valid_stamp`), they are those of the moment and no other (`instant_stamp`), and the
fraction has no more digits than it takes (`fewest_stamp`).
-/

namespace PropertyStore

open Text Numeral

/-- What a text tells of a moment. -/
structure Stamp where
  /-- The sign of the year, if it has one. -/
  sign : Option Char
  /-- The date, with the year by its sign. -/
  date : Date
  /-- Whole hours of the day. -/
  hour : Nat
  /-- Whole minutes of the hour. -/
  minute : Nat
  /-- Whole seconds of the minute. -/
  second : Nat
  /-- How many digits the fraction of a second has. -/
  places : Nat
  /-- The number that those digits are. -/
  fraction : Nat
  deriving DecidableEq, Repr

namespace Stamp

/-! ### What is told -/

/-- Whole seconds from the first of January 1601. -/
def seconds (s : Stamp) : Int :=
  s.date.toDay * 86400 + (s.hour * 3600 + s.minute * 60 + s.second : Nat)

/-- Billionths of a second past them, if the fraction has at most nine digits. -/
def nanosecond (s : Stamp) : Nat := s.fraction * Nat.pow 10 (9 - s.places)

/-- Billionths of a second from the first of January 1601. -/
def instant (s : Stamp) : Int := s.seconds * 1000000000 + s.nanosecond

/-- There are such a date and such a time of day. -/
structure Valid (s : Stamp) : Prop where
  date : s.date.Valid
  hour_lt : s.hour < 24
  minute_lt : s.minute < 60
  second_lt : s.second < 60
  fraction_lt : s.fraction < Nat.pow 10 s.places

/-- The fraction has zero, three, six or nine digits, and no fewer of these are exact. -/
structure Fewest (s : Stamp) : Prop where
  places_mem : s.places ∈ [0, 3, 6, 9]
  places_le : ∀ places ∈ [0, 3, 6, 9],
    (∃ fraction, fraction * Nat.pow 10 (9 - places) = s.nanosecond) → s.places ≤ places

/-! ### Reading -/

/-- The number that digits of base ten stand for. -/
def number? (cs : List Char) : Option Nat := Numeral.number? 10 decimalValue? cs

/-- The digits in front, and what is behind them. -/
def digits (cs : List Char) : List Char × List Char :=
  (cs.takeWhile Char.isDigit, cs.dropWhile Char.isDigit)

/-- The sign in front, if there is one, and what is behind it. -/
def signed : List Char → Option Char × List Char
  | [] => (none, [])
  | c :: rest => if c = '+' ∨ c = '-' then (some c, rest) else (none, c :: rest)

/-- A year: four digits, or a sign and no fewer. -/
def year? (cs : List Char) : Option (Option Char × Int × List Char) := do
  let (sign, cs) := signed cs
  let (ds, rest) := digits cs
  let n ← number? ds
  if ds.length = 4 ∨ sign ≠ none ∧ 4 < ds.length then
    return (sign, if sign = some '-' then -n else n, rest)
  else none

/-- A number of two digits behind a mark. -/
def field? (mark : Char) : List Char → Option (Nat × List Char)
  | c :: a :: b :: rest => if c = mark then (number? [a, b]).map (·, rest) else none
  | _ => none

/-- A fraction, if there is one, and the letter of universal time: how many digits there are, and
the number that they are. -/
def fraction? : List Char → Option (Nat × Nat)
  | ['Z'] => some (0, 0)
  | '.' :: rest =>
    match digits rest with
    | (d :: ds, ['Z']) => (number? (d :: ds)).map (ds.length + 1, ·)
    | _ => none
  | _ => none

/-- What a text tells, if it tells a moment in universal time. -/
def read? (text : String) : Option Stamp := do
  let (sign, year, rest) ← year? text.toList
  let (month, rest) ← field? '-' rest
  let (day, rest) ← field? '-' rest
  let (hour, rest) ← field? 'T' rest
  let (minute, rest) ← field? ':' rest
  let (second, rest) ← field? ':' rest
  let (places, fraction) ← fraction? rest
  return ⟨sign, ⟨year, month, day⟩, hour, minute, second, places, fraction⟩

end Stamp

namespace Moment

/-! ### Parts in writing -/

/-- The sign of a year in writing. -/
def yearSign (year : Int) : Option Char :=
  if year < 0 then some '-' else if 9999 < year then some '+' else none

theorem yearSign_mem {year : Int} {c : Char} (h : c ∈ yearSign year) : c = '+' ∨ c = '-' := by
  rw [yearSign] at h
  split at h
  · cases h
    exact Or.inr rfl
  · split at h
    · cases h
      exact Or.inl rfl
    · cases h

theorem yearSign_eq_minus {year : Int} : yearSign year = some '-' ↔ year < 0 := by
  rw [yearSign]
  split
  · next before => simp [before]
  · next since =>
    split
    · simp [since]
    · simp [since]

theorem yearSign_ne_none {year : Int} (large : 9999 < year.natAbs) : yearSign year ≠ none := by
  rw [yearSign]
  split
  · nofun
  · rw [if_pos (by omega)]
    nofun

/-- The digits of a year in writing. -/
def yearDigits (n : Nat) : List Char :=
  if n ≤ 9999 then fixed 10 lowerDigit 4 n else Nat.toDigits 10 n

theorem isDigit_of_mem_yearDigits {c : Char} (h : c ∈ yearDigits n) : c.isDigit := by
  rw [yearDigits] at h
  split at h
  · exact isDigit_of_mem_fixed h
  · exact Nat.isDigit_of_mem_toDigits (by decide) (by decide) h

/-- There are four digits up to 9999, and more from there on. -/
theorem length_yearDigits (n : Nat) :
    if n ≤ 9999 then (yearDigits n).length = 4 else 4 < (yearDigits n).length := by
  split
  · next small => rw [yearDigits, if_pos small, length_fixed]
  · next large =>
    rw [yearDigits, if_neg large]
    have few := Nat.length_toDigits_le_iff (b := 10) (n := n) (k := 4) (by decide) (by decide)
    have : ¬ (Nat.toDigits 10 n).length ≤ 4 := mt few.mp (by omega)
    omega

theorem toList_yearText (year : Int) :
    (yearText year).toList = (yearSign year).toList ++ yearDigits year.natAbs := by
  have sign : (if year < 0 then "-" else if 9999 < year then "+" else "").toList =
      (yearSign year).toList := by
    rw [yearSign]
    split
    · rfl
    · split <;> rfl
  have digits : (if year.natAbs ≤ 9999 then decimal 4 year.natAbs
      else Nat.repr year.natAbs).toList = yearDigits year.natAbs := by
    rw [yearDigits]
    split
    · exact String.toList_ofList
    · exact Nat.toList_repr
  rw [yearText, String.toList_append, sign, digits]

/-- How many digits a fraction has in writing. -/
def places (nanoseconds : Nat) : Nat :=
  if nanoseconds = 0 then 0
  else if nanoseconds % 1000000 = 0 then 3
  else if nanoseconds % 1000 = 0 then 6
  else 9

/-- There are only as many digits as it takes. -/
theorem places_spec (nanoseconds : Nat) :
    (places nanoseconds = 0 ∧ nanoseconds = 0) ∨
      (places nanoseconds = 3 ∧ nanoseconds ≠ 0 ∧ nanoseconds % 1000000 = 0) ∨
      (places nanoseconds = 6 ∧ nanoseconds % 1000000 ≠ 0 ∧ nanoseconds % 1000 = 0) ∨
      (places nanoseconds = 9 ∧ nanoseconds % 1000 ≠ 0) := by
  rw [places]
  split
  · next none => exact Or.inl ⟨rfl, none⟩
  · next some =>
    split
    · next three => exact Or.inr (Or.inl ⟨rfl, some, three⟩)
    · next more =>
      split
      · next six => exact Or.inr (Or.inr (Or.inl ⟨rfl, more, six⟩))
      · next nine => exact Or.inr (Or.inr (Or.inr ⟨rfl, nine⟩))

/-- As many digits as are exact are no fewer. -/
theorem places_le {nanoseconds fraction count : Nat} (room : nanoseconds < 1000000000)
    (allowed : count ∈ [0, 3, 6, 9]) (exact : fraction * Nat.pow 10 (9 - count) = nanoseconds) :
    places nanoseconds ≤ count := by
  have divides : (count = 0 ∧ nanoseconds = 0) ∨ (count = 3 ∧ nanoseconds % 1000000 = 0) ∨
      (count = 6 ∧ nanoseconds % 1000 = 0) ∨ count = 9 := by
    have whole := Nat.mul_mod_left fraction (Nat.pow 10 (9 - count))
    rw [exact] at whole
    simp only [List.mem_cons, List.not_mem_nil, or_false] at allowed
    rcases allowed with rfl | rfl | rfl | rfl
    · exact Or.inl ⟨rfl, by rwa [Nat.mod_eq_of_lt room] at whole⟩
    · exact Or.inr (Or.inl ⟨rfl, whole⟩)
    · exact Or.inr (Or.inr (Or.inl ⟨rfl, whole⟩))
    · exact Or.inr (Or.inr (Or.inr rfl))
  have := places_spec nanoseconds
  omega

/-- The digits say all of the fraction, and have room for it. -/
theorem places_exact {nanoseconds : Nat} (room : nanoseconds < 1000000000) :
    nanoseconds / Nat.pow 10 (9 - places nanoseconds) * Nat.pow 10 (9 - places nanoseconds) =
        nanoseconds ∧
      nanoseconds / Nat.pow 10 (9 - places nanoseconds) < Nat.pow 10 (places nanoseconds) := by
  rcases places_spec nanoseconds with ⟨h, rfl⟩ | ⟨h, -, three⟩ | ⟨h, -, six⟩ | ⟨h, -⟩
  · rw [h]
    decide
  · rw [h]
    show nanoseconds / 1000000 * 1000000 = nanoseconds ∧ nanoseconds / 1000000 < 1000
    omega
  · rw [h]
    show nanoseconds / 1000 * 1000 = nanoseconds ∧ nanoseconds / 1000 < 1000000
    omega
  · rw [h]
    show nanoseconds / 1 * 1 = nanoseconds ∧ nanoseconds / 1 < 1000000000
    omega

theorem fractionText_eq (nanoseconds : Nat) :
    fractionText nanoseconds = if places nanoseconds = 0 then "" else
      "." ++ decimal (places nanoseconds) (nanoseconds / Nat.pow 10 (9 - places nanoseconds)) := by
  rw [fractionText, places]
  split
  · rfl
  · split
    · rfl
    · split
      · rfl
      · rw [if_neg (by decide)]
        exact congrArg ("." ++ decimal 9 ·) (Nat.div_one nanoseconds).symm

end Moment

namespace Stamp

open Moment

/-! ### Parts read back -/

variable {ds rest : List Char} {mark : Char} {n : Nat}

theorem digits_append (hds : ∀ c ∈ ds, c.isDigit) (hmark : mark.isDigit = false) :
    digits (ds ++ mark :: rest) = (ds, mark :: rest) :=
  Prod.ext (span_digits hds hmark _).1 (span_digits hds hmark _).2

theorem number?_fixed {width : Nat} (room : n < Nat.pow 10 width) :
    number? (fixed 10 lowerDigit width n) = some n :=
  Numeral.number?_fixed (by decide) decimalValue?_lowerDigit room

/-- Two digits behind their mark are read back. -/
theorem field?_decimal (room : n < 100) :
    field? mark (mark :: ((decimal 2 n).toList ++ rest)) = some (n, rest) := by
  have read : number? [lowerDigit (n / 10 % 10), lowerDigit (n % 10)] = some n :=
    number?_fixed (show n < Nat.pow 10 2 from room)
  have two : (decimal 2 n).toList = [lowerDigit (n / 10 % 10), lowerDigit (n % 10)] :=
    String.toList_ofList
  simp [two, field?, read]

/-- Digits have no sign in front. -/
theorem signed_append {sign : Option Char} (hsign : ∀ c ∈ sign, c = '+' ∨ c = '-')
    (hds : ∀ c ∈ ds, c.isDigit) (some_digit : ds ≠ []) :
    signed (sign.toList ++ (ds ++ rest)) = (sign, ds ++ rest) := by
  cases sign with
  | some c => simp [signed, hsign c rfl]
  | none =>
    obtain ⟨d, ds, rfl⟩ := List.exists_cons_of_ne_nil some_digit
    have digit := hds d (by simp)
    have plus : d ≠ '+' := by
      rintro rfl
      exact absurd digit (by decide)
    have minus : d ≠ '-' := by
      rintro rfl
      exact absurd digit (by decide)
    simp [signed, plus, minus]

theorem number?_yearDigits (n : Nat) : number? (yearDigits n) = some n := by
  rw [yearDigits]
  split
  · next small => exact number?_fixed (show n < 10000 by omega)
  · exact number?_toDigits (by decide) decimalValue?_digitChar n

/-- The text of a year is read back. -/
theorem year?_yearText (hmark : mark.isDigit = false) (year : Int) :
    year? ((yearText year).toList ++ mark :: rest) = some (yearSign year, year, mark :: rest) := by
  have long := length_yearDigits year.natAbs
  have ne : yearDigits year.natAbs ≠ [] := by
    intro none
    rw [none] at long
    split at long
    · cases long
    · cases long
  have digit : ∀ c ∈ yearDigits year.natAbs, c.isDigit := fun _ => isDigit_of_mem_yearDigits
  have sign : signed ((yearSign year).toList ++ (yearDigits year.natAbs ++ mark :: rest)) =
      (yearSign year, yearDigits year.natAbs ++ mark :: rest) :=
    signed_append (fun _ => yearSign_mem) digit ne
  have front : digits (yearDigits year.natAbs ++ mark :: rest) =
      (yearDigits year.natAbs, mark :: rest) := digits_append digit hmark
  rw [toList_yearText, List.append_assoc]
  simp only [year?, sign, front, number?_yearDigits, Option.bind_eq_bind, Option.bind_some]
  have enough : (yearDigits year.natAbs).length = 4 ∨
      yearSign year ≠ none ∧ 4 < (yearDigits year.natAbs).length := by
    by_cases small : year.natAbs ≤ 9999
    · rw [if_pos small] at long
      exact Or.inl long
    · rw [if_neg small] at long
      exact Or.inr ⟨yearSign_ne_none (Nat.not_le.mp small), long⟩
  have value : (if yearSign year = some '-' then -(year.natAbs : Int) else year.natAbs) = year := by
    split
    · next minus =>
      have := yearSign_eq_minus.mp minus
      omega
    · next other =>
      have := mt yearSign_eq_minus.mpr other
      omega
  rw [if_pos enough, value]
  rfl

/-- A fraction with digits is read by them. -/
theorem fraction?_digits (hds : ∀ c ∈ ds, c.isDigit) (some_digit : ds ≠ []) :
    fraction? ('.' :: (ds ++ ['Z'])) = (number? ds).map (ds.length, ·) := by
  have letter : 'Z'.isDigit = false := by decide
  have front : digits (ds ++ ['Z']) = (ds, ['Z']) := digits_append hds letter
  obtain ⟨d, ds, rfl⟩ := List.exists_cons_of_ne_nil some_digit
  rw [fraction?, front]
  rfl

/-- The text of a fraction, and the letter behind it, are read back. -/
theorem fraction?_fractionText {nanoseconds : Nat} (room : nanoseconds < 1000000000) :
    fraction? ((fractionText nanoseconds).toList ++ ['Z']) = some (Moment.places nanoseconds,
      nanoseconds / Nat.pow 10 (9 - Moment.places nanoseconds)) := by
  have inside := (places_exact room).2
  rw [fractionText_eq]
  split
  · next none =>
    rw [none] at inside ⊢
    rw [Nat.lt_one_iff.mp inside]
    rfl
  · next some_digit =>
    have ne : fixed 10 lowerDigit (Moment.places nanoseconds)
        (nanoseconds / Nat.pow 10 (9 - Moment.places nanoseconds)) ≠ [] := by
      rw [← List.length_pos_iff, length_fixed]
      exact Nat.pos_of_ne_zero some_digit
    have chars (width n : Nat) : ("." ++ decimal width n).toList ++ ['Z'] =
        '.' :: (fixed 10 lowerDigit width n ++ ['Z']) := by
      simp [decimal]
    rw [chars, fraction?_digits (fun _ => isDigit_of_mem_fixed) ne, number?_fixed inside,
      length_fixed]
    rfl

end Stamp

namespace Moment

/-! ### Moments read back -/

/-- A moment is made of its counts, if the calendar has a date for it. -/
theorem ofTimestamp?_self {m : Moment}
    (inside : years.1 ≤ m.date.year ∧ m.date.year ≤ years.2) :
    ofTimestamp? m.seconds m.nanoseconds = some m := by
  rw [ofTimestamp?, dif_pos m.nanoseconds_lt]
  exact if_pos inside

theorem valid_date (m : Moment) : m.date.Valid := Date.valid_ofDay _

theorem secondOfDay_lt (m : Moment) : m.secondOfDay < 86400 := by
  rw [secondOfDay, secondsPerDay]
  omega

/-- What the text of a moment tells. -/
def stamp (m : Moment) : Stamp where
  sign := yearSign m.date.year
  date := m.date
  hour := m.secondOfDay / 3600
  minute := m.secondOfDay / 60 % 60
  second := m.secondOfDay % 60
  places := places m.nanoseconds.toNat
  fraction := m.nanoseconds.toNat / Nat.pow 10 (9 - places m.nanoseconds.toNat)

/-- **The text of a moment is read back.** -/
theorem read?_text (m : Moment) : Stamp.read? m.text = some m.stamp := by
  have month : m.date.month < 100 := by
    have := m.valid_date.month_le
    omega
  have day : m.date.day < 100 := by
    have := m.valid_date.day_le_31
    omega
  have hour : m.secondOfDay / 3600 < 100 := by
    have := m.secondOfDay_lt
    omega
  have minute : m.secondOfDay / 60 % 60 < 100 := by omega
  have second : m.secondOfDay % 60 < 100 := by omega
  have chars : m.text.toList = (yearText m.date.year).toList ++ '-' ::
      ((decimal 2 m.date.month).toList ++ '-' :: ((decimal 2 m.date.day).toList ++ 'T' ::
      ((decimal 2 (m.secondOfDay / 3600)).toList ++ ':' ::
      ((decimal 2 (m.secondOfDay / 60 % 60)).toList ++ ':' ::
      ((decimal 2 (m.secondOfDay % 60)).toList ++
      ((fractionText m.nanoseconds.toNat).toList ++ ['Z'])))))) := by
    simp [text]
  have hyphen : '-'.isDigit = false := by decide
  simp only [Stamp.read?, chars, Stamp.year?_yearText hyphen, Stamp.field?_decimal month,
    Stamp.field?_decimal day, Stamp.field?_decimal hour, Stamp.field?_decimal minute,
    Stamp.field?_decimal second, Stamp.fraction?_fractionText m.nanoseconds_lt,
    Option.bind_eq_bind, Option.bind_some]
  rfl

/-- Billionths of a second from the first of January 1601, by the days of the calendar. -/
def instant (m : Moment) : Int :=
  (Date.toDay ⟨1970, 1, 1⟩ * secondsPerDay + m.seconds.toInt) * 1000000000 + m.nanoseconds.toNat

theorem toDay_1970 : Date.toDay ⟨1970, 1, 1⟩ = daysTo1970 := by decide

/-- There are the date and the time of day. -/
theorem valid_stamp (m : Moment) : m.stamp.Valid where
  date := m.valid_date
  hour_lt := by
    have := m.secondOfDay_lt
    show m.secondOfDay / 3600 < 24
    omega
  minute_lt := Nat.mod_lt _ (by decide)
  second_lt := Nat.mod_lt _ (by decide)
  fraction_lt := (places_exact m.nanoseconds_lt).2

theorem nanosecond_stamp (m : Moment) : m.stamp.nanosecond = m.nanoseconds.toNat :=
  (places_exact m.nanoseconds_lt).1

/-- They are those of the moment. -/
theorem instant_stamp (m : Moment) : m.stamp.instant = m.instant := by
  have day : m.date.toDay = m.seconds.toInt / secondsPerDay + daysTo1970 := Date.toDay_ofDay _
  have seconds : m.stamp.seconds = daysTo1970 * secondsPerDay + m.seconds.toInt := by
    simp only [Stamp.seconds, stamp, day, secondOfDay, secondsPerDay]
    omega
  rw [Stamp.instant, nanosecond_stamp, seconds, instant, toDay_1970]

/-- The fraction has no more digits than it takes. -/
theorem fewest_stamp (m : Moment) : m.stamp.Fewest where
  places_mem := by
    show places m.nanoseconds.toNat ∈ [0, 3, 6, 9]
    rcases places_spec m.nanoseconds.toNat with ⟨h, -⟩ | ⟨h, -⟩ | ⟨h, -⟩ | ⟨h, -⟩ <;> simp [h]
  places_le := by
    intro count allowed ⟨fraction, exact⟩
    rw [nanosecond_stamp] at exact
    exact places_le m.nanoseconds_lt allowed exact

/-- Moments with one text are one instant. -/
theorem instant_eq_of_text {m m' : Moment} (h : m.text = m'.text) : m.instant = m'.instant := by
  have read := m.read?_text
  rw [h, read?_text] at read
  rw [← instant_stamp, ← instant_stamp, Option.some.inj read]

end Moment

end PropertyStore
