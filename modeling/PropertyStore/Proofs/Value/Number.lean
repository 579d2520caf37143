import PropertyStore.Proofs.Text.Numeral
import PropertyStore.Proofs.Value.Reading

/-!
# Numbers in writing

A number in a record is written in one of four ways: signed or unsigned in base ten, a status code
in eight digits of base sixteen, an amount of money with a point and four places. Each way has a
strict reader. None takes a zero in front that is not needed, and none takes more places or digits,
or fewer, than are always written.

What is written of a number is read back as the number that the record's bytes are
(`display_denotes`), so records of one kind that are written alike have the same bytes.
-/

namespace PropertyStore

open Text

/-! ### Reading -/

namespace Text.Numeral

/-- The number that digits of base ten stand for, if no zero in front of them could be left out. -/
def natural? : List Char → Option Nat
  | [] => none
  | c :: cs => if c = '0' ∧ cs ≠ [] then none else number? 10 decimalValue? (c :: cs)

/-- The number behind a sign, if there is a sign. -/
def signed? (read? : List Char → Option Nat) : List Char → Option Int
  | [] => none
  | c :: cs => if c = '-' then (read? cs).map (- Int.ofNat ·) else (read? (c :: cs)).map Int.ofNat

/-- The number of ten-thousandths that digits with a point and four places stand for. -/
def tenThousandths? (cs : List Char) : Option Nat :=
  match cs.dropWhile Char.isDigit with
  | '.' :: places =>
    if places.length = 4 then do
      let whole ← natural? (cs.takeWhile Char.isDigit)
      let part ← number? 10 decimalValue? places
      return 10000 * whole + part
    else none
  | _ => none

/-- The number that eight digits of base sixteen stand for, behind the mark of that base. -/
def status? : List Char → Option Nat
  | '0' :: 'x' :: cs => if cs.length = 8 then hexNumber? cs else none
  | _ => none

/-! ### Digits read back -/

theorem natural?_toDigits (n : Nat) : natural? (Nat.toDigits 10 n) = some n := by
  obtain ⟨c, cs, digits, lead⟩ := exists_toDigits_eq n
  have read : number? 10 decimalValue? (Nat.toDigits 10 n) = some n :=
    number?_toDigits (by decide) decimalValue?_digitChar n
  have needed : ¬ (c = '0' ∧ cs ≠ []) := by
    rintro ⟨zero, more⟩
    rw [lead zero] at digits
    exact more (List.cons.inj digits).2.symm
  rw [digits] at read ⊢
  rw [natural?, if_neg needed, read]

theorem tenThousandths?_append (n : Nat) :
    tenThousandths? (Nat.toDigits 10 (n / 10000) ++
      '.' :: fixed 10 lowerDigit 4 (n % 10000)) = some n := by
  have digits : ∀ c ∈ Nat.toDigits 10 (n / 10000), c.isDigit := fun _ mem =>
    Nat.isDigit_of_mem_toDigits (by decide) (by decide) mem
  have point : '.'.isDigit = false := rfl
  have part : number? 10 decimalValue? (fixed 10 lowerDigit 4 (n % 10000)) = some (n % 10000) :=
    number?_fixed (by decide) decimalValue?_lowerDigit (Nat.mod_lt n (by decide))
  obtain ⟨front, rest⟩ := span_digits digits point (fixed 10 lowerDigit 4 (n % 10000))
  have four : (fixed 10 lowerDigit 4 (n % 10000)).length = 4 := length_fixed _ _ _ _
  rw [tenThousandths?, rest]
  simp only [four, if_true, front, natural?_toDigits, part, Option.bind_eq_bind, Option.bind_some]
  exact congrArg some (Nat.div_add_mod n 10000)

/-- What is written of a number starts with a digit. -/
theorem head?_toDigits (n : Nat) (rest : List Char) :
    (Nat.toDigits 10 n ++ rest).head?.any Char.isDigit := by
  obtain ⟨c, cs, digits, -⟩ := exists_toDigits_eq n
  have mem : c ∈ Nat.toDigits 10 n := by
    rw [digits]
    exact List.mem_cons_self
  rw [digits]
  exact Nat.isDigit_of_mem_toDigits (by decide) (by decide) mem

/-- A number is read back from behind its sign, if it starts with a digit there. -/
theorem signed?_sign {read? : List Char → Option Nat} {n : Int} {cs : List Char}
    (read : read? cs = some n.natAbs) (starts : cs.head?.any Char.isDigit) :
    signed? read? ((if n < 0 then "-" else "").toList ++ cs) = some n := by
  obtain - | ⟨c, cs⟩ := cs
  · cases starts
  · by_cases negative : n < 0
    · have value : - Int.ofNat n.natAbs = n := by
        rw [Int.ofNat_eq_natCast]
        omega
      rw [if_pos negative]
      show signed? read? ('-' :: c :: cs) = _
      rw [signed?, if_pos rfl, read, Option.map_some, value]
    · have value : Int.ofNat n.natAbs = n := by
        rw [Int.ofNat_eq_natCast]
        omega
      have digit : c.isDigit := starts
      have unsigned : c ≠ '-' := by
        rintro rfl
        exact absurd digit (by decide)
      rw [if_neg negative]
      show signed? read? (c :: cs) = _
      rw [signed?, if_neg unsigned, read, Option.map_some, value]

end Text.Numeral

/-! ### Records -/

open LittleEndian Text.Numeral

/-- The number that a text stands for, read in the way in which numbers of a kind are written. -/
def ValueType.number? (t : ValueType) (text : String) : Option Int :=
  match t with
  | .int8 | .int16 | .int32 | .int64 => signed? natural? text.toList
  | .currency => signed? tenThousandths? text.toList
  | .uint8 | .uint16 | .uint32 | .uint64 => (natural? text.toList).map Int.ofNat
  | .error => (status? text.toList).map Int.ofNat
  | _ => none

namespace Record

variable {r r' : Record} {w : Nat}

theorem signed?_signedText (n : Int) : signed? natural? (signedText n).toList = some n := by
  have starts := head?_toDigits n.natAbs []
  rw [List.append_nil] at starts
  rw [signedText, String.toList_append, Nat.toList_repr]
  exact signed?_sign (natural?_toDigits _) starts

theorem signed?_currencyText (n : Int) :
    signed? tenThousandths? (currencyText n).toList = some n := by
  have text : (currencyText n).toList = (if n < 0 then "-" else "").toList ++
      (Nat.toDigits 10 (n.natAbs / 10000) ++
        '.' :: Numeral.fixed 10 lowerDigit 4 (n.natAbs % 10000)) := by
    simp [currencyText, decimal]
  rw [text]
  exact signed?_sign (tenThousandths?_append _) (head?_toDigits _ _)

theorem status?_statusText {n : Nat} (fits : n < Nat.pow 16 8) :
    status? (statusText n).toList = some n := by
  have text : (statusText n).toList = '0' :: 'x' :: Numeral.fixed 16 upperDigit 8 n := by
    simp [statusText, upperHex]
  rw [text, status?, if_pos (length_fixed _ _ _ _), hexNumber?_fixed hexValue?_upperDigit fits]

/-- A signed number is shown, and read back from what is shown. -/
theorem number?_of_signed (assigned : r.valueType.interpretation? = some .signed)
    (fixed : r.valueType.encoding = .fixed w) (whole : r.data.length = w) :
    r.signed = .ok (toInt r.data) ∧ r.valueType.number? r.display = some (toInt r.data) := by
  have read : r.signed = .ok (toInt r.data) := by
    rw [signed_eq_fixedInt assigned fixed, fixedInt, fixed_of_length whole, ok_map]
  refine ⟨read, ?_⟩
  have shown : r.display = Reading.written r.valueType (.signed (toInt r.data)) := by
    rw [display_eq assigned, Record.read, read]
    rfl
  rw [shown, Reading.written]
  obtain ⟨size, key, t, data, codepage⟩ := r
  cases t <;> cases assigned
  case currency => exact signed?_currencyText _
  all_goals exact signed?_signedText _

/-- An unsigned number is shown, and read back from what is shown. -/
theorem number?_of_unsigned (assigned : r.valueType.interpretation? = some .unsigned)
    (fixed : r.valueType.encoding = .fixed w) (whole : r.data.length = w) :
    r.unsigned = .ok (toNat r.data) ∧ r.valueType.number? r.display = some (toNat r.data : Int) := by
  have read : r.unsigned = .ok (toNat r.data) := by
    rw [unsigned_eq_fixedNat assigned fixed, fixedNat, fixed_of_length whole, ok_map]
  refine ⟨read, ?_⟩
  have shown : r.display = Reading.written r.valueType (.unsigned (toNat r.data)) := by
    rw [display_eq assigned, Record.read, read]
    rfl
  rw [shown, Reading.written]
  have fits := toNat_lt r.data
  obtain ⟨size, key, t, data, codepage⟩ := r
  have plain (n : Nat) : (natural? (Nat.repr n).toList).map Int.ofNat = some (n : Int) := by
    rw [Nat.toList_repr, natural?_toDigits, Option.map_some, Int.ofNat_eq_natCast]
  cases t <;> cases assigned
  case error =>
    cases fixed
    rw [whole] at fits
    exact congrArg (Option.map Int.ofNat) (status?_statusText fits)
  all_goals exact plain _

/-- **What is shown of a number denotes it.** If a record has as many bytes as numbers of its kind
have, they are a number, signed or not by the kind, and what is shown of the record is read back as
that number. So two records of the kind are shown alike only if they have the same bytes. -/
theorem display_denotes (r : Record) {w : Nat} (fixed : r.valueType.encoding = .fixed w)
    (whole : r.data.length = w) :
    (r.valueType.interpretation? = some .signed →
        r.signed = .ok (toInt r.data) ∧ r.valueType.number? r.display = some (toInt r.data)) ∧
      (r.valueType.interpretation? = some .unsigned →
        r.unsigned = .ok (toNat r.data) ∧
          r.valueType.number? r.display = some (toNat r.data : Int)) ∧
      (r.valueType.interpretation? ∈ [some .signed, some .unsigned] →
        ∀ r' : Record, r'.valueType = r.valueType → r'.data.length = w →
          r'.display = r.display → r'.data = r.data) := by
  refine ⟨fun assigned => number?_of_signed assigned fixed whole,
    fun assigned => number?_of_unsigned assigned fixed whole, ?_⟩
  intro numeric r' same whole' alike
  have width : r'.data.length = r.data.length := by rw [whole, whole']
  have number : r'.valueType.number? r'.display = r.valueType.number? r.display := by
    rw [alike, same]
  simp only [List.mem_cons, List.not_mem_nil, or_false] at numeric
  rcases numeric with assigned | assigned
  · have assigned' : r'.valueType.interpretation? = some .signed := by rw [same, assigned]
    rw [(number?_of_signed assigned' (same ▸ fixed) whole').2,
      (number?_of_signed assigned fixed whole).2, Option.some.injEq] at number
    exact toInt_inj width number
  · have assigned' : r'.valueType.interpretation? = some .unsigned := by rw [same, assigned]
    rw [(number?_of_unsigned assigned' (same ▸ fixed) whole').2,
      (number?_of_unsigned assigned fixed whole).2, Option.some.injEq] at number
    exact toNat_inj width (Int.ofNat_inj.mp number)

/-- A record with a number of eight bytes. -/
def eightBytes (t : ValueType) (n : Int) : Record where
  size := 21
  key := .numeric 1
  valueType := t
  data := bytesOfInt 8 n
  codepage := .windows1252

/-- The least number of eight bytes, and half a unit of money that is owed. -/
theorem display_denotes_least :
    ValueType.encoding .int64 = .fixed 8 ∧ ValueType.encoding .currency = .fixed 8 ∧
      (bytesOfInt 8 (-9223372036854775808)).length = 8 ∧ (bytesOfInt 8 (-5000)).length = 8 ∧
      (eightBytes .int64 (-9223372036854775808)).signed = .ok (-9223372036854775808) ∧
      ValueType.number? .int64 "-9223372036854775808" = some (-9223372036854775808) ∧
      ValueType.number? .currency "-0.5000" = some (-5000) ∧
      (eightBytes .currency (-5000)).display ≠ (eightBytes .currency 5000).display := by
  have least := (display_denotes (eightBytes .int64 (-9223372036854775808)) (w := 8) rfl rfl).1 rfl
  have owed := display_denotes (eightBytes .currency (-5000)) (w := 8) rfl rfl
  refine ⟨rfl, rfl, rfl, rfl, least.1, least.2, (owed.1 rfl).2, fun alike => ?_⟩
  have same := owed.2.2 (by decide) (eightBytes .currency 5000) rfl rfl alike.symm
  exact absurd same (by decide)

end Record

end PropertyStore
