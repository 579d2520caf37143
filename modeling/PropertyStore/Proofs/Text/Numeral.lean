import PropertyStore.Text.Hex

/-!
# Digits read back

A number is read digit by digit, the highest first. A number that has room in a fixed count of
digits is read back from them (`number?_fixed`), and so is one from as many as it takes
(`number?_toDigits`). In base sixteen the letters may be of either case (`hexNumber?_fixed`). Bytes
are read back from two digits each, so they are known by their digits (`Hex.encode_inj`).
-/

namespace PropertyStore.Text

namespace Numeral

/-- The number that digits of base sixteen stand for, highest first. -/
def hexNumber? (cs : List Char) : Option Nat :=
  cs.foldlM (fun n c => (hexValue? c).map (16 * n + ·)) 0

theorem hexValue?_lowerDigit : ∀ d < 16, hexValue? (lowerDigit d) = some d := by decide

theorem hexValue?_upperDigit : ∀ d < 16, hexValue? (upperDigit d) = some d := by decide

/-- The number that digits of a base stand for, highest first, each by its value. -/
def number? (base : Nat) (value? : Char → Option Nat) (cs : List Char) : Option Nat :=
  cs.foldlM (fun n c => (value? c).map (base * n + ·)) 0

variable {base : Nat} {value? : Char → Option Nat} {digit : Nat → Char} {width n m : Nat}

/-- The last digit counts once, and those before it stand for multiples of the base. -/
theorem number?_concat {front : List Char} {c : Char} {d : Nat}
    (read : number? base value? front = some n) (last : value? c = some d) :
    number? base value? (front ++ [c]) = some (base * n + d) := by
  unfold number? at read ⊢
  rw [List.foldlM_append, read]
  simp [last]

/-- A number is read back from a count of digits in which it has room. -/
theorem number?_fixed (pos : 0 < base) (hd : ∀ d < base, value? (digit d) = some d)
    (room : n < Nat.pow base width) :
    number? base value? (fixed base digit width n) = some n := by
  induction width generalizing n with
  | zero =>
    have : n = 0 := Nat.lt_one_iff.mp room
    rw [this]
    rfl
  | succ width ih =>
    have front : n / base < Nat.pow base width := Nat.div_lt_of_lt_mul (by rwa [Nat.mul_comm])
    have last := hd (n % base) (Nat.mod_lt n pos)
    rw [fixed, number?_concat (ih front) last, Nat.div_add_mod]

theorem hexNumber?_fixed (hd : ∀ d < 16, hexValue? (digit d) = some d)
    (room : n < Nat.pow 16 width) : hexNumber? (fixed 16 digit width n) = some n :=
  number?_fixed (by decide) hd room

/-- A number is read back from as many digits as it takes. -/
theorem number?_toDigits (one : 1 < base) (hd : ∀ d < base, value? d.digitChar = some d)
    (n : Nat) : number? base value? (Nat.toDigits base n) = some n := by
  induction n using Nat.strongRecOn with
  | ind n ih =>
    rw [Nat.toDigits_eq_if one]
    split
    · next small =>
      have first : number? base value? [] = some 0 := rfl
      rw [← List.nil_append [n.digitChar], number?_concat first (hd n small), Nat.mul_zero,
        Nat.zero_add]
    · next large =>
      have front := ih (n / base) (Nat.div_lt_self (by omega) one)
      have last := hd (n % base) (Nat.mod_lt n (by omega))
      rw [number?_concat front last, Nat.div_add_mod]

/-- A digit of base sixteen, with a capital letter if it has one. -/
def isCapital (c : Char) : Bool := "0123456789ABCDEF".toList.contains c

theorem isCapital_iff {c : Char} : isCapital c ↔ ∃ d < 16, c = upperDigit d := by
  have all : "0123456789ABCDEF".toList = (List.range 16).map upperDigit := by decide
  simp [isCapital, all, eq_comm]

/-! ### Base ten -/

/-- The value of a digit of base ten. -/
def decimalValue? (c : Char) : Option Nat := if c.isDigit then some (c.toNat - 48) else none

theorem decimalValue?_lowerDigit : ∀ d < 10, decimalValue? (lowerDigit d) = some d := by decide

theorem decimalValue?_digitChar : ∀ d < 10, decimalValue? d.digitChar = some d := by decide

/-- A number has digits, of which the first is zero for zero alone. -/
theorem exists_toDigits_eq (n : Nat) :
    ∃ c ds, Nat.toDigits 10 n = c :: ds ∧ (c = '0' → n = 0) := by
  induction n using Nat.strongRecOn with
  | ind n ih =>
    rw [Nat.toDigits_eq_if (by decide)]
    split
    · exact ⟨_, [], rfl, Nat.digitChar_eq_zero.mp⟩
    · next large =>
      -- The first digit is that of a tenth of the number, which is not zero.
      obtain ⟨c, ds, digits, lead⟩ := ih (n / 10) (by omega)
      refine ⟨c, ds ++ [(n % 10).digitChar], by rw [digits]; rfl, fun zero => ?_⟩
      have := lead zero
      omega

theorem isDigit_of_mem_fixed {c : Char} (h : c ∈ fixed 10 lowerDigit width n) : c.isDigit := by
  have digit : ∀ d < 10, (lowerDigit d).isDigit := by decide
  obtain ⟨d, hd, rfl⟩ := exists_of_mem_fixed (by decide) h
  exact digit d hd

/-- Digits end at a mark that is none. -/
theorem span_digits {ds : List Char} {mark : Char} (hds : ∀ c ∈ ds, c.isDigit)
    (hmark : mark.isDigit = false) (rest : List Char) :
    (ds ++ mark :: rest).takeWhile Char.isDigit = ds ∧
      (ds ++ mark :: rest).dropWhile Char.isDigit = mark :: rest := by
  have ends : ¬ mark.isDigit = true := by simp [hmark]
  rw [List.takeWhile_append_of_pos hds, List.dropWhile_append_of_pos hds,
    List.takeWhile_cons_of_neg ends, List.dropWhile_cons_of_neg ends, List.append_nil]
  exact ⟨rfl, rfl⟩

end Numeral

namespace Hex

open Numeral

/-- Bytes are read back from their digits, in either case of letters. -/
theorem ofDigits?_flatMap {digit : Nat → Char} (hd : ∀ d < 16, hexValue? (digit d) = some d)
    (bs : List UInt8) : ofDigits? (bs.flatMap fun b => fixed 16 digit 2 b.toNat) = some bs := by
  induction bs with
  | nil => rfl
  | cons b bs ih =>
    have hb := b.toNat_lt
    have high := hd (b.toNat / 16 % 16) (Nat.mod_lt _ (by decide))
    have low := hd (b.toNat % 16) (Nat.mod_lt _ (by decide))
    have whole : 16 * (b.toNat / 16 % 16) + b.toNat % 16 = b.toNat := by omega
    have digits : fixed 16 digit 2 b.toNat =
        [digit (b.toNat / 16 % 16), digit (b.toNat % 16)] := rfl
    rw [List.flatMap_cons, digits, List.cons_append, List.cons_append, List.nil_append, ofDigits?,
      high, low, ih]
    show some (UInt8.ofNat (16 * (b.toNat / 16 % 16) + b.toNat % 16) :: bs) = some (b :: bs)
    rw [whole, UInt8.ofNat_toNat]

/-- Bytes are read back from their text. -/
theorem decode?_encode (bs : List UInt8) : decode? (encode bs) = some bs := by
  rw [decode?, encode, String.toList_ofList]
  exact ofDigits?_flatMap hexValue?_lowerDigit bs

/-- Bytes are known by their text. -/
theorem encode_inj {as bs : List UInt8} (h : encode as = encode bs) : as = bs := by
  have read := decode?_encode as
  rw [h, decode?_encode] at read
  exact (Option.some.inj read).symm

end Hex

end PropertyStore.Text
