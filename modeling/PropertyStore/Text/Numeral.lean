/-!
# Numerals

Numbers written with a fixed count of digits, in base ten and in base sixteen with
either case of letters, and the digits of base sixteen read back. A number with more
digits than there is room for loses the upper ones.
-/

namespace PropertyStore.Text.Numeral

/-- The `width` lowest digits of a number in a base, highest first. -/
def fixed (base : Nat) (digit : Nat → Char) : Nat → Nat → List Char
  | 0, _ => []
  | width + 1, n => fixed base digit width (n / base) ++ [digit (n % base)]

@[simp] theorem length_fixed (base : Nat) (digit : Nat → Char) (width n : Nat) :
    (fixed base digit width n).length = width := by
  induction width generalizing n with
  | zero => rfl
  | succ width ih => simp [fixed, ih]

/-- Every character of a number in a fixed count of digits is a digit. -/
theorem exists_of_mem_fixed {base : Nat} {digit : Nat → Char} (pos : 0 < base) {width n : Nat}
    {c : Char} (h : c ∈ fixed base digit width n) : ∃ d < base, c = digit d := by
  induction width generalizing n with
  | zero => cases h
  | succ width ih =>
    rcases List.mem_append.mp h with h | h
    · exact ih h
    · exact ⟨n % base, Nat.mod_lt n pos, List.mem_singleton.mp h⟩

/-- The digit of base sixteen with small letters. -/
def lowerDigit (d : Nat) : Char := Char.ofNat (if d < 10 then 48 + d else 87 + d)

/-- The digit of base sixteen with capital letters. -/
def upperDigit (d : Nat) : Char := Char.ofNat (if d < 10 then 48 + d else 55 + d)

/-- The value of a digit of base sixteen, in either case. -/
def hexValue? (c : Char) : Option Nat :=
  if '0' ≤ c ∧ c ≤ '9' then some (c.toNat - 48)
  else if 'a' ≤ c ∧ c ≤ 'f' then some (c.toNat - 87)
  else if 'A' ≤ c ∧ c ≤ 'F' then some (c.toNat - 55)
  else none

/-- A number in base ten, in `width` digits. -/
def decimal (width n : Nat) : String := String.ofList (fixed 10 lowerDigit width n)

/-- A number in base sixteen, in `width` digits with small letters. -/
def lowerHex (width n : Nat) : String := String.ofList (fixed 16 lowerDigit width n)

/-- A number in base sixteen, in `width` digits with capital letters. -/
def upperHex (width n : Nat) : String := String.ofList (fixed 16 upperDigit width n)

end PropertyStore.Text.Numeral
