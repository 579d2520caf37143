import PropertyStore.Text.Numeral

/-!
# Bytes as text

Bytes written as two digits of base sixteen each, with small letters and nothing
between them, and read back.
-/

namespace PropertyStore.Text.Hex

open Numeral

/-- The two digits of each byte. -/
def digits (bs : List UInt8) : List Char :=
  bs.flatMap fun b => fixed 16 lowerDigit 2 b.toNat

/-- Bytes as text. -/
def encode (bs : List UInt8) : String := String.ofList (digits bs)

/-- The bytes that pairs of digits stand for. -/
def ofDigits? : List Char → Option (List UInt8)
  | [] => some []
  | [_] => none
  | a :: b :: rest => do
    let high ← hexValue? a
    let low ← hexValue? b
    let bs ← ofDigits? rest
    return UInt8.ofNat (16 * high + low) :: bs

/-- The bytes that a text stands for, if it is one. -/
def decode? (text : String) : Option (List UInt8) := ofDigits? text.toList

end PropertyStore.Text.Hex
