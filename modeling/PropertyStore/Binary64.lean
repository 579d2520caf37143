import PropertyStore.Decimal.Shortest

/-!
# Binary fractions

A binary fraction of eight bytes is kept as its bits: a sign, eleven bits of exponent,
fifty-two of fraction. One of four bytes, with eight and twenty-three, is widened to it
without loss.

In writing it is the shortest decimal that is nearer to it than to any other binary
fraction of eight bytes.
-/

namespace PropertyStore

/-- A binary fraction, as its sixty-four bits. -/
structure Binary64 where
  /-- The bits, the sign highest. -/
  bits : UInt64
  deriving DecidableEq, Repr

namespace Binary64

/-- How many fractions there are under one exponent: two to the fifty-second. -/
def fractions : Nat := 0x10000000000000

/-- Whether the sign is set. -/
def isNegative (x : Binary64) : Bool := 2048 * fractions ≤ x.bits.toNat

/-- The eleven bits of exponent. -/
def exponentBits (x : Binary64) : Nat := x.bits.toNat / fractions % 2048

/-- The fifty-two bits of fraction. -/
def fractionBits (x : Binary64) : Nat := x.bits.toNat % fractions

/-- Whether the bits stand for no number. -/
def isNaN (x : Binary64) : Bool := x.exponentBits == 2047 && x.fractionBits != 0

/-- Whether the bits stand for an infinity. -/
def isInfinite (x : Binary64) : Bool := x.exponentBits == 2047 && x.fractionBits == 0

/-- The whole number that the size of a finite fraction is, in units of `2 ^ scale`. -/
def significand (x : Binary64) : Nat :=
  if x.exponentBits = 0 then x.fractionBits else fractions + x.fractionBits

/-- The power of two that a finite fraction's size is counted in. -/
def scale (x : Binary64) : Int := (max x.exponentBits 1 : Nat) - 1075

/-- The numbers that are no nearer to another binary fraction than to the size of this
one: half way to the next on either side, where the next below a power of two is twice
as near. The two ends count when the significand is even. -/
def span (x : Binary64) : Decimal.Span where
  value := 4 * x.significand
  low := 4 * x.significand - if x.fractionBits = 0 ∧ 1 < x.exponentBits then 1 else 2
  high := 4 * x.significand + 2
  closed := x.significand % 2 == 0
  exponent := x.scale - 2

/-- A binary fraction in writing. -/
def text (x : Binary64) : String :=
  let sign := if x.isNegative then "-" else ""
  if x.isNaN then "NaN"
  else if x.isInfinite then sign ++ "inf"
  else if x.significand = 0 then sign ++ "0"
  else sign ++ x.span.shortest.text

/-- The binary fraction with a sign, bits of exponent and bits of fraction. -/
def ofParts (sign exponent fraction : Nat) : Binary64 :=
  ⟨UInt64.ofNat ((sign * 2048 + exponent) * fractions + fraction)⟩

/-- The binary fraction of four bytes with these bits, widened. A fraction too small for
an exponent of its own among four bytes has one among eight. -/
def ofBinary32 (bits : UInt32) : Binary64 :=
  let sign := bits.toNat >>> 31
  let exponent := (bits.toNat >>> 23) % 256
  let fraction := bits.toNat % 0x800000
  if exponent = 255 then ofParts sign 2047 (fraction <<< 29)
  else if exponent ≠ 0 then ofParts sign (exponent + 896) (fraction <<< 29)
  else if fraction = 0 then ofParts sign 0 0
  else
    let top := Nat.log2 fraction
    ofParts sign (top + 874) (fraction <<< (52 - top) - fractions)

end Binary64

end PropertyStore
