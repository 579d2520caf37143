/-!
# Shortest decimals

The decimal number with the fewest digits among those that lie in a span around a
value, and of those the one nearest to the value.

The numbers `d · 10 ^ k` with `d` whole are the grid of exponent `k`. The coarser the
grid, the fewer the digits, so the grids are tried from the coarsest on; the first that
has a point in the span wins. Only the two neighbours of the value on a grid need to be
looked at: if any point of it lies in the span, one of them does.
-/

namespace PropertyStore.Decimal

/-- The number `digits · 10 ^ exponent`. -/
structure Scaled where
  /-- The digits, as a whole number. -/
  digits : Nat
  /-- The power of ten. -/
  exponent : Int
  deriving DecidableEq, Repr

/-- A value and the two ends of the span around it, all in units of `2 ^ exponent`. -/
structure Span where
  /-- The value. -/
  value : Nat
  /-- The lower end. -/
  low : Nat
  /-- The upper end. -/
  high : Nat
  /-- Whether the ends belong to the span. -/
  closed : Bool
  /-- The power of two. -/
  exponent : Int
  deriving DecidableEq, Repr

namespace Span

/-- What units of the span are multiplied by, on the grid of exponent `k`. -/
def numerator (s : Span) (k : Int) : Nat := Nat.pow 2 s.exponent.toNat * Nat.pow 10 (-k).toNat

/-- What points of the grid of exponent `k` are multiplied by, in units of the span. -/
def denominator (s : Span) (k : Int) : Nat := Nat.pow 2 (-s.exponent).toNat * Nat.pow 10 k.toNat

/-- Whether point `d` of the grid of exponent `k` lies in the span. -/
def holds (s : Span) (k : Int) (d : Nat) : Bool :=
  let point := d * s.denominator k
  let low := s.low * s.numerator k
  let high := s.high * s.numerator k
  low < point && point < high || s.closed && (point == low || point == high)

/-- The point of the grid of exponent `k` that lies in the span and is nearest to the
value. Of two at the same distance it is the upper one. -/
def nearest? (s : Span) (k : Int) : Option Nat :=
  let value := s.value * s.numerator k
  let unit := s.denominator k
  let below := value / unit
  let above := if value % unit = 0 then below else below + 1
  match s.holds k below, s.holds k above with
  | true, true => some (if 2 * value < (below + above) * unit then below else above)
  | true, false => some below
  | false, true => some above
  | false, false => none

/-- The first grid with a point in the span, of `count` grids from exponent `k` down. -/
def search (s : Span) : Nat → Int → Scaled
  | 0, k => ⟨s.value * s.numerator k / s.denominator k, k⟩
  | count + 1, k =>
    match s.nearest? k with
    | some d => ⟨d, k⟩
    | none => search s count (k - 1)

/-- An exponent whose grid has no point below the upper end but zero: a number of `n`
binary digits is below `10 ^ (n / 3 + 1)`. -/
def coarsest (s : Span) : Nat := (Nat.log2 s.high + 1 + s.exponent.toNat) / 3 + 1

/-- The decimal with the fewest digits in the span. The value is a point of the grid of
exponent `min s.exponent 0`, so the search ends there at the latest. -/
def shortest (s : Span) : Scaled :=
  s.search (s.coarsest + (-s.exponent).toNat + 1) s.coarsest

end Span

/-- Digits with the point `places` digits before their end, and a zero before the point
where nothing else stands. -/
def pointed (ds : List Char) (places : Nat) : List Char :=
  let ds := List.replicate (places + 1 - ds.length) '0' ++ ds
  ds.take (ds.length - places) ++ '.' :: ds.drop (ds.length - places)

/-- A decimal in writing: never with an exponent, and with a point only before a
fraction. -/
def Scaled.text (d : Scaled) : String :=
  let ds := Nat.toDigits 10 d.digits
  if 0 ≤ d.exponent then
    String.ofList (ds ++ List.replicate d.exponent.toNat '0')
  else
    String.ofList (pointed ds (-d.exponent).toNat)

end PropertyStore.Decimal
