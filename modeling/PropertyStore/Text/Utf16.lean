import PropertyStore.LittleEndian

/-!
# Text in units of two bytes

A character below `U+10000` is one unit. Any other is a pair of surrogates: a high
unit, then a low one, with ten bits of the character in each. A surrogate outside such
a pair stands for no character: `decode?` refuses a text that has one, `decodeLossy`
puts the replacement character in its place.
-/

namespace PropertyStore.Text.Utf16

/-! ### Units and bytes -/

/-- The units that pairs of bytes make, low byte first. An odd last byte is left out. -/
def units : List UInt8 → List UInt16
  | low :: high :: rest => UInt16.ofNat (low.toNat + 256 * high.toNat) :: units rest
  | _ => []

/-- The bytes of units, low byte first. -/
def bytes (us : List UInt16) : List UInt8 := us.flatMap fun u => LittleEndian.bytes 2 u.toNat

/-- The units before the first zero. -/
def beforeZero (us : List UInt16) : List UInt16 := us.takeWhile (· != 0)

/-! ### Surrogates -/

/-- Whether a unit may start a pair. -/
def isHigh (u : UInt16) : Bool := 0xD800 ≤ u && u < 0xDC00

/-- Whether a unit may end a pair. -/
def isLow (u : UInt16) : Bool := 0xDC00 ≤ u && u < 0xE000

/-- The character of a pair. -/
def pair (high low : UInt16) : Char :=
  Char.ofNat (0x10000 + (high.toNat - 0xD800) * 0x400 + (low.toNat - 0xDC00))

/-- The character of a unit that is no surrogate. -/
def single (u : UInt16) : Char := Char.ofNat u.toNat

/-- What stands for a surrogate that has no partner. -/
def replacement : Char := Char.ofNat 0xFFFD

/-! ### Writing -/

/-- The units of a character. -/
def encodeChar (c : Char) : List UInt16 :=
  if c.toNat < 0x10000 then
    [UInt16.ofNat c.toNat]
  else
    [UInt16.ofNat (0xD800 + (c.toNat - 0x10000) / 0x400),
      UInt16.ofNat (0xDC00 + (c.toNat - 0x10000) % 0x400)]

/-- The units of a text. -/
def encode (cs : List Char) : List UInt16 := cs.flatMap encodeChar

/-! ### Reading -/

/-- The text whose units these are, if every surrogate has its partner. -/
def decode? : List UInt16 → Option (List Char)
  | [] => some []
  | [u] => if isHigh u || isLow u then none else some [single u]
  | u :: v :: rest =>
    if isHigh u then
      if isLow v then (decode? rest).map (pair u v :: ·) else none
    else if isLow u then none
    else (decode? (v :: rest)).map (single u :: ·)

/-- The text whose units these are, with the replacement character for every surrogate
that has no partner. -/
def decodeLossy : List UInt16 → List Char
  | [] => []
  | [u] => [if isHigh u || isLow u then replacement else single u]
  | u :: v :: rest =>
    if isHigh u && isLow v then pair u v :: decodeLossy rest
    else (if isHigh u || isLow u then replacement else single u) :: decodeLossy (v :: rest)

end PropertyStore.Text.Utf16
