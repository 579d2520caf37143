import PropertyStore.Moment

/-!
# Instants

An instant is a count of ticks, ten million to the second, since the first of January
1601 in universal time. It is shown as the moment that it is in the calendar, or by its
count if the calendar has no date for it. There always is one: the last lies in the year
60056.
-/

namespace PropertyStore

/-- A count of ticks since the first of January 1601. -/
structure Filetime where
  /-- The count, ten million to the second. -/
  ticks : UInt64
  deriving DecidableEq, Repr

namespace Filetime

/-- Ticks in a second. -/
def ticksPerSecond : Nat := 10000000

/-- Seconds from the first of January 1601 to that of 1970. -/
def secondsTo1970 : Nat := 11644473600

/-! ### Exact counts -/

/-- Whole seconds since the first of January 1601. -/
def seconds (t : Filetime) : Nat := t.ticks.toNat / ticksPerSecond

/-- Billionths of a second past the last whole one. -/
def nanoseconds (t : Filetime) : Nat := t.ticks.toNat % ticksPerSecond * 100

/-- Whole seconds since the first of January 1970, negative before it. -/
def secondsSince1970 (t : Filetime) : Int := (t.seconds : Int) - secondsTo1970

/-! ### Counts in words -/

/-- A number in a word of eight bytes with a sign, if it has room there. -/
def signed? (n : UInt64) : Option Int64 :=
  if n.toNat < 0x8000000000000000 then some (.ofNat n.toNat) else none

/-- A number in a word of four bytes, if it has room there. -/
def narrow? (n : UInt64) : Option UInt32 :=
  if n.toNat < 0x100000000 then some (.ofNat n.toNat) else none

/-- The moment of an instant, if the counts have room in their words and the calendar has a date
for it. -/
def moment? (t : Filetime) : Option Moment := do
  let seconds ← signed? (t.ticks / .ofNat ticksPerSecond)
  let ticks ← narrow? (t.ticks % .ofNat ticksPerSecond)
  Moment.ofTimestamp? (seconds - .ofNat secondsTo1970) (ticks * 100)

/-- The instant in writing. -/
def text (t : Filetime) : String :=
  match t.moment? with
  | some m => m.text
  | none => "0x" ++ Text.Numeral.lowerHex 16 t.ticks.toNat

end Filetime

end PropertyStore
