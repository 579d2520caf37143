/-!
# Failed reads

What can go wrong when bytes are asked for: there are too few of them, a position
lies outside the bytes, or the device behind them fails. Offsets count from the
start of the whole input, never from the window that was being read.
-/

namespace PropertyStore

/-- Why bytes could not be read. -/
inductive ReadError where
  /-- More bytes were asked for than are left. -/
  | outOfData (offset requested remaining : Nat)
  /-- The position asked for lies outside the bytes, which end at `stop`. -/
  | seekOutOfRange (offset stop : Nat)
  /-- The device failed and described the failure. -/
  | device (text : String)
  deriving DecidableEq, Repr

/-- The offset at which the read was tried, unless the device failed. -/
def ReadError.offset? : ReadError → Option Nat
  | .outOfData offset _ _ => some offset
  | .seekOutOfRange offset _ => some offset
  | .device _ => none

/-- The failure in words. -/
def ReadError.message : ReadError → String
  | .outOfData offset requested remaining =>
    s!"out of data at offset {offset}: requested {requested} bytes, {remaining} remaining"
  | .seekOutOfRange offset stop =>
    s!"seek to offset {offset} outside of buffer of length {stop}"
  | .device text => text

end PropertyStore
