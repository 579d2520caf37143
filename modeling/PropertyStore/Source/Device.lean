import PropertyStore.ReadError

/-!
# Devices

A device holds bytes and delivers them from a position on, in portions of its own
choosing that may change from read to read. It may fail: reads from some position on, or
every change of position. Bytes before the position of failure are still delivered. A read
of no bytes does not reach the device.

`fill` asks until it has all it wants or the device has no more; `readExact` takes no
less than it wants.
-/

namespace PropertyStore

/-- Bytes behind a reader that delivers them in portions and may fail. -/
structure Device where
  /-- The bytes. -/
  content : Array UInt8
  /-- The position of the next byte to be delivered. -/
  position : Nat
  /-- How many reads have been answered. -/
  reads : Nat := 0
  /-- The most bytes that are delivered in answer to a read, by its number. -/
  portion : Nat → Nat
  /-- The position from which on reads fail. -/
  faultAt : Option Nat
  /-- Whether changes of position fail. -/
  seekFails : Bool
  /-- What a failure says of itself. -/
  faultText : String

namespace Device

/-- The failure of the device. -/
def failure (d : Device) : ReadError := .device d.faultText

/-- Where the bytes end that can be delivered. -/
def deliverable (d : Device) : Nat := min d.content.size (d.faultAt.getD d.content.size)

/-- Whether a read at the position fails. -/
def faulty (d : Device) : Bool := d.faultAt.any (· ≤ d.position)

/-- Up to `n` bytes from the position on, as many as the device cares to deliver. -/
def read (d : Device) (n : Nat) : Except ReadError (List UInt8 × Device) :=
  if n = 0 then
    .ok ([], d)
  else if d.faulty then
    .error d.failure
  else
    let stop := d.position + min (min n (d.portion d.reads)) (d.deliverable - d.position)
    .ok ((d.content.extract d.position stop).toList,
      { d with position := stop, reads := d.reads + 1 })

/-- Up to `n` bytes from the position on, fewer only if the device has no more. The device
is told also after a failure: what it delivered before is gone. -/
def fill (d : Device) (n : Nat) : Except ReadError (List UInt8) × Device :=
  if n = 0 then
    (.ok [], d)
  else
    match d.read n with
    | .error e => (.error e, d)
    | .ok ([], d) => (.ok [], d)
    | .ok (b :: bs, d) =>
      let (more, d) := fill d (n - (b :: bs).length)
      (more.map (b :: bs ++ ·), d)
termination_by n
decreasing_by
  simp only [List.length_cons]
  omega

/-- Exactly `n` bytes from the position on. -/
def readExact (d : Device) (n : Nat) : Except ReadError (List UInt8) × Device :=
  match d.fill n with
  | (.error e, d) => (.error e, d)
  | (.ok bs, d) =>
    (if bs.length < n then .error (.device "failed to fill whole buffer") else .ok bs, d)

/-- The device at another position. -/
def seek (d : Device) (position : Nat) : Except ReadError Device :=
  if d.seekFails then .error d.failure else .ok { d with position }

end Device

end PropertyStore
