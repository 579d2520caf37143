import PropertyStore.PropertySet.Decode
import PropertyStore.Source.Device

/-!
# Streams of sets

A stream takes a store from a device one set at a time and never takes more of it than
the set: four bytes of size, then the rest. It ends at the end of the device, where a
set's size would be zero, or at the first thing that is wrong; from then on it gives
nothing and takes nothing.
-/

namespace PropertyStore

/-- A store that is being taken from a device. -/
structure Stream where
  /-- The device, at the next byte that was not taken. -/
  device : Device
  /-- How the store is to be read. -/
  options : DecodeOptions
  /-- Whether the stream has ended. -/
  ended : Bool
  /-- The offset at which the next set starts. -/
  offset : Nat
  /-- How many sets the stream has given. -/
  setsRead : Nat

namespace Stream

/-- A stream at the start of its store. -/
def ofDevice (device : Device) (options : DecodeOptions) : Stream where
  device := device
  options := options
  ended := false
  offset := 0
  setsRead := 0

/-- The rest of a set whose size has been taken. -/
def readBody (s : Stream) (head : List UInt8) (device : Device) :
    Except DecodeError (Option PropertySet) × Device :=
  let size := LittleEndian.toNat head
  match device.fill (size - 4) with
  | (.error e, device) => (.error (.read e), device)
  | (.ok body, device) =>
    if body.length < size - 4 then
      (.error (.read (.outOfData s.offset size (body.length + 4))), device)
    else
      let c := Cursor.ofBytes (head ++ body).toArray s.offset
      ((PropertySet.decode s.options c).map fun (set, _) => some set, device)

/-- The next set, if the store goes on. One to three bytes that are left over end a store
that has had a set. -/
def readSet (s : Stream) : Except DecodeError (Option PropertySet) × Device :=
  match s.device.fill 4 with
  | (.error e, device) => (.error (.read e), device)
  | (.ok head, device) =>
    if head.length = 0 ∨ head.length < 4 ∧ 0 < s.setsRead then
      (.ok none, device)
    else if head.length < 4 then
      (.error (.read (.outOfData s.offset 4 head.length)), device)
    else if LittleEndian.toNat head = 0 then
      (.ok none, device)
    else if LittleEndian.toNat head < PropertySet.headerSize then
      (.error (.sizeMismatch s.offset (LittleEndian.toNat head) 4), device)
    else
      s.readBody head device

/-- What the stream gives when asked: a set, a failure, or nothing; and the stream after
it. -/
def next (s : Stream) : Option (Except DecodeError PropertySet) × Stream :=
  if s.ended then
    (none, s)
  else
    match s.readSet with
    | (.ok (some set), device) =>
      (some (.ok set),
        { s with device, offset := s.offset + set.size.toNat, setsRead := s.setsRead + 1 })
    | (.ok none, device) => (none, { s with device, ended := true })
    | (.error e, device) => (some (.error e), { s with device, ended := true })

end Stream

end PropertyStore
