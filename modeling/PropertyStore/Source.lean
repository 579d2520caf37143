import PropertyStore.Source.Device

/-!
# Sources

A source has a length and gives any range of its bytes. There are two: bytes in memory,
and a device that is told where to read. A range that runs past the end is refused
without a read.
-/

namespace PropertyStore

/-- Something that gives any range of its bytes. -/
class ByteSource (σ : Type) where
  /-- How many bytes there are. -/
  size : σ → Nat
  /-- The `n` bytes from an offset on, and the source after the read. -/
  read : σ → (offset n : Nat) → Except ReadError (List UInt8) × σ

/-- Bytes in memory. -/
structure MemorySource where
  /-- The bytes. -/
  bytes : Array UInt8

/-- The range of bytes in memory. An offset past the end counts as the end, and even a
range of no bytes is refused there. -/
def MemorySource.read (s : MemorySource) (offset n : Nat) : Except ReadError (List UInt8) :=
  if offset + n ≤ s.bytes.size then
    .ok (s.bytes.extract offset (offset + n)).toList
  else
    let start := min offset s.bytes.size
    .error (.outOfData start n (s.bytes.size - start))

instance : ByteSource MemorySource where
  size s := s.bytes.size
  read s offset n := (s.read offset n, s)

/-- A device whose length has been measured. -/
structure SeekSource where
  /-- The device. -/
  device : Device
  /-- Where its bytes end. -/
  length : Nat

namespace SeekSource

/-- Measures a device: its position is moved to the end, then back to the start. -/
def ofDevice (d : Device) : Except ReadError SeekSource := do
  let d ← d.seek d.content.size
  let length := d.position
  let d ← d.seek 0
  return ⟨d, length⟩

/-- The range of bytes from the device. A range of no bytes is given at any offset. -/
def read (s : SeekSource) (offset n : Nat) : Except ReadError (List UInt8) × SeekSource :=
  if s.length - offset < n then
    (.error (.outOfData offset n (s.length - offset)), s)
  else
    match s.device.seek offset with
    | .error e => (.error e, s)
    | .ok device =>
      let (bytes, device) := device.readExact n
      (bytes, { s with device })

end SeekSource

instance : ByteSource SeekSource where
  size s := s.length
  read s offset n := s.read offset n

end PropertyStore
