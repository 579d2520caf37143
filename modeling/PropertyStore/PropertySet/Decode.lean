import PropertyStore.PropertySet
import PropertyStore.Record.Decode

/-!
# Reading sets

A set is its size, a signature, an identifier, and a chain of records:

    size:4 "1SPS" identifier:16 record record ... 0:4 trailing

The chain ends where a record's size would be zero, or where the set does. What follows
the zero is counted and passed over. The records are read in a window of the declared
size, each in a window of its own inside it, so nothing a record says of itself can reach
past its set.
-/

namespace PropertyStore.PropertySet

/-- The length of a set that has no records: its size, signature and identifier. -/
def headerSize : Nat := 24

/-- The chain of records at a cursor, and the cursor past its end. -/
def decodeRecords (layout : RecordLayout) (options : DecodeOptions) (window : Cursor) :
    Except DecodeError (List Record × Cursor) :=
  if window.remaining = 0 then
    .ok ([], window)
  else
    match window.peekU32 with
    | .error e => .error (.read e)
    | .ok size =>
      if size = 0 then do
        let window ← window.skip 4
        return ([], window)
      else if h : size.toNat ≤ window.remaining then do
        let record ← Record.decode layout options (window.window size.toNat h)
        let (records, window) ← decodeRecords layout options (window.advance size.toNat h)
        return (record :: records, window)
      else
        .error (.sizeMismatch window.offset size.toNat window.remaining)
termination_by window.remaining
decreasing_by
  have : size.toNat ≠ 0 := fun zero => ‹¬size = 0› (UInt32.toNat_inj.mp zero)
  simp only [Cursor.remaining_advance]
  omega

/-- The next sixteen bytes, as an identifier. -/
def decodeIdentifier (window : Cursor) : Except ReadError (Guid × Cursor) :=
  if h : 16 ≤ window.remaining then
    .ok (⟨(window.window 16 h).unread, by simp⟩, window.advance 16 h)
  else
    .error (window.outOfData 16)

/-- The set that fills a window, given the size it declares. -/
def decodeWindow (options : DecodeOptions) (size : UInt32) (window : Cursor) :
    Except DecodeError PropertySet := do
  let window ← window.skip 4
  let (found, afterSignature) ← window.take 4
  match Signature.ofBytes? found with
  | none => .error (.invalidSignature window.offset found)
  | some signature =>
    let (identifier, chain) ← decodeIdentifier afterSignature
    let (records, rest) ← decodeRecords (.ofIdentifier identifier) options chain
    return { size, signature, identifier, records, trailingBytes := rest.remaining }

/-- The set at a cursor, and the cursor past it. -/
def decode (options : DecodeOptions) (c : Cursor) : Except DecodeError (PropertySet × Cursor) :=
  match c.peekU32 with
  | .error e => .error (.read e)
  | .ok size =>
    if size.toNat < headerSize then
      .error (.sizeMismatch c.offset size.toNat c.remaining)
    else if h : size.toNat ≤ c.remaining then
      (decodeWindow options size (c.window size.toNat h)).map (·, c.advance size.toNat h)
    else
      .error (.read (c.outOfData size.toNat))

/-- A set takes up at least its header. -/
theorem remaining_of_decode {options : DecodeOptions} {c rest : Cursor} {set : PropertySet}
    (h : decode options c = .ok (set, rest)) : rest.remaining + headerSize ≤ c.remaining := by
  unfold decode at h
  split at h
  · cases h
  · next size _ =>
    split at h
    · cases h
    · next large =>
      split at h
      · next fits =>
        cases body : decodeWindow options size (c.window size.toNat fits) with
        | error e => simp [body, Except.map] at h
        | ok inner =>
          simp only [body, Except.map, Except.ok.injEq, Prod.mk.injEq] at h
          rw [← h.2, Cursor.remaining_advance]
          omega
      · cases h

end PropertyStore.PropertySet
