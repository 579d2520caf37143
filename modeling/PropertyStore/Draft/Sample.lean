import PropertyStore.Draft

/-!
# Two stores to try things on

One has a single set with a single text. The other has a set of summary information
with five well-known properties, and a set of user defined properties with two names.
-/

namespace PropertyStore.StoreDraft

/-- The identifier of the one set of `reference`. -/
def referenceIdentifier : Guid :=
  .ofFields 0x46588AE2 0x4CBC 0x4338 #v[0xBB, 0xFC, 0x13, 0x93, 0x26, 0x98, 0x6D, 0xCE]

/-- The text of the one record of `reference`. -/
def referenceText : String := "S-1-5-21-4060289323-199701022-3924801681-1000"

/-- A store with a single text. -/
def reference : StoreDraft where
  sets := [{ identifier := referenceIdentifier, records := [.string 4 referenceText] }]

/-- The ticks of the evening of the 25th of July 2009, at eleven o'clock. -/
def summaryTicks : Nat := 128930364000000000

/-- The title in `summary`, in bytes, with a zero after it. -/
def summaryTitle : List UInt8 :=
  ("Quarterly report".toList.map fun c => UInt8.ofNat c.toNat) ++ [0]

/-- Five well-known properties, then two that a user has named. -/
def summary : StoreDraft where
  sets := [
    { identifier := FormatClass.identifier .summaryInformation
      records := [
        .numeric 0x01 (ValueType.code .int16) (LittleEndian.bytes 2 1252),
        .numeric 0x02 (ValueType.code .codepageString) (countedValue summaryTitle),
        .string 0x04 "Ana Lopez",
        .numeric 0x0C (ValueType.code .filetime) (LittleEndian.bytes 8 summaryTicks),
        .numeric 0x0E (ValueType.code .int32) (LittleEndian.bytes 4 12)] },
    { identifier := FormatClass.identifier .userDefinedProperties
      records := [
        .named "Reviewed" (ValueType.code .boolean) [1],
        .named "Build" (ValueType.code .uint32) (LittleEndian.bytes 4 4711)] }]

end PropertyStore.StoreDraft
