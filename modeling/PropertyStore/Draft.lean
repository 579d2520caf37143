import PropertyStore.FormatClass
import PropertyStore.Signature
import PropertyStore.Text.Utf16
import PropertyStore.ValueType

/-!
# Drafts

A draft says what is to be written: records, the sets that hold them, the store that
holds those. Its bytes are the store. A draft may also say things that no reader takes:
an unknown code, another signature, bytes in place of a record.

Every size is written in four bytes, so one that needs more is written modulo `2 ^ 32`.
-/

namespace PropertyStore

/-- A word of four bytes that counts something. -/
def countBytes (n : Nat) : List UInt8 := LittleEndian.bytes 4 n

/-! ### Values -/

/-- A value that starts with a count of its bytes. -/
def countedValue (bs : List UInt8) : List UInt8 := countBytes bs.length ++ bs

/-- A text in units of two bytes, with a zero after it. -/
def wideText (text : String) : List UInt8 :=
  Text.Utf16.bytes (Text.Utf16.encode text.toList ++ [0])

/-- A value that starts with a count of its units of two bytes, a zero after the text
included. -/
def wideValue (text : String) : List UInt8 :=
  countBytes (Text.Utf16.encode text.toList ++ [0]).length ++ wideText text

/-! ### Records -/

/-- A record to be written. -/
inductive RecordDraft where
  /-- A record keyed by a number, with the code of its value and the value as it is to lie
  there, any count included. -/
  | numeric (entryType : UInt32) (code : UInt16) (value : List UInt8)
  /-- A record keyed by a name, likewise. -/
  | named (name : String) (code : UInt16) (value : List UInt8)
  /-- Bytes in place of a record. -/
  | raw (bytes : List UInt8)
  deriving DecidableEq, Repr

namespace RecordDraft

/-- A record that holds a text in units of two bytes. -/
def string (entryType : UInt32) (text : String) : RecordDraft :=
  .numeric entryType (ValueType.code .unicodeString) (wideValue text)

/-- What follows the key of a record: the code of its value, padding, and the value. -/
def valueBytes (code : UInt16) (value : List UInt8) : List UInt8 :=
  LittleEndian.bytes 2 code.toNat ++ [0, 0] ++ value

/-- Everything but the size, behind the size. -/
def sized (body : List UInt8) : List UInt8 := countBytes (4 + body.length) ++ body

/-- The bytes of a record. -/
def bytes : RecordDraft → List UInt8
  | .numeric entryType code value =>
    sized (countBytes entryType.toNat ++ [0] ++ valueBytes code value)
  | .named name code value =>
    sized (countBytes (wideText name).length ++ [0] ++ wideText name ++ valueBytes code value)
  | .raw bytes => bytes

end RecordDraft

/-! ### Sets and stores -/

/-- A set to be written. -/
structure SetDraft where
  /-- What the set is for. -/
  identifier : Guid
  /-- The records, in order. -/
  records : List RecordDraft := []
  /-- What says how the set is laid out. -/
  signature : List UInt8 := Signature.bytes .serializedPropertyStorage
  /-- Whether four zero bytes end the records. -/
  sentinel : Bool := true
  /-- What comes after them. -/
  trailing : List UInt8 := []
  deriving DecidableEq

/-- Four zero bytes, where they are wanted. -/
def zeroWord (wanted : Bool) : List UInt8 := if wanted then [0, 0, 0, 0] else []

/-- The bytes of a set. -/
def SetDraft.bytes (s : SetDraft) : List UInt8 :=
  RecordDraft.sized (s.signature ++ s.identifier.bytes ++ s.records.flatMap RecordDraft.bytes ++
    zeroWord s.sentinel ++ s.trailing)

/-- A store to be written. -/
structure StoreDraft where
  /-- The sets, in order. -/
  sets : List SetDraft := []
  /-- Whether four zero bytes end the store. -/
  terminator : Bool := true
  deriving DecidableEq

/-- The bytes of a store. -/
def StoreDraft.bytes (s : StoreDraft) : List UInt8 :=
  s.sets.flatMap SetDraft.bytes ++ zeroWord s.terminator

end PropertyStore
