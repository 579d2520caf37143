import PropertyStore.Codepage
import PropertyStore.ValueType

/-!
# Records

A record is one property: what keys it, what kind of value it holds, and the bytes of
the value exactly as they were read. What the bytes mean is worked out when it is asked
for, so a record whose value makes no sense in one reading can still be read in another.
-/

namespace PropertyStore

/-- What keys a record in its set. -/
inductive RecordKey where
  /-- A number. -/
  | numeric (entryType : UInt32)
  /-- A name. -/
  | named (name : String)
  deriving DecidableEq, Repr

/-- A property. -/
structure Record where
  /-- The length of the record in its set, its size field included. -/
  size : UInt32
  /-- What keys it. -/
  key : RecordKey
  /-- What kind of value it holds. -/
  valueType : ValueType
  /-- The bytes of the value, without any count before them. -/
  data : List UInt8
  /-- How text in units of one byte is to be read. -/
  codepage : Codepage
  deriving DecidableEq, Repr

namespace Record

/-- The number that keys a record, unless a name does. -/
def entryType? (r : Record) : Option UInt32 :=
  match r.key with
  | .numeric entryType => some entryType
  | .named _ => none

/-- The name that keys a record, unless a number does. -/
def entryName? (r : Record) : Option String :=
  match r.key with
  | .numeric _ => none
  | .named name => some name

end Record

end PropertyStore
