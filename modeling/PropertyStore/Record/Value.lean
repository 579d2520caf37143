import PropertyStore.Binary64
import PropertyStore.Filetime
import PropertyStore.Guid
import PropertyStore.Record
import PropertyStore.Text.Utf16

/-!
# The value of a record

A record's bytes can be read as a truth value, a number, a text, an instant or an
identifier, each only where its kind of value allows it. A kind of fixed width is read
from exactly that many bytes. A text ends before its first zero.
-/

namespace PropertyStore

/-- What a value may be read as. -/
inductive Interpretation where
  /-- A truth value. -/
  | boolean
  /-- A signed number. -/
  | signed
  /-- An unsigned number. -/
  | unsigned
  /-- A binary fraction. -/
  | fraction
  /-- A text. -/
  | text
  /-- An instant. -/
  | instant
  /-- An identifier. -/
  | identifier
  deriving DecidableEq, Repr

/-- An interpretation in writing. -/
def Interpretation.label : Interpretation → String
  | .boolean => "bool"
  | .signed => "i64"
  | .unsigned => "u64"
  | .fraction => "f64"
  | .text => "string"
  | .instant => "filetime"
  | .identifier => "guid"

/-- Why a value could not be read. -/
inductive ValueError where
  /-- Values of this kind are not read so. -/
  | typeMismatch (requested : Interpretation) (found : ValueType)
  /-- The bytes are no text. -/
  | invalidText (valueType : ValueType)
  /-- There are not as many bytes as values of this kind have. -/
  | invalidDataSize (valueType : ValueType) (expected actual : Nat)
  /-- The code stands for no kind of value. -/
  | unknownValueType (code : UInt16)
  deriving DecidableEq, Repr

/-- The failure in words. -/
def ValueError.message : ValueError → String
  | .typeMismatch requested found =>
    "cannot read " ++ found.text ++ " value as " ++ requested.label
  | .invalidText valueType => "invalid text in " ++ valueType.text ++ " value"
  | .invalidDataSize valueType expected actual =>
    valueType.text ++ s!" value has {actual} bytes, expected {expected}"
  | .unknownValueType code => "unknown value type 0x" ++ Text.Numeral.upperHex 4 code.toNat

/-- The kind of value that a code stands for. -/
def ValueType.ofCode (code : UInt16) : Except ValueError ValueType :=
  match ofCode? code with
  | some t => .ok t
  | none => .error (.unknownValueType code)

namespace Record

/-- The bytes of a value that has to have `width` of them. -/
def fixed (r : Record) (width : Nat) : Except ValueError { bs : List UInt8 // bs.length = width } :=
  if h : r.data.length = width then .ok ⟨r.data, h⟩
  else .error (.invalidDataSize r.valueType width r.data.length)

/-- The value of `width` bytes as an unsigned number. -/
def fixedNat (r : Record) (width : Nat) : Except ValueError Nat :=
  (r.fixed width).map fun bs => LittleEndian.toNat bs.val

/-- The value of `width` bytes as a signed number. -/
def fixedInt (r : Record) (width : Nat) : Except ValueError Int :=
  (r.fixed width).map fun bs => LittleEndian.toInt bs.val

/-- The failure of a reading that the record's kind of value does not allow. -/
def mismatch {α : Type} (r : Record) (requested : Interpretation) : Except ValueError α :=
  .error (.typeMismatch requested r.valueType)

/-! ### Truth values and numbers -/

/-- The value as a truth value: any byte but zero is true. -/
def boolean (r : Record) : Except ValueError Bool :=
  match r.valueType with
  | .boolean => (r.fixedNat 1).map (· != 0)
  | _ => r.mismatch .boolean

/-- The value as a signed number; an amount of money in ten-thousandths. -/
def signed (r : Record) : Except ValueError Int :=
  match r.valueType with
  | .int8 => r.fixedInt 1
  | .int16 => r.fixedInt 2
  | .int32 => r.fixedInt 4
  | .int64 | .currency => r.fixedInt 8
  | _ => r.mismatch .signed

/-- The value as an unsigned number; a status code among them. -/
def unsigned (r : Record) : Except ValueError Nat :=
  match r.valueType with
  | .uint8 => r.fixedNat 1
  | .uint16 => r.fixedNat 2
  | .uint32 | .error => r.fixedNat 4
  | .uint64 => r.fixedNat 8
  | _ => r.mismatch .unsigned

/-- The value as a binary fraction of eight bytes. -/
def fraction (r : Record) : Except ValueError Binary64 :=
  match r.valueType with
  | .float32 => (r.fixedNat 4).map fun bits => .ofBinary32 (UInt32.ofNat bits)
  | .float64 => (r.fixedNat 8).map fun bits => ⟨UInt64.ofNat bits⟩
  | _ => r.mismatch .fraction

/-! ### Text -/

/-- The value as a text in units of two bytes, of which there has to be a whole number. -/
def wideText? (r : Record) : Option String :=
  if r.data.length % 2 = 0 then
    (Text.Utf16.decode? (Text.Utf16.beforeZero (Text.Utf16.units r.data))).map String.ofList
  else
    none

/-- The value as a text in units of one byte. -/
def narrowText? (r : Record) : Option String :=
  r.codepage.decode? (r.data.takeWhile (· != 0))

/-- The value as a text, up to its first zero. -/
def text (r : Record) : Except ValueError String :=
  match r.valueType with
  | .unicodeString => r.wideText?.elim (.error (.invalidText r.valueType)) .ok
  | .codepageString | .binaryString => r.narrowText?.elim (.error (.invalidText r.valueType)) .ok
  | _ => r.mismatch .text

/-! ### Instants and identifiers -/

/-- The value as an instant. -/
def instant (r : Record) : Except ValueError Filetime :=
  match r.valueType with
  | .filetime => (r.fixedNat 8).map fun ticks => ⟨UInt64.ofNat ticks⟩
  | _ => r.mismatch .instant

/-- The value as an identifier. -/
def identifier (r : Record) : Except ValueError Guid :=
  match r.valueType with
  | .guid => (r.fixed 16).map fun bs => ⟨bs.val, bs.property⟩
  | _ => r.mismatch .identifier

end Record

end PropertyStore
