import PropertyStore.Cursor
import PropertyStore.DecodeError
import PropertyStore.DecodeOptions
import PropertyStore.FormatClass
import PropertyStore.Record
import PropertyStore.Text.Utf16

/-!
# Reading records

A record is its size, a key, a reserved byte, the code of its kind of value, two bytes
of padding, and the value, with a count before it if its kind is counted:

    numeric   size:4 key:4 reserved:1            code:2 padding:2 [count:4] value
    named     size:4 length:4 reserved:1 name    code:2 padding:2 [count:4] value

It is read from a window of the declared size. What is left of the window after the
value is passed over, and so are the reserved byte and the padding.
-/

namespace PropertyStore

/-- The name that bytes in units of two spell, up to the first zero. A surrogate without a
partner is replaced, not refused. -/
def RecordKey.nameText (bs : List UInt8) : String :=
  String.ofList (Text.Utf16.decodeLossy (Text.Utf16.beforeZero (Text.Utf16.units bs)))

/-- The key of a record: its key field, or as many bytes of name as that field says. -/
def RecordKey.decode (field : UInt32) (window : Cursor) :
    RecordLayout → Except ReadError (RecordKey × Cursor)
  | .numeric => .ok (.numeric field, window)
  | .named => do
    let (name, window) ← window.take field.toNat
    return (.named (nameText name), window)

/-- The kind of a value, from its code. The padding is passed over before the code is
looked up. -/
def ValueType.decode (window : Cursor) : Except DecodeError (ValueType × Cursor) := do
  let (code, afterCode) ← window.u16
  let value ← afterCode.skip 2
  match ValueType.ofCode? code with
  | none => .error (.unsupportedValueType window.offset code)
  | some valueType => return (valueType, value)

/-- The length of a value, from its kind or from the count before it. -/
def ValueEncoding.decodeSize (window : Cursor) :
    ValueEncoding → Except ReadError (Nat × Cursor)
  | .fixed width => .ok (width, window)
  | .counted unit => do
    let (count, window) ← window.u32
    return (count.toNat * unit, window)

/-- The bytes of a value of a kind, unless there would be too many. -/
def ValueType.decodeData (valueType : ValueType) (limit : Nat) (window : Cursor) :
    Except DecodeError (List UInt8) := do
  let (size, rest) ← valueType.encoding.decodeSize window
  if limit < size then
    .error (.valueTooLarge window.offset size limit)
  else
    let (data, _) ← rest.take size
    return data

/-- The size and the key that a record starts with. -/
def Record.decodeHead (layout : RecordLayout) (window : Cursor) :
    Except ReadError ((UInt32 × RecordKey) × Cursor) := do
  let (size, window) ← window.u32
  let (field, window) ← window.u32
  let window ← window.skip 1
  let (key, window) ← RecordKey.decode field window layout
  return ((size, key), window)

/-- The record that fills a window. -/
def Record.decode (layout : RecordLayout) (options : DecodeOptions) (window : Cursor) :
    Except DecodeError Record := do
  let ((size, key), window) ← Record.decodeHead layout window
  let (valueType, window) ← ValueType.decode window
  let data ← valueType.decodeData options.maxValueSize window
  return { size, key, valueType, data, codepage := options.codepage }

end PropertyStore
