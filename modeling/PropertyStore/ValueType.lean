import PropertyStore.Text.Numeral

/-!
# Value types

A record says what kind of value it holds by a code of two bytes. The code settles how
many bytes the value takes: a fixed number of them, or as many as a count before them
says. Codes outside the list, those of vectors and arrays among them, are not known.
-/

namespace PropertyStore

/-- How the length of a value is found. -/
inductive ValueEncoding where
  /-- It is always `width` bytes. -/
  | fixed (width : Nat)
  /-- A word of four bytes counts the units that follow, of `unit` bytes each. -/
  | counted (unit : Nat)
  deriving DecidableEq, Repr

/-- A kind of value that a record can hold. -/
inductive ValueType where
  /-- No value. -/
  | empty
  /-- A value that is absent. -/
  | null
  /-- A signed number of two bytes. -/
  | int16
  /-- A signed number of four bytes. -/
  | int32
  /-- A binary fraction of four bytes. -/
  | float32
  /-- A binary fraction of eight bytes. -/
  | float64
  /-- An amount of money: a signed number of ten-thousandths, of eight bytes. -/
  | currency
  /-- Text in the store's codepage, counted in bytes. -/
  | binaryString
  /-- A status code of four bytes. -/
  | error
  /-- A truth value of one byte. -/
  | boolean
  /-- A decimal fraction of sixteen bytes. -/
  | decimal
  /-- A signed number of one byte. -/
  | int8
  /-- An unsigned number of one byte. -/
  | uint8
  /-- An unsigned number of two bytes. -/
  | uint16
  /-- An unsigned number of four bytes. -/
  | uint32
  /-- A signed number of eight bytes. -/
  | int64
  /-- An unsigned number of eight bytes. -/
  | uint64
  /-- Text in the store's codepage that ends at its first zero byte. -/
  | codepageString
  /-- Text in units of two bytes. -/
  | unicodeString
  /-- An instant of eight bytes. -/
  | filetime
  /-- Bytes that are not interpreted. -/
  | blob
  /-- An identifier of sixteen bytes. -/
  | guid
  deriving DecidableEq, Repr

namespace ValueType

/-- Every kind of value, by increasing code. -/
def all : List ValueType :=
  [.empty, .null, .int16, .int32, .float32, .float64, .currency, .binaryString, .error,
    .boolean, .decimal, .int8, .uint8, .uint16, .uint32, .int64, .uint64, .codepageString,
    .unicodeString, .filetime, .blob, .guid]

theorem mem_all (t : ValueType) : t ∈ all := by cases t <;> decide

/-- The code that stands for a kind of value in a record. -/
def code : ValueType → UInt16
  | .empty => 0x00
  | .null => 0x01
  | .int16 => 0x02
  | .int32 => 0x03
  | .float32 => 0x04
  | .float64 => 0x05
  | .currency => 0x06
  | .binaryString => 0x08
  | .error => 0x0A
  | .boolean => 0x0B
  | .decimal => 0x0E
  | .int8 => 0x10
  | .uint8 => 0x11
  | .uint16 => 0x12
  | .uint32 => 0x13
  | .int64 => 0x14
  | .uint64 => 0x15
  | .codepageString => 0x1E
  | .unicodeString => 0x1F
  | .filetime => 0x40
  | .blob => 0x41
  | .guid => 0x48

/-- The kind of value that a code stands for, if it is known. -/
def ofCode? (c : UInt16) : Option ValueType := all.find? fun t => t.code = c

@[simp] theorem ofCode?_code (t : ValueType) : ofCode? t.code = some t := by
  cases t <;> decide

theorem ofCode?_eq_some_iff {c : UInt16} {t : ValueType} : ofCode? c = some t ↔ c = t.code := by
  constructor
  · intro h
    have := List.find?_some h
    simpa using (of_decide_eq_true this).symm
  · rintro rfl
    exact ofCode?_code t

/-- No two kinds have one code. -/
theorem code_inj {t u : ValueType} (h : t.code = u.code) : t = u := by
  have known := ofCode?_code t
  rw [h, ofCode?_code, Option.some.injEq] at known
  exact known.symm

/-- How the length of a value of this kind is found. -/
def encoding : ValueType → ValueEncoding
  | .empty | .null => .fixed 0
  | .boolean | .int8 | .uint8 => .fixed 1
  | .int16 | .uint16 => .fixed 2
  | .int32 | .uint32 | .float32 | .error => .fixed 4
  | .int64 | .uint64 | .float64 | .currency | .filetime => .fixed 8
  | .decimal | .guid => .fixed 16
  | .binaryString | .codepageString | .blob => .counted 1
  | .unicodeString => .counted 2

/-- The symbol of a kind of value. -/
def label : ValueType → String
  | .empty => "VT_EMPTY"
  | .null => "VT_NULL"
  | .int16 => "VT_I2"
  | .int32 => "VT_I4"
  | .float32 => "VT_R4"
  | .float64 => "VT_R8"
  | .currency => "VT_CY"
  | .binaryString => "VT_BSTR"
  | .error => "VT_ERROR"
  | .boolean => "VT_BOOL"
  | .decimal => "VT_DECIMAL"
  | .int8 => "VT_I1"
  | .uint8 => "VT_UI1"
  | .uint16 => "VT_UI2"
  | .uint32 => "VT_UI4"
  | .int64 => "VT_I8"
  | .uint64 => "VT_UI8"
  | .codepageString => "VT_LPSTR"
  | .unicodeString => "VT_LPWSTR"
  | .filetime => "VT_FILETIME"
  | .blob => "VT_BLOB"
  | .guid => "VT_CLSID"

/-- A kind of value in writing: its symbol, then its code. -/
def text (t : ValueType) : String :=
  t.label ++ " (0x" ++ Text.Numeral.upperHex 4 t.code.toNat ++ ")"

end ValueType

end PropertyStore
