import PropertyStore.Proofs.Words.Cursor
import PropertyStore.Record.Decode

/-!
# Reading records in words

A record is read in words stage by stage, as it is in numbers: its head, the kind of its value, the
value. What a field of the record says (the length of a name, the count before a value) is a word of
four bytes, so there is always room for it, and for twice as much.
-/

namespace PropertyStore

/-- How a store is to be read in words. -/
structure WordOptions where
  /-- The codepage that every record is given. -/
  codepage : Codepage
  /-- The most bytes a value may have. -/
  maxValueSize : UInt64

/-- The same in numbers. -/
def WordOptions.inNumbers (options : WordOptions) : DecodeOptions :=
  ⟨options.codepage, options.maxValueSize.toNat⟩

namespace WordCursor

/-! ### The stages of a record -/

/-- What the log is told of a place: its offset and how many bytes are left. -/
def logPlace (m : WordCursor) : Option Unit := do
  let _ ← m.offset
  let _ ← m.remaining

/-- What the log is told of a window: the offset at which it starts. -/
def logStart (m : WordCursor) : Option Unit := do
  let _ ← Word.sub (← m.offset) m.position

/-- The key of a record: its key field, or as many bytes of name as that field says. -/
def readKey (m : WordCursor) (field : UInt32) :
    RecordLayout → Checked ReadError (RecordKey × WordCursor)
  | .numeric => return (.numeric field, m)
  | .named => do
    let (name, m) ← m.take field.toUInt64
    return (.named (RecordKey.nameText name.toList), m)

/-- The size and the key that a record starts with. -/
def readHead (m : WordCursor) (layout : RecordLayout) :
    Checked ReadError ((UInt32 × RecordKey) × WordCursor) := do
  let (size, m) ← m.u32
  let (field, m) ← m.u32
  let m ← m.skip 1
  let (key, m) ← m.readKey field layout
  return ((size, key), m)

/-- The kind of a value, from its code. -/
def readValueType (m : WordCursor) : Checked DecodeError (ValueType × WordCursor) := do
  let offset ← m.offset
  let (code, m) ← m.u16
  let m ← m.skip 2
  match ValueType.ofCode? code with
  | none => throw (.unsupportedValueType offset.toNat code)
  | some valueType => return (valueType, m)

/-- The length of a value, from its kind or from the count before it. -/
def readSize (m : WordCursor) : ValueEncoding → Checked ReadError (UInt64 × WordCursor)
  | .fixed width => return (.ofNat width, m)
  | .counted unit => do
    let (count, m) ← m.u32
    let size ← Word.mul count.toUInt64 (.ofNat unit)
    return (size, m)

/-- The bytes of a value of a kind, unless there would be too many. -/
def readData (m : WordCursor) (valueType : ValueType) (limit : UInt64) :
    Checked DecodeError (List UInt8) := do
  let offset ← m.offset
  let (size, m) ← m.readSize valueType.encoding
  if limit < size then
    throw (.valueTooLarge offset.toNat size.toNat limit.toNat)
  else
    let (data, m) ← m.take size
    m.logStart
    return data.toList

/-- The record that fills a window. -/
def readRecord (m : WordCursor) (layout : RecordLayout) (options : WordOptions) :
    Checked DecodeError Record := do
  let ((size, key), m) ← m.readHead layout
  let (valueType, m) ← m.readValueType
  let data ← m.readData valueType options.maxValueSize
  return { size, key, valueType, data, codepage := options.codepage }

/-! ### The stages agree -/

open Checked

variable {m : WordCursor} {c : Cursor}

theorem width_le_of_encoding {valueType : ValueType} {width : Nat}
    (h : valueType.encoding = .fixed width) : width ≤ 16 := by
  cases valueType <;> cases h <;> decide

theorem unit_le_of_encoding {valueType : ValueType} {unit : Nat}
    (h : valueType.encoding = .counted unit) : unit ≤ 2 := by
  cases valueType <;> cases h <;> decide

namespace Stands

theorem logPlace (h : m.Stands c) : m.logPlace = some () := by
  obtain ⟨offset, offset_eq, -⟩ := h.offset
  obtain ⟨remaining, remaining_eq, -⟩ := h.remaining
  rw [WordCursor.logPlace, offset_eq, remaining_eq]
  rfl

theorem logStart (h : m.Stands c) : m.logStart = some () := by
  obtain ⟨offset, offset_eq, hoffset⟩ := h.offset
  have le : m.position.toNat ≤ offset.toNat := by
    rw [hoffset, Cursor.offset_eq, h.position_eq]
    exact Nat.le_add_left _ _
  obtain ⟨start, start_eq, -⟩ := Word.exists_sub le
  rw [WordCursor.logStart, offset_eq, Option.bind_eq_bind, Option.bind_some, start_eq]
  rfl

theorem readKey (h : m.Stands c) (field : UInt32) (layout : RecordLayout) :
    Agrees (Gives Eq) (m.readKey field layout) (RecordKey.decode field c layout) := by
  cases layout with
  | numeric => exact .ok ⟨rfl, h⟩
  | named =>
    have read := h.take field.toUInt64
    rw [UInt32.toNat_toUInt64] at read
    refine read.bind ?_
    rintro ⟨name, m⟩ ⟨bs, c⟩ ⟨⟨rfl, -⟩, h⟩
    exact .ok ⟨rfl, h⟩

theorem readHead (h : m.Stands c) (layout : RecordLayout) :
    Agrees (Gives Eq) (m.readHead layout) (Record.decodeHead layout c) := by
  refine h.u32.bind ?_
  rintro ⟨size, m⟩ ⟨_, c⟩ ⟨rfl, h⟩
  refine h.u32.bind ?_
  rintro ⟨field, m⟩ ⟨_, c⟩ ⟨rfl, h⟩
  refine (h.skip 1).bind fun m c h => (h.readKey field layout).bind ?_
  rintro ⟨key, m⟩ ⟨_, c⟩ ⟨rfl, h⟩
  exact .ok ⟨rfl, h⟩

theorem readValueType (h : m.Stands c) :
    Agrees (Gives Eq) m.readValueType (ValueType.decode c) := by
  obtain ⟨offset, offset_eq, hoffset⟩ := h.offset
  rw [WordCursor.readValueType, offset_eq, ValueType.decode, ← hoffset]
  refine h.u16.lift.bind ?_
  rintro ⟨code, m⟩ ⟨_, c⟩ ⟨rfl, h⟩
  refine (h.skip 2).lift.bind fun m c h => ?_
  dsimp only
  cases ValueType.ofCode? code with
  | none => exact .error _
  | some valueType => exact .ok ⟨rfl, h⟩

theorem readSize (h : m.Stands c) (valueType : ValueType) :
    Agrees (Gives fun w n => w.toNat = n) (m.readSize valueType.encoding)
      (valueType.encoding.decodeSize c) := by
  cases encoding : valueType.encoding with
  | fixed width =>
    have small := width_le_of_encoding encoding
    exact .ok ⟨UInt64.toNat_ofNat_of_lt' (Nat.lt_of_le_of_lt small (by decide)), h⟩
  | counted unit =>
    have small := unit_le_of_encoding encoding
    have unit_eq : (UInt64.ofNat unit).toNat = unit :=
      UInt64.toNat_ofNat_of_lt' (Nat.lt_of_le_of_lt small (by decide))
    refine h.u32.bind ?_
    rintro ⟨count, m⟩ ⟨_, c⟩ ⟨rfl, h⟩
    have count_lt := count.toNat_lt
    have room : count.toUInt64.toNat * (UInt64.ofNat unit).toNat < UInt64.size := by
      rw [UInt32.toNat_toUInt64, unit_eq]
      exact Nat.lt_of_le_of_lt (Nat.mul_le_mul (Nat.le_of_lt count_lt) small) (by decide)
    obtain ⟨size, size_eq, hsize⟩ := Word.exists_mul room
    rw [UInt32.toNat_toUInt64, unit_eq] at hsize
    dsimp only
    rw [size_eq]
    exact .ok ⟨hsize, h⟩

theorem readData (h : m.Stands c) (valueType : ValueType) (limit : UInt64) :
    Agrees Eq (m.readData valueType limit) (valueType.decodeData limit.toNat c) := by
  obtain ⟨offset, offset_eq, hoffset⟩ := h.offset
  rw [WordCursor.readData, offset_eq, ValueType.decodeData, ← hoffset]
  refine (h.readSize valueType).lift.bind ?_
  rintro ⟨size, m⟩ ⟨_, c⟩ ⟨rfl, h⟩
  dsimp only
  by_cases large : limit < size
  · rw [if_pos large, if_pos (UInt64.lt_iff_toNat_lt.mp large)]
    exact .error _
  · rw [if_neg large, if_neg fun lt => large (UInt64.lt_iff_toNat_lt.mpr lt)]
    refine (h.take size).lift.bind ?_
    rintro ⟨data, m⟩ ⟨_, c⟩ ⟨⟨rfl, -⟩, h⟩
    dsimp only
    rw [h.logStart]
    exact .ok rfl

theorem readRecord (h : m.Stands c) (layout : RecordLayout) (options : WordOptions) :
    Agrees Eq (m.readRecord layout options) (Record.decode layout options.inNumbers c) := by
  refine (h.readHead layout).lift.bind ?_
  rintro ⟨⟨size, key⟩, m⟩ ⟨_, c⟩ ⟨rfl, h⟩
  refine h.readValueType.bind ?_
  rintro ⟨valueType, m⟩ ⟨_, c⟩ ⟨rfl, h⟩
  refine (h.readData valueType options.maxValueSize).bind ?_
  rintro data _ rfl
  exact .ok rfl

end Stands

end WordCursor

end PropertyStore
