import PropertyStore.Proofs.Grammar.Run
import PropertyStore.Record.Decode

/-!
# What a record is, and what can be wrong with one

The bytes of a record, as a grammar. A record opens with its head (its size, its key, a
reserved byte, a name if its layout has one), the code of its kind of value and two bytes of
padding. A count follows if the kind is counted, then the value, then whatever is left of
the window. The reserved byte, the padding and the slack are any bytes at all.

Beside it stands what can be wrong with a window that should be a record. There are three
things: a field does not fit into what is left of the window (`Needs` says what a field
takes after the fields before it), the code of the kind is not known, or the value is longer
than is allowed. `fields_or_defect` says that there is nothing else.
-/

namespace PropertyStore

open LittleEndian

/-! ### Records -/

/-- The bytes before the code of a record's value, with the size and the key that they give. -/
inductive IsHead : RecordLayout → List UInt8 → UInt32 → RecordKey → Prop where
  /-- A number is the key. -/
  | numeric (size field : UInt32) (reserved : UInt8) :
    IsHead .numeric (word32 size ++ word32 field ++ [reserved]) size (.numeric field)
  /-- A name is the key, and the field before it is its length in bytes. -/
  | named (size field : UInt32) (reserved : UInt8) {name : List UInt8}
    (length : name.length = field.toNat) :
    IsHead .named (word32 size ++ word32 field ++ [reserved] ++ name) size
      (.named (RecordKey.nameText name))

/-- The bytes before a record's value and its count: the head, a code that is known, padding. -/
inductive IsOpening (layout : RecordLayout) :
    List UInt8 → UInt32 → RecordKey → ValueType → Prop where
  /-- The padding is any two bytes. -/
  | mk {head padding : List UInt8} {size : UInt32} {key : RecordKey} (t : ValueType)
    (isHead : IsHead layout head size key) (two : padding.length = 2) :
    IsOpening layout (head ++ word16 t.code ++ padding) size key t

/-- The bytes that say how long a value is, with the length that they give. -/
inductive IsCount : ValueEncoding → List UInt8 → Nat → Prop where
  /-- The length is fixed, and no bytes say it. -/
  | fixed (width : Nat) : IsCount (.fixed width) [] width
  /-- A word counts the units. -/
  | counted (unit : Nat) (count : UInt32) :
    IsCount (.counted unit) (word32 count) (count.toNat * unit)

/-- The bytes begin with the fields of the record; what they have beyond those is slack. -/
inductive HasFields (layout : RecordLayout) (options : DecodeOptions) :
    List UInt8 → Record → Prop where
  /-- The value is as long as its kind or its count says, and no longer than is allowed. -/
  | mk {opening count data : List UInt8} {size : UInt32} {key : RecordKey} {t : ValueType}
    (isOpening : IsOpening layout opening size key t)
    (isCount : IsCount t.encoding count data.length)
    (small : data.length ≤ options.maxValueSize) (slack : List UInt8) :
    HasFields layout options (opening ++ count ++ data ++ slack)
      { size, key, valueType := t, data, codepage := options.codepage }

/-- The bytes are the record: they begin with its fields, and there are as many of them as its
size says. -/
structure IsRecord (layout : RecordLayout) (options : DecodeOptions) (bs : List UInt8)
    (r : Record) : Prop where
  hasFields : HasFields layout options bs r
  length_eq : bs.length = r.size.toNat

/-! ### How long a record is -/

/-- How many bytes say how long a value is. -/
def ValueEncoding.countSize : ValueEncoding → Nat
  | .fixed _ => 0
  | .counted _ => 4

/-- How many bytes the fields of a record take up, but for a name: thirteen, its count if it has
one, and its value. -/
def Record.fieldsSize (r : Record) : Nat := 13 + r.valueType.encoding.countSize + r.data.length

theorem IsCount.length_eq {encoding : ValueEncoding} {bs : List UInt8} {n : Nat}
    (h : IsCount encoding bs n) : bs.length = encoding.countSize := by
  cases h with
  | fixed => rfl
  | counted _ count => exact length_word32 count

/-- A record has at least the bytes of its fields. -/
theorem HasFields.fieldsSize_le {layout : RecordLayout} {options : DecodeOptions}
    {bs : List UInt8} {r : Record} (h : HasFields layout options bs r) :
    r.fieldsSize ≤ bs.length := by
  obtain ⟨⟨t, isHead, two⟩, isCount, -, slack⟩ := h
  have counts := isCount.length_eq
  cases isHead <;> simp [Record.fieldsSize, two, counts] <;> omega

/-! ### Defects of a record -/

/-- After the bytes `done` of a record the next field takes `n` bytes. -/
inductive Needs (layout : RecordLayout) (limit : Nat) : List UInt8 → Nat → Prop where
  /-- The size. -/
  | size : Needs layout limit [] 4
  /-- The key, or the length of the name. -/
  | key (size : UInt32) : Needs layout limit (word32 size) 4
  /-- The reserved byte. -/
  | reserved (size field : UInt32) : Needs layout limit (word32 size ++ word32 field) 1
  /-- The name. -/
  | name (size field : UInt32) (reserved : UInt8) (named : layout = .named) :
    Needs layout limit (word32 size ++ word32 field ++ [reserved]) field.toNat
  /-- The code of the kind of value. -/
  | code {head : List UInt8} {size : UInt32} {key : RecordKey}
    (isHead : IsHead layout head size key) :
    Needs layout limit head 2
  /-- The padding, which is passed over before the code is looked up. -/
  | padding {head : List UInt8} {size : UInt32} {key : RecordKey}
    (isHead : IsHead layout head size key)
    (code : UInt16) : Needs layout limit (head ++ word16 code) 2
  /-- The count. -/
  | count {opening : List UInt8} {size : UInt32} {key : RecordKey} {t : ValueType} {unit : Nat}
    (isOpening : IsOpening layout opening size key t) (counted : t.encoding = .counted unit) :
    Needs layout limit opening 4
  /-- The value. -/
  | value {opening count : List UInt8} {size : UInt32} {key : RecordKey} {t : ValueType} {n : Nat}
    (isOpening : IsOpening layout opening size key t) (isCount : IsCount t.encoding count n)
    (small : n ≤ limit) :
    Needs layout limit (opening ++ count) n

/-- What is wrong with a window that starts at `start` and should be a record. -/
inductive RecordDefect (layout : RecordLayout) (options : DecodeOptions) (start : Nat) :
    List UInt8 → DecodeError → Prop where
  /-- The window ends before a field does. -/
  | short {done rest : List UInt8} {n : Nat} (needs : Needs layout options.maxValueSize done n)
    (less : rest.length < n) :
    RecordDefect layout options start (done ++ rest)
      (.read (.outOfData (start + done.length) n rest.length))
  /-- The code of the kind of value is not known. -/
  | unknown {head padding : List UInt8} {size : UInt32} {key : RecordKey} {code : UInt16}
    (isHead : IsHead layout head size key) (two : padding.length = 2)
    (none : ValueType.ofCode? code = none)
    (rest : List UInt8) :
    RecordDefect layout options start (head ++ word16 code ++ padding ++ rest)
      (.unsupportedValueType (start + head.length) code)
  /-- The value is longer than is allowed. Whether the window has that many bytes is not asked. -/
  | large {opening count : List UInt8} {size : UInt32} {key : RecordKey} {t : ValueType} {n : Nat}
    (isOpening : IsOpening layout opening size key t) (isCount : IsCount t.encoding count n)
    (more : options.maxValueSize < n) (rest : List UInt8) :
    RecordDefect layout options start (opening ++ count ++ rest)
      (.valueTooLarge (start + opening.length) n options.maxValueSize)

/-! ### There is nothing else -/

variable {layout : RecordLayout} {options : DecodeOptions}

/-- The key, or the name, is there after the first fields, or it is a name that falls short. -/
theorem key_or_short (layout : RecordLayout) (limit : Nat) (size field : UInt32) (reserved : UInt8)
    (bs : List UInt8) :
    (∃ name rest key, bs = name ++ rest ∧
        IsHead layout (word32 size ++ word32 field ++ [reserved] ++ name) size key) ∨
      Needs layout limit (word32 size ++ word32 field ++ [reserved]) field.toNat ∧
        bs.length < field.toNat := by
  cases layout with
  | numeric =>
    refine Or.inl ⟨[], bs, .numeric field, rfl, ?_⟩
    rw [List.append_nil]
    exact IsHead.numeric size field reserved
  | named =>
    obtain h | ⟨name, rest, hname, rfl⟩ := short_or_split field.toNat bs
    · exact Or.inr ⟨Needs.name size field reserved rfl, h⟩
    · exact Or.inl ⟨name, rest, _, rfl, IsHead.named size field reserved hname⟩

theorem head_or_short (layout : RecordLayout) (limit : Nat) (window : List UInt8) :
    (∃ head rest size key, window = head ++ rest ∧ IsHead layout head size key) ∨
      ∃ done rest n, window = done ++ rest ∧ Needs layout limit done n ∧ rest.length < n := by
  obtain h | ⟨size, afterSize, rfl⟩ := short_or_word32 window
  · exact Or.inr ⟨[], window, 4, rfl, Needs.size, h⟩
  obtain h | ⟨field, afterField, rfl⟩ := short_or_word32 afterSize
  · exact Or.inr ⟨_, afterSize, 4, rfl, Needs.key size, h⟩
  cases afterField with
  | nil =>
    exact Or.inr ⟨_, [], 1, (List.append_assoc ..).symm, Needs.reserved size field, Nat.one_pos⟩
  | cons reserved bs =>
    have assoc : word32 size ++ (word32 field ++ reserved :: bs) =
        word32 size ++ word32 field ++ [reserved] ++ bs := by simp
    obtain ⟨name, rest, key, rfl, hhead⟩ | ⟨hneeds, hless⟩ :=
      key_or_short layout limit size field reserved bs
    · exact Or.inl ⟨_, rest, size, key, by rw [assoc, ← List.append_assoc], hhead⟩
    · exact Or.inr ⟨_, bs, _, assoc, hneeds, hless⟩

/-- The length of a value is there, or its count falls short. -/
theorem count_or_short (encoding : ValueEncoding) (bs : List UInt8) :
    (∃ count rest n, bs = count ++ rest ∧ IsCount encoding count n) ∨
      (∃ unit, encoding = .counted unit) ∧ bs.length < 4 := by
  cases encoding with
  | fixed width => exact Or.inl ⟨[], bs, width, rfl, IsCount.fixed width⟩
  | counted unit =>
    obtain h | ⟨count, rest, rfl⟩ := short_or_word32 bs
    · exact Or.inr ⟨⟨unit, rfl⟩, h⟩
    · exact Or.inl ⟨_, rest, _, rfl, IsCount.counted unit count⟩

/-- After the opening of a record its value is there, or the window has a defect. -/
theorem value_or_defect {opening : List UInt8} {size : UInt32} {key : RecordKey} {t : ValueType}
    (start : Nat) (hopening : IsOpening layout opening size key t) (bs : List UInt8) :
    (∃ r, HasFields layout options (opening ++ bs) r) ∨
      ∃ e, RecordDefect layout options start (opening ++ bs) e := by
  obtain ⟨count, afterCount, n, rfl, hcount⟩ | ⟨⟨unit, hunit⟩, hless⟩ :=
    count_or_short t.encoding bs
  · by_cases hsmall : n ≤ options.maxValueSize
    · rw [← List.append_assoc]
      obtain h | ⟨data, slack, rfl, rfl⟩ := short_or_split n afterCount
      · exact Or.inr ⟨_, RecordDefect.short (Needs.value hopening hcount hsmall) h⟩
      · rw [← List.append_assoc]
        exact Or.inl ⟨_, HasFields.mk hopening hcount hsmall slack⟩
    · rw [← List.append_assoc]
      exact Or.inr ⟨_, RecordDefect.large hopening hcount (Nat.lt_of_not_le hsmall) afterCount⟩
  · exact Or.inr ⟨_, RecordDefect.short (Needs.count hopening hunit) hless⟩

/-- **A window begins with the fields of a record, or it has a defect.** -/
theorem fields_or_defect (layout : RecordLayout) (options : DecodeOptions) (start : Nat)
    (window : List UInt8) :
    (∃ r, HasFields layout options window r) ∨ ∃ e, RecordDefect layout options start window e := by
  obtain ⟨head, afterHead, size, key, rfl, hhead⟩ | ⟨done, rest, n, rfl, hneeds, hless⟩ :=
    head_or_short layout options.maxValueSize window
  · obtain h | ⟨code, afterCode, rfl⟩ := short_or_word16 afterHead
    · exact Or.inr ⟨_, RecordDefect.short (Needs.code hhead) h⟩
    rw [← List.append_assoc]
    obtain h | ⟨padding, rest, htwo, rfl⟩ := short_or_split 2 afterCode
    · exact Or.inr ⟨_, RecordDefect.short (Needs.padding hhead code) h⟩
    rw [← List.append_assoc]
    cases hcode : ValueType.ofCode? code with
    | none => exact Or.inr ⟨_, RecordDefect.unknown hhead htwo hcode rest⟩
    | some t =>
      rw [ValueType.ofCode?_eq_some_iff.mp hcode]
      exact value_or_defect start (IsOpening.mk t hhead htwo) rest
  · exact Or.inr ⟨_, RecordDefect.short hneeds hless⟩

end PropertyStore
