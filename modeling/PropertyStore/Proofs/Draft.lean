import Mathlib.Data.List.Forall2
import PropertyStore.Draft
import PropertyStore.Proofs.Decode.Store
import PropertyStore.Proofs.Text.Utf16

/-!
# What is drafted is what is read

The bytes of a draft are a store by the grammar, provided that the draft says nothing that a
reader would not take (`Readable`): known codes, values that are all there and not too long,
names where the identifier calls for names, no more bytes in a set than its size can tell. What
is read is what the draft says (`ReadsAs`), set by set and record by record; of a name it is
what comes before the first zero, and of a value what its kind or its count takes.

The bytes are written with `countBytes` and `sized`, the grammar is stated with `word32`; the
first lemmas bring the two together.
-/

namespace PropertyStore

open LittleEndian

/-! ### Words and sizes -/

theorem countBytes_eq (n : Nat) : countBytes n = word32 (UInt32.ofNat n) := by
  have modulo : UInt32.ofNat (toNat (countBytes n)) = UInt32.ofNat n := by
    rw [countBytes, toNat_bytes]
    apply UInt32.toNat_inj.mp
    simp [capacity]
  have four : (countBytes n).length = 4 := length_bytes 4 n
  rw [← modulo, word32_ofNat_toNat four]

namespace RecordDraft

@[simp] theorem length_sized (body : List UInt8) : (sized body).length = 4 + body.length := by
  simp [sized, countBytes]

/-- What is sized starts with its own length. -/
theorem sized_eq (body : List UInt8) :
    sized body = word32 (UInt32.ofNat (sized body).length) ++ body := by
  rw [length_sized, sized, countBytes_eq]

end RecordDraft

/-! ### Values -/

/-- The value with which bytes begin, without its count, if all of it is there. -/
def ValueEncoding.payload? : ValueEncoding → List UInt8 → Option (List UInt8)
  | .fixed width, bs => if width ≤ bs.length then some (bs.take width) else none
  | .counted unit, bs =>
    let n := toNat (bs.take 4) * unit
    if 4 + n ≤ bs.length then some ((bs.drop 4).take n) else none

theorem ValueEncoding.payload?_counted (unit : Nat) (count : UInt32) (rest : List UInt8) :
    (counted unit).payload? (word32 count ++ rest) =
      if count.toNat * unit ≤ rest.length then some (rest.take (count.toNat * unit)) else none := by
  simp only [payload?, List.take_left' (length_word32 count), List.drop_left' (length_word32 count),
    toNat_word32, List.length_append, length_word32, Nat.add_le_add_iff_left]

/-- The value is there as the grammar has it: a count if its kind has one, the value, slack. -/
theorem ValueEncoding.isCount_of_payload? {encoding : ValueEncoding} {bs data : List UInt8}
    (h : encoding.payload? bs = some data) :
    ∃ count slack, bs = count ++ data ++ slack ∧ IsCount encoding count data.length := by
  cases encoding with
  | fixed width =>
    simp only [payload?, Option.ite_none_right_eq_some, Option.some.injEq] at h
    obtain ⟨le, rfl⟩ := h
    refine ⟨[], bs.drop width, (List.take_append_drop width bs).symm, ?_⟩
    rw [List.length_take, Nat.min_eq_left le]
    exact IsCount.fixed width
  | counted unit =>
    obtain less | ⟨count, rest, rfl⟩ := short_or_word32 bs
    · simp only [payload?, Option.ite_none_right_eq_some] at h
      omega
    · rw [payload?_counted, Option.ite_none_right_eq_some, Option.some.injEq] at h
      obtain ⟨le, rfl⟩ := h
      refine ⟨word32 count, rest.drop (count.toNat * unit), ?_, ?_⟩
      · rw [List.append_assoc, List.take_append_drop]
      · rw [List.length_take, Nat.min_eq_left le]
        exact IsCount.counted unit count

/-- All of a text is there behind its count, if the count can be told. -/
theorem payload?_wideValue {text : String} (short : (wideText text).length < UInt32.size) :
    ValueType.unicodeString.encoding.payload? (wideValue text) = some (wideText text) := by
  have units : (wideText text).length = (Text.Utf16.encode text.toList ++ [0]).length * 2 :=
    Text.Utf16.length_bytes _
  have count : (UInt32.ofNat (Text.Utf16.encode text.toList ++ [0]).length).toNat * 2 =
      (wideText text).length := by
    rw [UInt32.toNat_ofNat_of_lt' (by omega), units]
  rw [wideValue, countBytes_eq, show ValueType.unicodeString.encoding = .counted 2 from rfl,
    ValueEncoding.payload?_counted, count, if_pos (Nat.le_refl _), List.take_length]

/-! ### What can be read, and what is read -/

/-- A record that can be read where records have this layout and values no more than `limit`
bytes. -/
inductive RecordDraft.Readable (limit : Nat) : RecordLayout → RecordDraft → Prop where
  /-- It is keyed by a number. -/
  | numeric (entryType : UInt32) {t : ValueType} {value data : List UInt8}
    (begins : t.encoding.payload? value = some data) (small : data.length ≤ limit) :
    Readable limit .numeric (.numeric entryType t.code value)
  /-- It is keyed by a name. -/
  | named (name : String) {t : ValueType} {value data : List UInt8}
    (begins : t.encoding.payload? value = some data) (small : data.length ≤ limit) :
    Readable limit .named (.named name t.code value)

/-- A record that holds a text can be read, unless the text is too long. -/
theorem RecordDraft.readable_string (entryType : UInt32) {text : String} {limit : Nat}
    (short : (wideText text).length < UInt32.size) (small : (wideText text).length ≤ limit) :
    (string entryType text).Readable limit .numeric :=
  Readable.numeric entryType (payload?_wideValue short) small

/-- What a draft of a record is read as. -/
inductive RecordDraft.ReadsAs (codepage : Codepage) : RecordDraft → Record → Prop where
  /-- The number is the key. -/
  | numeric {entryType size : UInt32} {t : ValueType} {value data : List UInt8}
    (size_eq : size.toNat = (RecordDraft.numeric entryType t.code value).bytes.length)
    (begins : t.encoding.payload? value = some data) :
    ReadsAs codepage (.numeric entryType t.code value)
      { size, key := .numeric entryType, valueType := t, data, codepage }
  /-- What comes before the first zero of the name is the key. -/
  | named {name : String} {size : UInt32} {t : ValueType} {value data : List UInt8}
    (size_eq : size.toNat = (RecordDraft.named name t.code value).bytes.length)
    (begins : t.encoding.payload? value = some data) :
    ReadsAs codepage (.named name t.code value)
      { size, key := .named (String.ofList (name.toList.takeWhile (· != '\x00'))), valueType := t,
        data, codepage }

/-- A set that can be read: it is no longer than its size can tell, and has trailing bytes only
after four zero bytes. -/
structure SetDraft.Readable (options : DecodeOptions) (d : SetDraft) : Prop where
  signature_eq : d.signature = Signature.bytes .serializedPropertyStorage
  length_lt : d.bytes.length < UInt32.size
  ends : d.sentinel = true ∨ d.trailing = []
  records (r : RecordDraft) (hr : r ∈ d.records) :
    r.Readable options.maxValueSize (.ofIdentifier d.identifier)

/-- What a draft of a set is read as. -/
structure SetDraft.ReadsAs (options : DecodeOptions) (d : SetDraft) (s : PropertySet) : Prop where
  size_eq : s.size.toNat = d.bytes.length
  identifier_eq : s.identifier = d.identifier
  trailing_eq : s.trailingBytes = d.trailing.length
  records : List.Forall₂ (RecordDraft.ReadsAs options.codepage) d.records s.records

/-! ### Drafts in the grammar -/

/-- Parts that are there one by one are a run. -/
theorem Run.of_flatMap {α β : Type} {P : List UInt8 → α → Prop} {R : β → α → Prop}
    {f : β → List UInt8} {xs : List β} (h : ∀ x ∈ xs, ∃ y, P (f x) y ∧ R x y) :
    ∃ ys, Run P (xs.flatMap f) ys ∧ List.Forall₂ R xs ys := by
  induction xs with
  | nil => exact ⟨[], Run.nil, List.Forall₂.nil⟩
  | cons x xs ih =>
    obtain ⟨y, part, hy⟩ := h x (List.mem_cons_self ..)
    obtain ⟨ys, run, hys⟩ := ih fun x' hx' => h x' (List.mem_cons_of_mem x hx')
    exact ⟨y :: ys, Run.cons part run, List.Forall₂.cons hy hys⟩

theorem length_le_flatMap {β : Type} {f : β → List UInt8} {xs : List β} {x : β} (h : x ∈ xs) :
    (f x).length ≤ (xs.flatMap f).length := by
  obtain ⟨before, behind, rfl⟩ := List.append_of_mem h
  simp only [List.flatMap_append, List.flatMap_cons, List.length_append]
  omega

variable {layout : RecordLayout} {options : DecodeOptions}

/-- After a head, a code with its padding and a value are the rest of a record. -/
theorem HasFields.of_isHead {head value data : List UInt8} {size : UInt32} {key : RecordKey}
    {t : ValueType} (isHead : IsHead layout head size key)
    (begins : t.encoding.payload? value = some data) (small : data.length ≤ options.maxValueSize) :
    HasFields layout options (head ++ RecordDraft.valueBytes t.code value)
      { size, key, valueType := t, data, codepage := options.codepage } := by
  obtain ⟨count, slack, rfl, isCount⟩ := ValueEncoding.isCount_of_payload? begins
  have isOpening : IsOpening layout (head ++ word16 t.code ++ [0, 0]) size key t :=
    IsOpening.mk t isHead rfl
  have split : head ++ RecordDraft.valueBytes t.code (count ++ data ++ slack) =
      head ++ word16 t.code ++ [0, 0] ++ count ++ data ++ slack := by
    simp only [RecordDraft.valueBytes, word16, List.append_assoc]
  rw [split]
  exact HasFields.mk isOpening isCount small slack

theorem nameText_wideText (name : String) :
    RecordKey.nameText (wideText name) =
      String.ofList (name.toList.takeWhile (· != '\x00')) := by
  rw [RecordKey.nameText, wideText, Text.Utf16.units_bytes, Text.Utf16.beforeZero_encode,
    Text.Utf16.decodeLossy_encode]

/-- The bytes of a record with a number, as a head and what follows it. -/
theorem RecordDraft.bytes_numeric (entryType : UInt32) (code : UInt16) (value : List UInt8) :
    (numeric entryType code value).bytes =
      word32 (UInt32.ofNat (numeric entryType code value).bytes.length) ++ word32 entryType ++
        [0] ++ valueBytes code value := by
  calc (numeric entryType code value).bytes
      = word32 (UInt32.ofNat (numeric entryType code value).bytes.length) ++
          (word32 entryType ++ [0] ++ valueBytes code value) := sized_eq _
    _ = _ := by rw [← List.append_assoc, ← List.append_assoc]

/-- The bytes of a record with a name, as a head and what follows it. -/
theorem RecordDraft.bytes_named (name : String) (code : UInt16) (value : List UInt8) :
    (named name code value).bytes =
      word32 (UInt32.ofNat (named name code value).bytes.length) ++
        word32 (UInt32.ofNat (wideText name).length) ++ [0] ++ wideText name ++
          valueBytes code value := by
  calc (named name code value).bytes
      = word32 (UInt32.ofNat (named name code value).bytes.length) ++
          (countBytes (wideText name).length ++ [0] ++ wideText name ++ valueBytes code value) :=
        sized_eq _
    _ = _ := by
      rw [countBytes_eq, ← List.append_assoc, ← List.append_assoc, ← List.append_assoc]

/-- A record that can be read is a record, and is read as what it says. -/
theorem RecordDraft.isRecord_of_readable {d : RecordDraft}
    (readable : d.Readable options.maxValueSize layout) (short : d.bytes.length < UInt32.size) :
    ∃ r, IsRecord layout options d.bytes r ∧ d.ReadsAs options.codepage r := by
  have size_eq := UInt32.toNat_ofNat_of_lt' short
  cases readable with
  | @numeric entryType t value data begins small =>
    have isHead :=
      IsHead.numeric (UInt32.ofNat (numeric entryType t.code value).bytes.length) entryType 0
    have fields := HasFields.of_isHead isHead begins small
    rw [← bytes_numeric] at fields
    exact ⟨_, ⟨fields, size_eq.symm⟩, ReadsAs.numeric size_eq begins⟩
  | @named name t value data begins small =>
    -- The name is shorter than the record, so its length fits into its field.
    have nameShort : (wideText name).length < UInt32.size := by
      rw [bytes_named] at short
      simp only [List.length_append] at short
      omega
    have isHead :=
      IsHead.named (UInt32.ofNat (named name t.code value).bytes.length)
        (UInt32.ofNat (wideText name).length) 0 (UInt32.toNat_ofNat_of_lt' nameShort).symm
    have fields := HasFields.of_isHead isHead begins small
    rw [← bytes_named, nameText_wideText] at fields
    exact ⟨_, ⟨fields, size_eq.symm⟩, ReadsAs.named size_eq begins⟩

theorem SetDraft.isTail_of_ends {d : SetDraft} (ends : d.sentinel = true ∨ d.trailing = []) :
    IsTail (zeroWord d.sentinel ++ d.trailing) d.trailing.length := by
  cases hsentinel : d.sentinel with
  | true => exact IsTail.sentinel d.trailing
  | false =>
    rw [hsentinel] at ends
    obtain ends | none := ends
    · cases ends
    · rw [none]
      exact IsTail.none

/-- The bytes of a set, as a size and a body. -/
theorem SetDraft.bytes_eq (d : SetDraft) :
    d.bytes = word32 (UInt32.ofNat d.bytes.length) ++ (d.signature ++ d.identifier.bytes ++
      (d.records.flatMap RecordDraft.bytes ++ (zeroWord d.sentinel ++ d.trailing))) := by
  calc d.bytes
      = word32 (UInt32.ofNat d.bytes.length) ++ (d.signature ++ d.identifier.bytes ++
          d.records.flatMap RecordDraft.bytes ++ zeroWord d.sentinel ++ d.trailing) :=
        RecordDraft.sized_eq _
    _ = _ := by simp only [List.append_assoc]

/-- A set that can be read is a set, and is read as what it says. -/
theorem SetDraft.isSet_of_readable {d : SetDraft} (readable : d.Readable options) :
    ∃ s, IsSet options d.bytes s ∧ d.ReadsAs options s := by
  have size_eq := UInt32.toNat_ofNat_of_lt' readable.length_lt
  have chainShort : (d.records.flatMap RecordDraft.bytes).length < UInt32.size := by
    have := readable.length_lt
    rw [bytes_eq] at this
    simp only [List.length_append] at this
    omega
  have record : ∀ r ∈ d.records, ∃ r', IsRecord (.ofIdentifier d.identifier) options r.bytes r' ∧
      r.ReadsAs options.codepage r' := fun r hr =>
    RecordDraft.isRecord_of_readable (readable.records r hr)
      (Nat.lt_of_le_of_lt (length_le_flatMap hr) chainShort)
  obtain ⟨records, run, hrecords⟩ := Run.of_flatMap record
  have isBody : IsBody options (UInt32.ofNat d.bytes.length) _ _ :=
    IsBody.mk (isLayout_ofIdentifier d.identifier) run (isTail_of_ends readable.ends)
  rw [← readable.signature_eq] at isBody
  have isSet := IsSet.mk isBody (by rw [← bytes_eq, size_eq])
  rw [← bytes_eq] at isSet
  exact ⟨_, isSet, ⟨size_eq, rfl, rfl, hrecords⟩⟩

/-! ### Drafts of stores -/

theorem isEnd_zeroWord (first wanted : Bool) : IsEnd first (zeroWord wanted) := by
  cases wanted with
  | true => exact IsEnd.terminator first []
  | false => exact IsEnd.none first

/-- **What is drafted is what is read**: a store whose sets can be read is read set by set, each as
what its draft says, whether or not four zero bytes end the store. -/
theorem StoreDraft.decode_bytes (options : DecodeOptions) (d : StoreDraft)
    (readable : ∀ s ∈ d.sets, s.Readable options) :
    ∃ sets, Store.decode options d.bytes.toArray = .ok ⟨sets, d.bytes.length⟩ ∧
      List.Forall₂ (SetDraft.ReadsAs options) d.sets sets := by
  obtain ⟨sets, run, hsets⟩ :=
    Run.of_flatMap fun s hs => SetDraft.isSet_of_readable (readable s hs)
  refine ⟨sets, ?_, hsets⟩
  have hinput : d.sets.flatMap SetDraft.bytes ++ zeroWord d.terminator =
      d.bytes.toArray.toList := rfl
  rw [Store.decode_of_isEnd run (isEnd_zeroWord sets.isEmpty d.terminator) hinput,
    List.size_toArray]

/-- A set with a name that a zero cuts short after a character of two units, a value with slack and
a trailing byte; then a set that ends with its last record, a text. -/
def StoreDraft.uneven : StoreDraft where
  sets := [
    { identifier := FormatClass.identifier .userDefinedProperties
      records := [.named (String.ofList [Char.ofNat 0x1F600, '\x00', 'x'])
        (ValueType.code .unicodeString) [1, 0, 0, 0, 0x41, 0, 7]]
      trailing := [9] },
    { identifier := .zero
      records := [.numeric 5 (ValueType.code .boolean) [1], .string 6 (String.ofList ['x'])]
      sentinel := false }]
  terminator := false

theorem StoreDraft.decode_uneven :
    (∀ s ∈ uneven.sets, s.Readable {}) ∧
      ∃ sets, Store.decode {} uneven.bytes.toArray = .ok ⟨sets, uneven.bytes.length⟩ ∧
        List.Forall₂ (SetDraft.ReadsAs {}) uneven.sets sets := by
  have readable : ∀ s ∈ uneven.sets, s.Readable {} := by
    intro s hs
    obtain rfl | rfl := List.mem_pair.mp hs
    · refine ⟨rfl, by decide, Or.inl rfl, ?_⟩
      intro r hr
      rw [List.mem_singleton.mp hr]
      have begins : ValueType.unicodeString.encoding.payload? [1, 0, 0, 0, 0x41, 0, 7] =
          some [0x41, 0] := rfl
      exact RecordDraft.Readable.named _ begins (by decide)
    · refine ⟨rfl, by decide, Or.inr rfl, ?_⟩
      intro r hr
      obtain rfl | rfl := List.mem_pair.mp hr
      · have begins : ValueType.boolean.encoding.payload? [1] = some [1] := rfl
        exact RecordDraft.Readable.numeric _ begins (by decide)
      · exact RecordDraft.readable_string 6 (by decide) (by decide)
  exact ⟨readable, StoreDraft.decode_bytes {} uneven readable⟩

end PropertyStore
