import PropertyStore.Proofs.Canonical
import PropertyStore.Proofs.Text.Utf8
import PropertyStore.Proofs.Value.Reading

/-!
# What is written is what is read of it

A program has numbers, texts, instants and identifiers, and a record has bytes. `Writes` says how
the one is written as the other, kind by kind, and what should be read of it: the same, but for a
truth value, of which any byte but zero is true, and a text in units of two bytes, which ends before
its first zero.

The bytes are followed through the draft of a record, its set and its store, through reading the
store, and through the reading of the record that comes of it (`decode_values`). Along the way
only the value matters, so the kinds of values are told apart in one place: what of the bytes is
taken as the value, and what is read of that (`Writes.payload`).
-/

namespace PropertyStore

open LittleEndian

/-! ### Values as bytes -/

/-- What a reading was read as. -/
def Reading.interpretation : Reading → Interpretation
  | .boolean _ => .boolean
  | .signed _ => .signed
  | .unsigned _ => .unsigned
  | .fraction _ => .fraction
  | .text _ => .text
  | .instant _ => .instant
  | .identifier _ => .identifier

/-- The bytes, with a count if the kind has one, are how a value of the kind is written, and the
reading is what should be read of it in a codepage. -/
inductive Writes (codepage : Codepage) : ValueType → List UInt8 → Reading → Prop where
  /-- A number that is half as large as its word at most, with its sign. -/
  | signed {t : ValueType} {width : Nat} {n : Int} (kind : t.interpretation? = some .signed)
    (fixed : t.encoding = .fixed width) (lower : -(capacity width : Int) ≤ 2 * n)
    (upper : 2 * n < capacity width) : Writes codepage t (bytesOfInt width n) (.signed n)
  /-- A number that fits into its word. -/
  | unsigned {t : ValueType} {width n : Nat} (kind : t.interpretation? = some .unsigned)
    (fixed : t.encoding = .fixed width) (fits : n < capacity width) :
    Writes codepage t (bytes width n) (.unsigned n)
  /-- Any byte. -/
  | boolean (b : UInt8) : Writes codepage .boolean [b] (.boolean (b != 0))
  /-- The ticks of an instant. -/
  | instant (t : Filetime) : Writes codepage .filetime (bytes 8 t.ticks.toNat) (.instant t)
  /-- The bytes of an identifier. -/
  | identifier (g : Guid) : Writes codepage .guid g.bytes (.identifier g)
  /-- A text in units of two bytes with a zero after it. -/
  | wide (text : String) : Writes codepage .unicodeString (wideValue text)
      (.text (String.ofList (text.toList.takeWhile (· != '\x00'))))
  /-- A text without zeros in UTF-8, with or without a zero after it. -/
  | narrow {t : ValueType} {text : String} {ending : List UInt8} (utf8 : codepage = .utf8)
    (kind : t = .codepageString ∨ t = .binaryString)
    (no_zero : ∀ c ∈ text.toList, c ≠ '\x00') (ends : ending = [] ∨ ending = [0]) :
    Writes codepage t (countedValue (Text.Utf8.bytes text ++ ending)) (.text text)

variable {codepage : Codepage} {t : ValueType} {value data : List UInt8} {v : Reading}

/-! ### What is taken as the value -/

theorem payload?_fixed {width : Nat} (fixed : t.encoding = .fixed width)
    (length_eq : data.length = width) : t.encoding.payload? data = some data := by
  rw [fixed, ValueEncoding.payload?, if_pos (Nat.le_of_eq length_eq.symm), ← length_eq,
    List.take_length]

/-- All of the bytes are there behind their count, if it can be told. -/
theorem payload?_countedValue (counted : t.encoding = .counted 1)
    (short : data.length < UInt32.size) :
    t.encoding.payload? (countedValue data) = some data := by
  rw [counted, countedValue, countBytes_eq, ValueEncoding.payload?_counted,
    UInt32.toNat_ofNat_of_lt' short, Nat.mul_one, if_pos (Nat.le_refl _), List.take_length]

/-! ### What is read of the value -/

namespace Record

variable {r : Record} {width : Nat}

theorem fixed_of_data (hdata : r.data = data) (length_eq : data.length = width) :
    r.fixed width = .ok ⟨data, length_eq⟩ := by
  subst hdata
  exact fixed_of_length length_eq

theorem fixedNat_of_data {n : Nat} (hdata : r.data = bytes width n) (fits : n < capacity width) :
    r.fixedNat width = .ok n := by
  rw [fixedNat, fixed_of_data hdata (length_bytes ..), ok_map, toNat_bytes_of_lt fits]

theorem unsigned_of_data {n : Nat} (kind : r.valueType.interpretation? = some .unsigned)
    (fixed : r.valueType.encoding = .fixed width) (fits : n < capacity width)
    (hdata : r.data = bytes width n) : r.unsigned = .ok n := by
  rw [unsigned_eq_fixedNat kind fixed, fixedNat_of_data hdata fits]

theorem signed_of_data {n : Int} (kind : r.valueType.interpretation? = some .signed)
    (fixed : r.valueType.encoding = .fixed width) (lower : -(capacity width : Int) ≤ 2 * n)
    (upper : 2 * n < capacity width) (hdata : r.data = bytesOfInt width n) : r.signed = .ok n := by
  rw [signed_eq_fixedInt kind fixed, fixedInt, fixed_of_data hdata (length_bytesOfInt ..), ok_map,
    toInt_bytesOfInt lower upper]

theorem boolean_of_data {b : UInt8} (kind : r.valueType = .boolean) (hdata : r.data = [b]) :
    r.boolean = .ok (b != 0) := by
  have fits : b.toNat < capacity 1 := b.toNat_lt
  have word : [b] = bytes 1 b.toNat := by rw [bytes, bytes, UInt8.ofNat_toNat]
  have zero : (b.toNat != 0) = (b != 0) := by
    rw [Bool.eq_iff_iff, bne_iff_ne, bne_iff_ne]
    exact not_congr (UInt8.toNat_inj (b := 0))
  rw [boolean, kind]
  simp only [fixedNat_of_data (hdata.trans word) fits, ok_map, zero]

theorem instant_of_data {ft : Filetime} (kind : r.valueType = .filetime)
    (hdata : r.data = bytes 8 ft.ticks.toNat) : r.instant = .ok ft := by
  have fits : ft.ticks.toNat < capacity 8 := ft.ticks.toNat_lt
  rw [instant, kind]
  simp only [fixedNat_of_data hdata fits, ok_map, UInt64.ofNat_toNat]

theorem identifier_of_data {g : Guid} (kind : r.valueType = .guid) (hdata : r.data = g.bytes) :
    r.identifier = .ok g := by
  rw [identifier, kind]
  simp only [fixed_of_data hdata g.length_bytes, ok_map]

/-- A text in units of two bytes is read up to its first zero, or to the one behind it. -/
theorem text_of_wideText {text : String} (kind : r.valueType = .unicodeString)
    (hdata : r.data = wideText text) :
    r.text = .ok (String.ofList (text.toList.takeWhile (· != '\x00'))) := by
  have even : r.data.length % 2 = 0 := by
    rw [hdata, wideText, Text.Utf16.length_bytes, Nat.mul_mod_left]
  have wide : r.wideText? = some (String.ofList (text.toList.takeWhile (· != '\x00'))) := by
    rw [wideText?, if_pos even, hdata, wideText, Text.Utf16.units_bytes,
      Text.Utf16.beforeZero_encode, Text.Utf16.decode?_encode, Option.map_some]
  rw [Record.text, kind]
  simp only [wide, Option.elim_some]

/-- A text in UTF-8 without zeros is read to its end, whether or not there is a zero behind it. -/
theorem text_of_utf8 {text : String} {ending : List UInt8}
    (kind : r.valueType = .codepageString ∨ r.valueType = .binaryString)
    (utf8 : r.codepage = .utf8) (no_zero : ∀ c ∈ text.toList, c ≠ '\x00')
    (ends : ending = [] ∨ ending = [0]) (hdata : r.data = Text.Utf8.bytes text ++ ending) :
    r.text = .ok text := by
  have ends' : ending = [] ∨ ∃ more, ending = 0 :: more := ends.imp_right fun h => ⟨[], h⟩
  have narrow : r.narrowText? = some text := by
    rw [narrowText?, utf8, hdata, Text.Utf8.takeWhile_bytes no_zero ends',
      Text.Utf8.decode?_bytes]
  rw [Record.text]
  obtain kind | kind := kind <;> rw [kind] <;> simp only [narrow, Option.elim_some]

end Record

/-- What was written as a value is read of any record that has what is taken of it. -/
theorem Writes.payload (h : Writes codepage t value v) (short : value.length < UInt32.size) :
    ∃ data, t.encoding.payload? value = some data ∧
      ∀ r : Record, r.valueType = t → r.codepage = codepage → r.data = data →
        r.read v.interpretation = .ok v := by
  cases h with
  | signed kind fixed lower upper =>
    refine ⟨_, payload?_fixed fixed (length_bytesOfInt ..), ?_⟩
    rintro r rfl - hdata
    rw [Reading.interpretation, Record.read, Record.signed_of_data kind fixed lower upper hdata,
      ok_map]
  | unsigned kind fixed fits =>
    refine ⟨_, payload?_fixed fixed (length_bytes ..), ?_⟩
    rintro r rfl - hdata
    rw [Reading.interpretation, Record.read, Record.unsigned_of_data kind fixed fits hdata, ok_map]
  | boolean b =>
    refine ⟨_, payload?_fixed rfl rfl, ?_⟩
    rintro r kind - hdata
    rw [Reading.interpretation, Record.read, Record.boolean_of_data kind hdata, ok_map]
  | instant ft =>
    refine ⟨_, payload?_fixed rfl (length_bytes ..), ?_⟩
    rintro r kind - hdata
    rw [Reading.interpretation, Record.read, Record.instant_of_data kind hdata, ok_map]
  | identifier g =>
    refine ⟨_, payload?_fixed rfl g.length_bytes, ?_⟩
    rintro r kind - hdata
    rw [Reading.interpretation, Record.read, Record.identifier_of_data kind hdata, ok_map]
  | wide text =>
    rw [wideValue, List.length_append] at short
    refine ⟨_, payload?_wideValue (by omega), ?_⟩
    rintro r kind - hdata
    rw [Reading.interpretation, Record.read, Record.text_of_wideText kind hdata, ok_map]
  | narrow utf8 kind no_zero ends =>
    have counted : t.encoding = .counted 1 := by obtain rfl | rfl := kind <;> rfl
    rw [countedValue, List.length_append] at short
    refine ⟨_, payload?_countedValue counted (by omega), ?_⟩
    rintro r rfl hcodepage hdata
    rw [Reading.interpretation, Record.read,
      Record.text_of_utf8 kind (hcodepage.trans utf8) no_zero ends hdata, ok_map]

/-! ### Values in drafts -/

/-- The draft of a record that holds what was written as a value, no longer than is allowed, with
what should be read of it. -/
inductive RecordDraft.Holds (options : DecodeOptions) :
    RecordLayout → RecordDraft → Reading → Prop where
  /-- It is keyed by a number. -/
  | numeric (entryType : UInt32) {t : ValueType} {value : List UInt8} {v : Reading}
    (writes : Writes options.codepage t value v)
    (small : ∀ data ∈ t.encoding.payload? value, data.length ≤ options.maxValueSize) :
    Holds options .numeric (.numeric entryType t.code value) v
  /-- It is keyed by a name. -/
  | named (name : String) {t : ValueType} {value : List UInt8} {v : Reading}
    (writes : Writes options.codepage t value v)
    (small : ∀ data ∈ t.encoding.payload? value, data.length ≤ options.maxValueSize) :
    Holds options .named (.named name t.code value) v

/-- A set of which every record holds a value, or can be read as it stands. -/
structure SetDraft.Valued (options : DecodeOptions) (d : SetDraft) : Prop where
  signature_eq : d.signature = Signature.bytes .serializedPropertyStorage
  length_lt : d.bytes.length < UInt32.size
  ends : d.sentinel = true ∨ d.trailing = []
  records (r : RecordDraft) (hr : r ∈ d.records) :
    (∃ v, r.Holds options (.ofIdentifier d.identifier) v) ∨
      r.Readable options.maxValueSize (.ofIdentifier d.identifier)

/-- What the second record has is what the first one holds, if that is a value. -/
def RecordDraft.GivesBack (options : DecodeOptions) (layout : RecordLayout) (d : RecordDraft)
    (r : Record) : Prop :=
  ∀ v, d.Holds options layout v → r.read v.interpretation = .ok v

variable {options : DecodeOptions} {layout : RecordLayout}

theorem RecordKey.length_le_draft (key : RecordKey) (code : UInt16) (value : List UInt8) :
    value.length ≤ (key.draft code value).bytes.length := by
  cases key with
  | numeric entryType =>
    rw [draft, RecordDraft.bytes_numeric, RecordDraft.valueBytes]
    simp only [List.length_append]
    omega
  | named name =>
    rw [draft, RecordDraft.bytes_named, RecordDraft.valueBytes]
    simp only [List.length_append]
    omega

namespace RecordDraft

variable {d : RecordDraft} {r : Record}

/-- A value is held under a key. -/
theorem Holds.inv (h : d.Holds options layout v) :
    ∃ (key : RecordKey) (t : ValueType) (value : List UInt8), d = key.draft t.code value ∧
      Writes options.codepage t value v := by
  cases h with
  | numeric entryType writes => exact ⟨.numeric entryType, _, _, rfl, writes⟩
  | named name writes => exact ⟨.named name, _, _, rfl, writes⟩

/-- A record that holds a value can be read. -/
theorem Holds.readable (h : d.Holds options layout v) (short : d.bytes.length < UInt32.size) :
    d.Readable options.maxValueSize layout := by
  cases h with
  | @numeric entryType t value _ writes small =>
    have inside := RecordKey.length_le_draft (.numeric entryType) t.code value
    obtain ⟨data, begins, -⟩ := writes.payload (Nat.lt_of_le_of_lt inside short)
    exact Readable.numeric entryType begins (small data begins)
  | @named name t value _ writes small =>
    have inside := RecordKey.length_le_draft (.named name) t.code value
    obtain ⟨data, begins, -⟩ := writes.payload (Nat.lt_of_le_of_lt inside short)
    exact Readable.named name begins (small data begins)

/-- What is read of a draft gives back the value that the draft holds. -/
theorem ReadsAs.givesBack (reads : d.ReadsAs options.codepage r)
    (short : d.bytes.length < UInt32.size) : d.GivesBack options layout r := by
  intro v holds
  obtain ⟨key, value, hd, -, begins, codepage_eq⟩ := reads.inv
  obtain ⟨key', t, value', hd', writes⟩ := holds.inv
  rw [hd] at hd'
  obtain ⟨rfl, hcode, rfl⟩ := RecordKey.draft_inj hd'
  obtain rfl := ValueType.code_inj hcode
  have inside := RecordKey.length_le_draft key r.valueType.code value
  rw [← hd] at inside
  obtain ⟨data, taken, read⟩ := writes.payload (Nat.lt_of_le_of_lt inside short)
  rw [begins, Option.some.injEq] at taken
  exact read r rfl codepage_eq taken

end RecordDraft

namespace SetDraft

variable {d : SetDraft} {s : PropertySet}

theorem length_lt_of_mem {r : RecordDraft} (short : d.bytes.length < UInt32.size)
    (hr : r ∈ d.records) : r.bytes.length < UInt32.size := by
  have inside := length_le_flatMap (f := RecordDraft.bytes) hr
  rw [bytes_eq] at short
  simp only [List.length_append] at short
  omega

theorem Valued.readable (h : d.Valued options) : d.Readable options where
  signature_eq := h.signature_eq
  length_lt := h.length_lt
  ends := h.ends
  records r hr := by
    obtain ⟨v, holds⟩ | readable := h.records r hr
    · exact holds.readable (length_lt_of_mem h.length_lt hr)
    · exact readable

/-- What is read of a draft gives back the values that its records hold. -/
theorem ReadsAs.givesBack (reads : d.ReadsAs options s) (short : d.bytes.length < UInt32.size) :
    List.Forall₂ (RecordDraft.GivesBack options layout) d.records s.records := by
  have each : ∀ r ∈ d.records, r.bytes.length < UInt32.size := fun r hr => length_lt_of_mem short hr
  have both := (List.forall₂_and_left _ _).mpr ⟨each, reads.records⟩
  exact both.imp fun r r' h => h.2.givesBack h.1

end SetDraft

/-- **What was written as values is read as them.** A store whose records hold values, or can be
read as they stand, is read; and wherever a record holds a value, the record that is read there
gives it back in the way for its kind. -/
theorem StoreDraft.decode_values (options : DecodeOptions) (d : StoreDraft)
    (valued : ∀ s ∈ d.sets, s.Valued options) :
    ∃ sets, Store.decode options d.bytes.toArray = .ok ⟨sets, d.bytes.length⟩ ∧
      List.Forall₂ (fun s s' => List.Forall₂
        (RecordDraft.GivesBack options (.ofIdentifier s.identifier)) s.records s'.records)
        d.sets sets := by
  have each (s : SetDraft) (hs : s ∈ d.sets) : ∃ s', IsSet options s.bytes s' ∧
      List.Forall₂ (RecordDraft.GivesBack options (.ofIdentifier s.identifier))
        s.records s'.records := by
    obtain ⟨s', isSet, reads⟩ := SetDraft.isSet_of_readable (valued s hs).readable
    exact ⟨s', isSet, reads.givesBack (valued s hs).length_lt⟩
  obtain ⟨sets, run, hsets⟩ := Run.of_flatMap each
  refine ⟨sets, ?_, hsets⟩
  have hinput : d.sets.flatMap SetDraft.bytes ++ zeroWord d.terminator =
      d.bytes.toArray.toList := rfl
  rw [Store.decode_of_isEnd run (isEnd_zeroWord sets.isEmpty d.terminator) hinput,
    List.size_toArray]

/-- A set with the least amount of money, a status code, a byte that is true, an instant, a text of
which a zero is a part, and a text in UTF-8 with a zero behind it; then one with a small negative
number, an identifier, and bytes that are no value. -/
def StoreDraft.varied : StoreDraft where
  sets := [
    { identifier := .zero
      records := [
        .numeric 1 (ValueType.code .currency) (bytesOfInt 8 (-0x8000000000000000)),
        .numeric 2 (ValueType.code .error) (LittleEndian.bytes 4 0x80004005),
        .numeric 3 (ValueType.code .boolean) [7],
        .numeric 4 (ValueType.code .filetime) (LittleEndian.bytes 8 1),
        .string 5 (String.ofList [Char.ofNat 0x1F600, '\x00', 'x']),
        .numeric 6 (ValueType.code .binaryString)
          (countedValue (Text.Utf8.bytes (String.ofList ['é']) ++ [0]))] },
    { identifier := FormatClass.identifier .userDefinedProperties
      records := [
        .named (String.ofList ['n']) (ValueType.code .int16) (bytesOfInt 2 (-2)),
        .named (String.ofList ['g']) (ValueType.code .guid) Guid.zero.bytes,
        .named (String.ofList ['b']) (ValueType.code .blob) (countedValue [1, 2])]
      sentinel := false }]

theorem StoreDraft.decode_varied :
    (∀ s ∈ varied.sets, s.Valued { codepage := .utf8 }) ∧
      ∃ sets, Store.decode { codepage := .utf8 } varied.bytes.toArray =
        .ok ⟨sets, varied.bytes.length⟩ ∧
        List.Forall₂ (fun s s' => List.Forall₂
          (RecordDraft.GivesBack { codepage := .utf8 } (.ofIdentifier s.identifier))
          s.records s'.records) varied.sets sets := by
  have valued : ∀ s ∈ varied.sets, s.Valued { codepage := .utf8 } := by
    intro s hs
    obtain rfl | rfl := List.mem_pair.mp hs
    · refine ⟨rfl, by decide +kernel, Or.inl rfl, ?_⟩
      intro r hr
      simp only [List.mem_cons, List.not_mem_nil, or_false] at hr
      left
      obtain rfl | rfl | rfl | rfl | rfl | rfl := hr
      · exact ⟨_, .numeric 1 (.signed rfl rfl (by decide) (by decide)) (by decide)⟩
      · have fits : 0x80004005 < capacity 4 := by decide
        exact ⟨_, .numeric 2 (.unsigned rfl rfl fits) (by decide)⟩
      · exact ⟨_, .numeric 3 (.boolean 7) (by decide)⟩
      · exact ⟨_, .numeric 4 (.instant ⟨1⟩) (by decide)⟩
      · exact ⟨_, .numeric 5 (.wide _) (by decide)⟩
      · have no_zero : ∀ c ∈ (String.ofList ['é']).toList, c ≠ '\x00' := by simp
        exact ⟨_, .numeric 6 (.narrow rfl (Or.inr rfl) no_zero (Or.inr rfl)) (by decide)⟩
    · refine ⟨rfl, by decide, Or.inr rfl, ?_⟩
      intro r hr
      simp only [List.mem_cons, List.not_mem_nil, or_false] at hr
      obtain rfl | rfl | rfl := hr
      · exact Or.inl ⟨_, .named _ (.signed rfl rfl (by decide) (by decide)) (by decide)⟩
      · exact Or.inl ⟨_, .named _ (.identifier .zero) (by decide)⟩
      · have begins : ValueType.blob.encoding.payload? (countedValue [1, 2]) = some [1, 2] := rfl
        exact Or.inr (.named _ begins (by decide))
  exact ⟨valued, StoreDraft.decode_values _ varied valued⟩

end PropertyStore
