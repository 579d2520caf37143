import Mathlib.Data.List.TakeWhile
import PropertyStore.Proofs.Draft

/-!
# The canonical form of a store

A store that was read can be drafted again from what was read (`Store.draft`): every set from its
identifier and its records, every record from its key, its kind and its value, with a count in
front where the kind has one. This leaves out what a reader passes over, so the bytes are not those
that were read. They are read as the same sets and records (`ReadAgain`), though of other sizes, and
drafted again they are the same bytes: the canonical form of the store.

Not every draft can be read, and not every one is read as what it says. What was read is `Plain`:
its key is one for the layout, its name has no zero, its value is as long as a count of its units
can say. The draft of such a record can be read, and is read as that record.
-/

namespace PropertyStore

open LittleEndian

/-! ### What was read, as a draft -/

/-- A value as it is to lie in a record: behind a count of its units, if its kind has one. -/
def ValueEncoding.written : ValueEncoding → List UInt8 → List UInt8
  | .fixed _, data => data
  | .counted unit, data => countBytes (data.length / unit) ++ data

/-- The draft of a record with this key. -/
def RecordKey.draft (code : UInt16) (value : List UInt8) : RecordKey → RecordDraft
  | .numeric entryType => .numeric entryType code value
  | .named name => .named name code value

/-- The draft of a record that was read. -/
def Record.draft (r : Record) : RecordDraft :=
  r.key.draft r.valueType.code (r.valueType.encoding.written r.data)

/-- The draft of a set that was read. -/
def PropertySet.draft (s : PropertySet) : SetDraft where
  identifier := s.identifier
  records := s.records.map Record.draft

/-- The draft of a store that was read. -/
def Store.draft (store : Store) : StoreDraft where
  sets := store.sets.map PropertySet.draft

/-! ### The same, read again -/

/-- The second record is the first one, but for its size. -/
structure Record.ReadAgain (r r' : Record) : Prop where
  key_eq : r'.key = r.key
  valueType_eq : r'.valueType = r.valueType
  data_eq : r'.data = r.data
  codepage_eq : r'.codepage = r.codepage

/-- The second set is the first one, but for the sizes, and has no trailing bytes. -/
structure PropertySet.ReadAgain (s s' : PropertySet) : Prop where
  identifier_eq : s'.identifier = s.identifier
  trailing_eq : s'.trailingBytes = 0
  records : List.Forall₂ Record.ReadAgain s.records s'.records

theorem map_eq_of_forall₂ {α β : Type} {R : α → α → Prop} {f : α → β} {xs ys : List α}
    (h : List.Forall₂ R xs ys) (same : ∀ x y, R x y → f y = f x) : ys.map f = xs.map f := by
  induction h with
  | nil => rfl
  | cons hxy _ ih => rw [List.map_cons, List.map_cons, same _ _ hxy, ih]

/-- A record that is read again has the same draft. -/
theorem Record.ReadAgain.draft_eq (r r' : Record) (h : r.ReadAgain r') : r'.draft = r.draft := by
  rw [Record.draft, h.key_eq, h.valueType_eq, h.data_eq, ← Record.draft]

theorem PropertySet.ReadAgain.draft_eq (s s' : PropertySet) (h : s.ReadAgain s') :
    s'.draft = s.draft := by
  rw [PropertySet.draft, h.identifier_eq, map_eq_of_forall₂ h.records Record.ReadAgain.draft_eq,
    ← PropertySet.draft]

/-! ### What is true of a record that was read -/

/-- The key is one for the layout, and has no zero if it is a name. -/
inductive RecordKey.Plain : RecordLayout → RecordKey → Prop where
  /-- Any number may be a key. -/
  | numeric (entryType : UInt32) : Plain .numeric (.numeric entryType)
  /-- A name ends before its first zero. -/
  | named {name : String} (no_zero : ∀ c ∈ name.toList, c ≠ '\x00') : Plain .named (.named name)

/-- What a record is by being read, whatever its bytes were. -/
structure Record.Plain (layout : RecordLayout) (options : DecodeOptions) (r : Record) : Prop where
  key : r.key.Plain layout
  value : r.valueType.encoding.payload? (r.valueType.encoding.written r.data) = some r.data
  small : r.data.length ≤ options.maxValueSize
  codepage_eq : r.codepage = options.codepage

variable {layout : RecordLayout} {options : DecodeOptions}

theorem RecordKey.nameText_no_zero (name : List UInt8) :
    ∀ c ∈ (nameText name).toList, c ≠ '\x00' := by
  intro c hc
  rw [nameText, String.toList_ofList] at hc
  have units : ∀ u ∈ Text.Utf16.beforeZero (Text.Utf16.units name), u ≠ 0 := fun u hu =>
    bne_iff_ne.mp (List.mem_takeWhile_imp (p := (· != 0)) hu)
  exact Text.Utf16.ne_zero_of_mem_decodeLossy units hc

/-- A value is as long as its count says, so it is found again behind a count of its units. -/
theorem IsCount.payload?_written {encoding : ValueEncoding} {count data : List UInt8}
    (h : IsCount encoding count data.length) :
    encoding.payload? (encoding.written data) = some data := by
  generalize hn : data.length = n at h
  cases h with
  | fixed width =>
    rw [ValueEncoding.written, ValueEncoding.payload?, ← hn, if_pos (Nat.le_refl _),
      List.take_length]
  | counted unit count =>
    have units : (UInt32.ofNat (data.length / unit)).toNat * unit = data.length := by
      obtain rfl | pos := Nat.eq_zero_or_pos unit
      · rw [hn, Nat.mul_zero, Nat.mul_zero]
      · rw [hn, Nat.mul_div_cancel _ pos, UInt32.ofNat_toNat]
    rw [ValueEncoding.written, countBytes_eq, ValueEncoding.payload?_counted, units,
      if_pos (Nat.le_refl _), List.take_length]

theorem HasFields.plain {bs : List UInt8} {r : Record} (h : HasFields layout options bs r) :
    r.Plain layout options := by
  obtain ⟨⟨t, isHead, -⟩, isCount, small, -⟩ := h
  refine ⟨?_, isCount.payload?_written, small, rfl⟩
  cases isHead with
  | numeric size field => exact RecordKey.Plain.numeric field
  | named => exact RecordKey.Plain.named (RecordKey.nameText_no_zero _)

/-! ### The draft of a record that was read -/

/-- What is left of a key when it is drafted and read: of a name, what comes before a zero. -/
def RecordKey.beforeZero : RecordKey → RecordKey
  | .numeric entryType => .numeric entryType
  | .named name => .named (String.ofList (name.toList.takeWhile (· != '\x00')))

theorem RecordKey.Plain.beforeZero_eq {key : RecordKey} (h : key.Plain layout) :
    key.beforeZero = key := by
  cases h with
  | numeric => rfl
  | @named name no_zero =>
    have whole : name.toList.takeWhile (· != '\x00') = name.toList :=
      List.takeWhile_eq_self_iff.mpr fun c hc => bne_iff_ne.mpr (no_zero c hc)
    rw [RecordKey.beforeZero, whole, String.ofList_toList]

theorem RecordKey.draft_inj {key key' : RecordKey} {code code' : UInt16} {value value' : List UInt8}
    (h : key.draft code value = key'.draft code' value') :
    key = key' ∧ code = code' ∧ value = value' := by
  cases key <;> cases key' <;> cases h <;> exact ⟨rfl, rfl, rfl⟩

/-- What is read of a draft is what the draft has. -/
theorem RecordDraft.ReadsAs.inv {codepage : Codepage} {d : RecordDraft} {r : Record}
    (h : d.ReadsAs codepage r) :
    ∃ (key : RecordKey) (value : List UInt8), d = key.draft r.valueType.code value ∧
      r.key = key.beforeZero ∧ r.valueType.encoding.payload? value = some r.data ∧
      r.codepage = codepage := by
  cases h with
  | @numeric entryType _ _ _ _ _ begins =>
    exact ⟨.numeric entryType, _, rfl, rfl, begins, rfl⟩
  | @named name _ _ _ _ _ begins => exact ⟨.named name, _, rfl, rfl, begins, rfl⟩

namespace Record.Plain

variable {r r' : Record}

/-- The draft can be read. -/
theorem readable (h : r.Plain layout options) : r.draft.Readable options.maxValueSize layout := by
  obtain ⟨size, key, t, data, codepage⟩ := r
  obtain ⟨plain, value, small, -⟩ := h
  cases plain with
  | numeric entryType => exact RecordDraft.Readable.numeric entryType value small
  | named => exact RecordDraft.Readable.named _ value small

/-- What is read of the draft is the record again. -/
theorem readAgain (h : r.Plain layout options) (reads : r.draft.ReadsAs options.codepage r') :
    r.ReadAgain r' := by
  obtain ⟨key, value, hd, key_eq, begins, codepage_eq⟩ := reads.inv
  obtain ⟨rfl, hcode, rfl⟩ := RecordKey.draft_inj hd
  have valueType_eq := ValueType.code_inj hcode
  rw [← valueType_eq, h.value, Option.some.injEq] at begins
  exact ⟨key_eq.trans h.key.beforeZero_eq, valueType_eq.symm, begins.symm,
    codepage_eq.trans h.codepage_eq.symm⟩

end Record.Plain

/-! ### Sets and stores -/

theorem IsSet.plain {bs : List UInt8} {s : PropertySet} (h : IsSet options bs s) :
    ∀ r ∈ s.records, r.Plain (.ofIdentifier s.identifier) options := by
  obtain ⟨⟨isLayout, run, -⟩, -⟩ := h
  obtain rfl := isLayout_iff.mp isLayout
  exact run.forall_mem fun _ _ isRecord => isRecord.hasFields.plain

theorem SetDraft.ReadsAs.readAgain {s s' : PropertySet}
    (plain : ∀ r ∈ s.records, r.Plain (.ofIdentifier s.identifier) options)
    (reads : s.draft.ReadsAs options s') : s.ReadAgain s' := by
  refine ⟨reads.identifier_eq, reads.trailing_eq, ?_⟩
  have records := List.forall₂_map_left_iff.mp reads.records
  have both := (List.forall₂_and_left _ _).mpr ⟨plain, records⟩
  exact both.imp fun r r' h => h.1.readAgain h.2

/-- The draft of a set that was read is that set again, if its size can be told. -/
theorem PropertySet.isSet_draft {s : PropertySet}
    (plain : ∀ r ∈ s.records, r.Plain (.ofIdentifier s.identifier) options)
    (short : s.draft.bytes.length < UInt32.size) :
    ∃ s', IsSet options s.draft.bytes s' ∧ s.ReadAgain s' := by
  have readable : s.draft.Readable options := by
    refine ⟨rfl, short, Or.inl rfl, fun d hd => ?_⟩
    obtain ⟨r, hr, rfl⟩ := List.mem_map.mp hd
    exact (plain r hr).readable
  obtain ⟨s', isSet, reads⟩ := SetDraft.isSet_of_readable readable
  exact ⟨s', isSet, reads.readAgain plain⟩

namespace Store

/-- **A store that was read has a canonical form.** The draft of what was read is read as the same
sets, with the same records, and its bytes are those of the draft of what is read then; provided
that the size of each set can be told. -/
theorem decode_draft (options : DecodeOptions) {input : Array UInt8} {store : Store}
    (hok : decode options input = .ok store)
    (short : ∀ s ∈ store.sets, s.draft.bytes.length < UInt32.size) :
    ∃ again, decode options store.draft.bytes.toArray = .ok again ∧
      List.Forall₂ PropertySet.ReadAgain store.sets again.sets ∧
      again.draft.bytes = store.draft.bytes := by
  obtain ⟨front, rest, -, run, -⟩ := run_of_decode hok
  have plain := run.forall_mem fun _ _ isSet => isSet.plain
  obtain ⟨again, run', readAgain⟩ := Run.of_flatMap fun s hs =>
    PropertySet.isSet_draft (plain s hs) (short s hs)
  have hbytes : (store.sets.flatMap fun s => s.draft.bytes) ++ zeroWord true =
      store.draft.bytes.toArray.toList := by
    rw [draft, StoreDraft.bytes, List.flatMap_map]
  have same : again.map PropertySet.draft = store.sets.map PropertySet.draft :=
    map_eq_of_forall₂ readAgain PropertySet.ReadAgain.draft_eq
  refine ⟨_, decode_of_isEnd run' (isEnd_zeroWord _ true) hbytes, readAgain, ?_⟩
  rw [draft, draft, same]

/-- A worn store is written again without the bytes that are passed over, and with a zero behind its
one set. -/
theorem decode_draft_worn :
    decode {} (worn 7) = .ok ⟨[.worn .windows1252], 58⟩ ∧
      (PropertySet.worn .windows1252).draft.bytes.length < UInt32.size ∧
      ∃ again, decode {} (draft ⟨[.worn .windows1252], 58⟩).bytes.toArray = .ok again ∧
        List.Forall₂ PropertySet.ReadAgain [.worn .windows1252] again.sets ∧
        again.draft.bytes = (draft ⟨[.worn .windows1252], 58⟩).bytes := by
  have hok : decode {} (worn 7) = .ok ⟨[.worn .windows1252], 58⟩ := decode_worn (by decide) 7
  have short : (PropertySet.worn .windows1252).draft.bytes.length < UInt32.size := by decide
  have all : ∀ s ∈ [PropertySet.worn .windows1252], s.draft.bytes.length < UInt32.size := by
    intro s hs
    rwa [List.mem_singleton.mp hs]
  exact ⟨hok, short, decode_draft {} hok all⟩

end Store

end PropertyStore
