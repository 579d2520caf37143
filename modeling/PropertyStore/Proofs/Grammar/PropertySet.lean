import PropertyStore.Proofs.Grammar.Record
import PropertyStore.PropertySet.Decode

/-!
# What a set is, and what can be wrong with one

The bytes of a set, as a grammar: its size, the signature, an identifier, a run of records,
and a tail. The identifier settles how the records are keyed (`IsLayout`). The tail is empty, or
it is four zero bytes and then any bytes, which are counted.

Where a record should start, the chain of records may break off in three ways
(`ChainDefect`): fewer than four bytes are left, the size says more than is left, or the
window of that size has a defect of its own. A set is wrong (`SetDefect`) in its size, in
its signature, or where its chain breaks off. `set_or_defect` says that there is nothing
else.
-/

namespace PropertyStore

open LittleEndian

theorem word32_inj {v w : UInt32} {a b : List UInt8} (h : word32 v ++ a = word32 w ++ b) :
    v = w ∧ a = b := by
  obtain ⟨hw, hab⟩ := List.append_inj h (by simp)
  refine ⟨UInt32.toNat_inj.mp ?_, hab⟩
  rw [← toNat_word32 v, hw, toNat_word32]

theorem toNat_eq_zero_iff {w : UInt32} : w.toNat = 0 ↔ w = 0 := UInt32.toNat_inj (b := 0)

/-! ### Sets -/

/-- The bytes after the last record of a set, with how many of them are trailing. -/
inductive IsTail : List UInt8 → Nat → Prop where
  /-- The set ends with its last record. -/
  | none : IsTail [] 0
  /-- A size of zero ends the chain, and any bytes may follow. -/
  | sentinel (trailing : List UInt8) : IsTail (word32 0 ++ trailing) trailing.length

/-- How the records of a set are keyed, by its identifier. -/
inductive IsLayout (identifier : Guid) : RecordLayout → Prop where
  /-- User defined properties are keyed by name. -/
  | named (user : identifier = FormatClass.identifier .userDefinedProperties) :
    IsLayout identifier .named
  /-- All others are keyed by number. -/
  | numeric (other : identifier ≠ FormatClass.identifier .userDefinedProperties) :
    IsLayout identifier .numeric

theorem isLayout_iff {identifier : Guid} {layout : RecordLayout} :
    IsLayout identifier layout ↔ layout = .ofIdentifier identifier := by
  have named : RecordLayout.ofIdentifier identifier = .named ↔
      identifier = FormatClass.identifier .userDefinedProperties :=
    RecordLayout.ofIdentifier_eq_named_iff
  constructor
  · rintro (user | other)
    · exact (named.mpr user).symm
    · cases h : RecordLayout.ofIdentifier identifier with
      | named => exact absurd (named.mp h) other
      | numeric => rfl
  · rintro rfl
    cases h : RecordLayout.ofIdentifier identifier with
    | named => exact IsLayout.named (named.mp h)
    | numeric => exact IsLayout.numeric fun user => by cases h.symm.trans (named.mpr user)

/-- An identifier settles how records are keyed. -/
theorem IsLayout.unique {identifier : Guid} {layout layout' : RecordLayout}
    (h : IsLayout identifier layout) (h' : IsLayout identifier layout') : layout = layout' :=
  (isLayout_iff.mp h).trans (isLayout_iff.mp h').symm

theorem isLayout_ofIdentifier (identifier : Guid) :
    IsLayout identifier (.ofIdentifier identifier) := isLayout_iff.mpr rfl

/-- The bytes of a set after its size. -/
inductive IsBody (options : DecodeOptions) (size : UInt32) : List UInt8 → PropertySet → Prop where
  /-- The identifier settles how the records are keyed. -/
  | mk {identifier : Guid} {layout : RecordLayout} {chain tail : List UInt8}
    {records : List Record} {trailing : Nat} (isLayout : IsLayout identifier layout)
    (run : Run (IsRecord layout options) chain records)
    (isTail : IsTail tail trailing) :
    IsBody options size
      (Signature.bytes .serializedPropertyStorage ++ identifier.bytes ++ (chain ++ tail))
      { size, signature := .serializedPropertyStorage, identifier, records,
        trailingBytes := trailing }

/-- The bytes are the set, and there are as many of them as its size says. -/
inductive IsSet (options : DecodeOptions) : List UInt8 → PropertySet → Prop where
  /-- The size comes first. -/
  | mk {size : UInt32} {body : List UInt8} {s : PropertySet} (isBody : IsBody options size body s)
    (length_eq : (word32 size ++ body).length = size.toNat) : IsSet options (word32 size ++ body) s

/-! ### Sets without records -/

/-- The set with an identifier and nothing else. -/
def PropertySet.bare (identifier : Guid) : PropertySet where
  size := 24
  signature := .serializedPropertyStorage
  identifier := identifier
  records := []
  trailingBytes := 0

/-- The bytes of that set: it is all header. -/
def PropertySet.bareBytes (identifier : Guid) : List UInt8 :=
  word32 24 ++ (Signature.bytes .serializedPropertyStorage ++ identifier.bytes ++ ([] ++ []))

theorem isSet_bare (options : DecodeOptions) (identifier : Guid) :
    IsSet options (PropertySet.bareBytes identifier) (PropertySet.bare identifier) := by
  refine IsSet.mk (IsBody.mk (isLayout_ofIdentifier identifier) Run.nil IsTail.none) ?_
  simp [identifier.length_bytes]

/-! ### A set with bytes that are passed over -/

/-- The bytes of a record with `x` wherever a byte is passed over: the reserved byte, the name
after its first zero and its odd last byte, the padding, and what comes after the value. -/
def Record.wornBytes (x : UInt8) : List UInt8 :=
  word32 27 ++ word32 7 ++ [x] ++ [0x41, 0, 0, 0, x, x, x] ++
    word16 (ValueType.code .unicodeString) ++ [x, x] ++ word32 1 ++ [0x43, 0] ++ [x]

/-- The record that they are, whatever `x` is. -/
def Record.worn (codepage : Codepage) : Record where
  size := 27
  key := .named "A"
  valueType := .unicodeString
  data := [0x43, 0]
  codepage := codepage

theorem isRecord_worn {options : DecodeOptions} (small : 2 ≤ options.maxValueSize) (x : UInt8) :
    IsRecord .named options (Record.wornBytes x) (Record.worn options.codepage) := by
  have isHead : IsHead .named (word32 27 ++ word32 7 ++ [x] ++ [0x41, 0, 0, 0, x, x, x]) 27
      (.named "A") := IsHead.named 27 7 x rfl
  have isOpening := IsOpening.mk .unicodeString isHead (rfl : [x, x].length = 2)
  have isCount : IsCount ValueType.unicodeString.encoding (word32 1) [0x43, (0 : UInt8)].length :=
    IsCount.counted 2 1
  exact ⟨HasFields.mk isOpening isCount small [x], rfl⟩

/-- The bytes of a set of that record, with `x` after the zero that ends its records. -/
def PropertySet.wornBytes (x : UInt8) : List UInt8 :=
  word32 56 ++ (Signature.bytes .serializedPropertyStorage ++
    (FormatClass.identifier .userDefinedProperties).bytes ++
      ((Record.wornBytes x ++ []) ++ (word32 0 ++ [x])))

/-- The set that they are. -/
def PropertySet.worn (codepage : Codepage) : PropertySet where
  size := 56
  signature := .serializedPropertyStorage
  identifier := FormatClass.identifier .userDefinedProperties
  records := [.worn codepage]
  trailingBytes := 1

theorem isSet_worn {options : DecodeOptions} (small : 2 ≤ options.maxValueSize) (x : UInt8) :
    IsSet options (PropertySet.wornBytes x) (PropertySet.worn options.codepage) :=
  have isBody := IsBody.mk (IsLayout.named rfl) (Run.cons (isRecord_worn small x) Run.nil)
    (IsTail.sentinel [x])
  IsSet.mk isBody rfl

/-! ### Defects of a set -/

/-- What is wrong at `start`, where there should be a record or the end of the chain. -/
inductive ChainDefect (layout : RecordLayout) (options : DecodeOptions) (start : Nat) :
    List UInt8 → DecodeError → Prop where
  /-- There is something left, but not a size. -/
  | short {bs : List UInt8} (pos : bs ≠ []) (less : bs.length < 4) :
    ChainDefect layout options start bs (.read (.outOfData start 4 bs.length))
  /-- The record would be longer than what is left of the set. -/
  | large {size : UInt32} {rest : List UInt8} (less : (word32 size ++ rest).length < size.toNat) :
    ChainDefect layout options start (word32 size ++ rest)
      (.sizeMismatch start size.toNat (word32 size ++ rest).length)
  /-- The window of the record has a defect. A size below four makes a window without a size. -/
  | record {size : UInt32} {window rest : List UInt8} {e : DecodeError}
    (starts : word32 size <+: window ++ rest)
    (pos : size ≠ 0) (length_eq : window.length = size.toNat)
    (defect : RecordDefect layout options start window e) :
    ChainDefect layout options start (window ++ rest) e

/-- What is wrong with the body of a set that starts at `start`. -/
inductive BodyDefect (options : DecodeOptions) (start : Nat) : List UInt8 → DecodeError → Prop where
  /-- The signature is not known. -/
  | signature {found : List UInt8} (four : found.length = 4)
    (unknown : found ≠ Signature.bytes .serializedPropertyStorage) (rest : List UInt8) :
    BodyDefect options start (found ++ rest) (.invalidSignature (start + 4) found)
  /-- The chain breaks off after some records. -/
  | chain {identifier : Guid} {layout : RecordLayout} {front rest : List UInt8}
    {records : List Record} {e : DecodeError} (isLayout : IsLayout identifier layout)
    (run : Run (IsRecord layout options) front records)
    (defect : ChainDefect layout options (start + 24 + front.length) rest e) :
    BodyDefect options start
      (Signature.bytes .serializedPropertyStorage ++ identifier.bytes ++ (front ++ rest)) e

/-- What is wrong at `start`, where there should be a set. -/
inductive SetDefect (options : DecodeOptions) (start : Nat) : List UInt8 → DecodeError → Prop where
  /-- There is no size. -/
  | missing {bs : List UInt8} (less : bs.length < 4) :
    SetDefect options start bs (.read (.outOfData start 4 bs.length))
  /-- The size leaves no room for the header. -/
  | small {size : UInt32} (rest : List UInt8) (less : size.toNat < 24) :
    SetDefect options start (word32 size ++ rest)
      (.sizeMismatch start size.toNat (word32 size ++ rest).length)
  /-- The set would be longer than what is left. -/
  | short {size : UInt32} {rest : List UInt8} (header : 24 ≤ size.toNat)
    (less : (word32 size ++ rest).length < size.toNat) :
    SetDefect options start (word32 size ++ rest)
      (.read (.outOfData start size.toNat (word32 size ++ rest).length))
  /-- The set is there, and its body has a defect. -/
  | body {size : UInt32} {body : List UInt8} {e : DecodeError} (header : 24 ≤ size.toNat)
    (length_eq : (word32 size ++ body).length = size.toNat)
    (defect : BodyDefect options start body e)
    (rest : List UInt8) : SetDefect options start (word32 size ++ body ++ rest) e

variable {layout : RecordLayout} {options : DecodeOptions}

/-- Where there is a size, it is too small, or too large for what is left, or the body has a
defect. -/
theorem SetDefect.of_size {start : Nat} {size : UInt32} {rest : List UInt8} {e : DecodeError}
    (defect : SetDefect options start (word32 size ++ rest) e) :
    (size.toNat < 24 ∧ e = .sizeMismatch start size.toNat (word32 size ++ rest).length) ∨
      24 ≤ size.toNat ∧
        (((word32 size ++ rest).length < size.toNat ∧
            e = .read (.outOfData start size.toNat (word32 size ++ rest).length)) ∨
          ∃ body more, rest = body ++ more ∧ (word32 size ++ body).length = size.toNat ∧
            BodyDefect options start body e) := by
  -- The bytes must be a variable for the case split; the size is recovered from them.
  generalize hbs : word32 size ++ rest = bs at defect
  cases defect with
  | missing less =>
    rw [← hbs, List.length_append, length_word32] at less
    omega
  | small more less =>
    obtain ⟨rfl, -⟩ := word32_inj hbs
    exact Or.inl ⟨less, rfl⟩
  | short header less =>
    obtain ⟨rfl, -⟩ := word32_inj hbs
    exact Or.inr ⟨header, Or.inl ⟨less, rfl⟩⟩
  | body header length_eq defect more =>
    rw [List.append_assoc] at hbs
    obtain ⟨rfl, rfl⟩ := word32_inj hbs
    exact Or.inr ⟨header, Or.inr ⟨_, more, rfl, length_eq, defect⟩⟩

/-! ### There is nothing else -/

/-- A record's fields start with its size. -/
theorem HasFields.starts {bs : List UInt8} {r : Record} (h : HasFields layout options bs r) :
    ∃ rest, bs = word32 r.size ++ rest := by
  obtain ⟨⟨t, isHead, -⟩, -, -, slack⟩ := h
  cases isHead <;> exact ⟨_, by simp only [List.append_assoc]; rfl⟩

theorem HasFields.thirteen_le {bs : List UInt8} {r : Record} (h : HasFields layout options bs r) :
    13 + r.data.length ≤ bs.length := by
  have room := h.fieldsSize_le
  rw [Record.fieldsSize] at room
  omega

theorem IsRecord.ne_nil (bs : List UInt8) (r : Record) (h : IsRecord layout options bs r) :
    bs ≠ [] := by
  rintro rfl
  have := h.hasFields.thirteen_le
  simp at this

/-- A record starts with its size, which is not zero. -/
theorem IsRecord.starts {bs : List UInt8} {r : Record} (h : IsRecord layout options bs r) :
    r.size ≠ 0 ∧ ∃ rest, bs = word32 r.size ++ rest := by
  refine ⟨?_, h.hasFields.starts⟩
  intro zero
  have room := h.hasFields.thirteen_le
  rw [h.length_eq, zero] at room
  simp at room

theorem record_or_defect (layout : RecordLayout) (options : DecodeOptions) (start : Nat)
    {size : UInt32} {bs : List UInt8} (starts : word32 size <+: bs) (pos : size ≠ 0)
    (fits : size.toNat ≤ bs.length) :
    (∃ e, ChainDefect layout options start bs e) ∨
      ∃ front rest r, bs = front ++ rest ∧ IsRecord layout options front r := by
  obtain h | ⟨window, rest, hlen, rfl⟩ := short_or_split size.toNat bs
  · exact absurd h (Nat.not_lt.mpr fits)
  obtain ⟨r, hr⟩ | ⟨e, he⟩ := fields_or_defect layout options start window
  · refine Or.inr ⟨window, rest, r, rfl, hr, ?_⟩
    obtain ⟨more, rfl⟩ := hr.starts
    obtain ⟨slack, hslack⟩ := starts
    rw [List.append_assoc] at hslack
    rw [hlen, (word32_inj hslack).1]
  · exact Or.inl ⟨e, ChainDefect.record starts pos hlen he⟩

/-- Where there should be a record, there is the end of the chain, or a defect, or a record. -/
theorem chain_step (layout : RecordLayout) (options : DecodeOptions) (start : Nat)
    (bs : List UInt8) :
    ((∃ n, IsTail bs n) ∨ ∃ e, ChainDefect layout options start bs e) ∨
      ∃ front rest r, bs = front ++ rest ∧ IsRecord layout options front r := by
  by_cases hnil : bs = []
  · subst hnil
    exact Or.inl (Or.inl ⟨0, IsTail.none⟩)
  obtain h | ⟨size, rest, rfl⟩ := short_or_word32 bs
  · exact Or.inl (Or.inr ⟨_, ChainDefect.short hnil h⟩)
  by_cases hzero : size = 0
  · subst hzero
    exact Or.inl (Or.inl ⟨_, IsTail.sentinel rest⟩)
  by_cases hfits : size.toNat ≤ (word32 size ++ rest).length
  · obtain h | h := record_or_defect layout options start (List.prefix_append ..) hzero hfits
    · exact Or.inl (Or.inr h)
    · exact Or.inr h
  · exact Or.inl (Or.inr ⟨_, ChainDefect.large (Nat.lt_of_not_le hfits)⟩)

theorem chain_or_defect (layout : RecordLayout) (options : DecodeOptions) (start : Nat)
    (bs : List UInt8) :
    ∃ front rest records, bs = front ++ rest ∧ Run (IsRecord layout options) front records ∧
      ((∃ n, IsTail rest n) ∨ ∃ e, ChainDefect layout options (start + front.length) rest e) :=
  Run.cover IsRecord.ne_nil (fun _ o bs => chain_step layout options o bs) true start bs

theorem short_or_identifier (bs : List UInt8) :
    bs.length < 16 ∨ ∃ (identifier : Guid) (rest : List UInt8), bs = identifier.bytes ++ rest := by
  obtain h | ⟨front, rest, hlen, rfl⟩ := short_or_split 16 bs
  · exact Or.inl h
  · exact Or.inr ⟨⟨front, hlen⟩, rest, rfl⟩

/-- A body that has room for the header is that of a set, or it has a defect. -/
theorem body_or_defect (options : DecodeOptions) (size : UInt32) (start : Nat) {body : List UInt8}
    (room : 20 ≤ body.length) :
    (∃ s, IsBody options size body s) ∨ ∃ e, BodyDefect options start body e := by
  obtain h | ⟨found, afterSignature, hfour, rfl⟩ := short_or_split 4 body
  · omega
  by_cases hknown : found = Signature.bytes .serializedPropertyStorage
  · obtain h | ⟨identifier, chain, rfl⟩ := short_or_identifier afterSignature
    · rw [List.length_append, hfour] at room
      omega
    rw [hknown, ← List.append_assoc]
    obtain ⟨front, rest, records, rfl, hrun, ⟨n, htail⟩ | ⟨e, he⟩⟩ :=
      chain_or_defect (.ofIdentifier identifier) options (start + 24) chain
    · exact Or.inl ⟨_, IsBody.mk (isLayout_ofIdentifier identifier) hrun htail⟩
    · exact Or.inr ⟨e, BodyDefect.chain (isLayout_ofIdentifier identifier) hrun he⟩
  · exact Or.inr ⟨_, BodyDefect.signature hfour hknown afterSignature⟩

/-- **Bytes begin with a set, or they have a defect.** -/
theorem set_or_defect (options : DecodeOptions) (start : Nat) (bs : List UInt8) :
    (∃ front rest s, bs = front ++ rest ∧ IsSet options front s) ∨
      ∃ e, SetDefect options start bs e := by
  obtain h | ⟨size, afterSize, rfl⟩ := short_or_word32 bs
  · exact Or.inr ⟨_, SetDefect.missing h⟩
  by_cases hsmall : size.toNat < 24
  · exact Or.inr ⟨_, SetDefect.small afterSize hsmall⟩
  have header : 24 ≤ size.toNat := Nat.le_of_not_lt hsmall
  obtain h | ⟨body, rest, hlen, rfl⟩ := short_or_split (size.toNat - 4) afterSize
  · refine Or.inr ⟨_, SetDefect.short header ?_⟩
    rw [List.length_append, length_word32]
    omega
  have exact : (word32 size ++ body).length = size.toNat := by
    rw [List.length_append, length_word32]
    omega
  have room : 20 ≤ body.length := by omega
  rw [← List.append_assoc]
  obtain ⟨s, hs⟩ | ⟨e, he⟩ := body_or_defect options size start room
  · exact Or.inl ⟨_, rest, s, rfl, IsSet.mk hs exact⟩
  · exact Or.inr ⟨e, SetDefect.body header exact he rest⟩

/-! ### How long a set is -/

theorem IsSet.length_eq {bs : List UInt8} {s : PropertySet} (h : IsSet options bs s) :
    bs.length = s.size.toNat := by
  obtain ⟨⟨-, -⟩, hlen⟩ := h
  exact hlen

theorem IsSet.header_le {bs : List UInt8} {s : PropertySet} (h : IsSet options bs s) :
    PropertySet.headerSize ≤ bs.length := by
  obtain ⟨@⟨identifier, layout, chain, tail, records, trailing, isLayout, run, isTail⟩, -⟩ := h
  simp [identifier.length_bytes, PropertySet.headerSize]
  omega

theorem IsSet.ne_nil (bs : List UInt8) (s : PropertySet) (h : IsSet options bs s) : bs ≠ [] := by
  rintro rfl
  have := h.header_le
  simp [PropertySet.headerSize] at this

/-- A set starts with its size, which is not zero. -/
theorem IsSet.starts {bs : List UInt8} {s : PropertySet} (h : IsSet options bs s) :
    s.size ≠ 0 ∧ ∃ body, bs = word32 s.size ++ body := by
  have hlen := h.length_eq
  have hle := h.header_le
  obtain ⟨⟨-, -⟩, -⟩ := h
  refine ⟨?_, _, rfl⟩
  rintro rfl
  simp [PropertySet.headerSize] at hle hlen

end PropertyStore
