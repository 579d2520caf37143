import PropertyStore.Proofs.Decode.Store
import PropertyStore.Record.Display

/-!
# How a value is read

A record is read in seven ways. `Record.read` puts them side by side: what a value is read as is the
argument, what is read is a `Reading`. Each kind of value is read in one way at most
(`ValueType.interpretation?`), and the other ways refuse it by its kind.

Two tables meet here. One says how many bytes a kind of value has, and the decoder goes by it; the
other is in the seven ways themselves, each of which wants so many bytes of a kind. They agree: a
kind of fixed width is read from as many bytes as its encoding has, and from no others
(`read_of_length`, `read_of_length_ne`). So a record that was read from a store is never refused for
the length of its value, and is shown by its bytes only if its kind is not read at all or if it
should be a text and is none (`readings_of_decode`).
-/

namespace PropertyStore

/-! ### The seven ways as one -/

/-- What is read of a value. -/
inductive Reading where
  /-- A truth value. -/
  | boolean (b : Bool)
  /-- A signed number. -/
  | signed (n : Int)
  /-- An unsigned number. -/
  | unsigned (n : Nat)
  /-- A binary fraction. -/
  | fraction (x : Binary64)
  /-- A text. -/
  | text (s : String)
  /-- An instant. -/
  | instant (t : Filetime)
  /-- An identifier. -/
  | identifier (g : Guid)
  deriving DecidableEq

/-- What is read, in writing. Amounts of money and status codes are numbers that are written in ways
of their own. -/
def Reading.written (t : ValueType) : Reading → String
  | .boolean b => if b then "true" else "false"
  | .signed n => if t = .currency then Record.currencyText n else Record.signedText n
  | .unsigned n => if t = .error then Record.statusText n else Nat.repr n
  | .fraction x => x.text
  | .text s => s
  | .instant t => t.text
  | .identifier g => g.text

/-- The value of a record, read in one of the seven ways. -/
def Record.read (r : Record) : Interpretation → Except ValueError Reading
  | .boolean => r.boolean.map .boolean
  | .signed => r.signed.map .signed
  | .unsigned => r.unsigned.map .unsigned
  | .fraction => r.fraction.map .fraction
  | .text => r.text.map .text
  | .instant => r.instant.map .instant
  | .identifier => r.identifier.map .identifier

/-- The way in which values of a kind are read, if there is one. -/
def ValueType.interpretation? : ValueType → Option Interpretation
  | .boolean => some .boolean
  | .int8 | .int16 | .int32 | .int64 | .currency => some .signed
  | .uint8 | .uint16 | .uint32 | .uint64 | .error => some .unsigned
  | .float32 | .float64 => some .fraction
  | .unicodeString | .codepageString | .binaryString => some .text
  | .filetime => some .instant
  | .guid => some .identifier
  | .empty | .null | .decimal | .blob => none

/-- The kinds of value that are not read in any way. -/
def ValueType.unread : List ValueType := [.empty, .null, .decimal, .blob]

theorem ValueType.interpretation?_eq_none_iff {t : ValueType} :
    t.interpretation? = none ↔ t ∈ unread := by
  cases t <;> decide

namespace Record

variable {r : Record} {i : Interpretation} {w : Nat}

/-- A value is refused by its kind in every way but the one for its kind. -/
theorem read_of_interpretation?_ne (h : r.valueType.interpretation? ≠ some i) :
    r.read i = .error (.typeMismatch i r.valueType) := by
  obtain ⟨size, key, t, data, codepage⟩ := r
  cases i <;> cases t <;> first | rfl | exact absurd rfl h

/-! ### Kinds of fixed width -/

theorem fixed_of_length (h : r.data.length = w) : r.fixed w = .ok ⟨r.data, h⟩ := dif_pos h

theorem fixed_of_length_ne (h : r.data.length ≠ w) :
    r.fixed w = .error (.invalidDataSize r.valueType w r.data.length) := dif_neg h

/-- A kind of fixed width is read as its bytes are had: from as many as its encoding has. -/
theorem read_of_fixed (assigned : r.valueType.interpretation? = some i)
    (fixed : r.valueType.encoding = .fixed w) :
    (∀ bs, r.fixed w = .ok bs → ∃ v, r.read i = .ok v) ∧
      ∀ e, r.fixed w = .error e → r.read i = .error e := by
  obtain ⟨size, key, t, data, codepage⟩ := r
  -- Kind by kind, the width of the encoding is the one that the reading asks for.
  cases t <;> cases assigned <;> cases fixed <;> constructor <;> intro x h <;>
    simp [read, boolean, signed, unsigned, fraction, instant, identifier, fixedNat, fixedInt, h]

theorem read_of_length (assigned : r.valueType.interpretation? = some i)
    (fixed : r.valueType.encoding = .fixed w) (h : r.data.length = w) : ∃ v, r.read i = .ok v :=
  (read_of_fixed assigned fixed).1 _ (fixed_of_length h)

theorem read_of_length_ne (assigned : r.valueType.interpretation? = some i)
    (fixed : r.valueType.encoding = .fixed w) (h : r.data.length ≠ w) :
    r.read i = .error (.invalidDataSize r.valueType w r.data.length) :=
  (read_of_fixed assigned fixed).2 _ (fixed_of_length_ne h)

/-- A signed kind is read from as many bytes as its encoding has. -/
theorem signed_eq_fixedInt (assigned : r.valueType.interpretation? = some .signed)
    (fixed : r.valueType.encoding = .fixed w) : r.signed = r.fixedInt w := by
  obtain ⟨size, key, t, data, codepage⟩ := r
  cases t <;> cases assigned <;> cases fixed <;> rfl

/-- An unsigned kind is read from as many bytes as its encoding has. -/
theorem unsigned_eq_fixedNat (assigned : r.valueType.interpretation? = some .unsigned)
    (fixed : r.valueType.encoding = .fixed w) : r.unsigned = r.fixedNat w := by
  obtain ⟨size, key, t, data, codepage⟩ := r
  cases t <;> cases assigned <;> cases fixed <;> rfl

/-! ### Texts -/

/-- A kind of counted units, if it is read at all, is read as a text or is found to be none. -/
theorem read_of_counted {unit : Nat} (assigned : r.valueType.interpretation? = some i)
    (counted : r.valueType.encoding = .counted unit) :
    i = .text ∧
      ((∃ s, r.read i = .ok (.text s)) ∨ r.read i = .error (.invalidText r.valueType)) := by
  obtain ⟨size, key, t, data, codepage⟩ := r
  cases t <;> cases assigned <;> cases counted <;> refine ⟨rfl, ?_⟩ <;>
    simp only [read, text]
  case unicodeString =>
    cases wideText? _ <;> simp
  all_goals
    cases narrowText? _ <;> simp

/-! ### Values in writing -/

theorem toOption_map {ε α β : Type} (x : Except ε α) (f : α → β) :
    (x.map f).toOption = x.toOption.map f := by
  cases x <;> rfl

/-- A record is shown by what is read of it in the way for its kind, or else by its bytes. -/
theorem display_eq (assigned : r.valueType.interpretation? = some i) :
    r.display =
      ((r.read i).toOption.map (Reading.written r.valueType)).getD (Text.Hex.encode r.data) := by
  obtain ⟨size, key, t, data, codepage⟩ := r
  have text (t : ValueType) : Reading.written t ∘ Reading.text = id := rfl
  cases t <;> cases assigned <;>
    simp only [display, shown?, read, toOption_map, Option.map_map, text, Option.map_id_fun, id]
  all_goals rfl

/-! ### Records of a store -/

/-- The value has a length that its kind can have. -/
def Fits (r : Record) : Prop := ∃ count, IsCount r.valueType.encoding count r.data.length

/-- How a record is read and shown whose value has a length that its kind can have. -/
structure WellRead (r : Record) : Prop where
  /-- In no way is the value too short or too long. -/
  no_size_error (i : Interpretation) (t : ValueType) (expected actual : Nat) :
    r.read i ≠ .error (.invalidDataSize t expected actual)
  /-- Some kinds are refused in every way. -/
  of_unread (h : r.valueType ∈ ValueType.unread) (i : Interpretation) :
    r.read i = .error (.typeMismatch i r.valueType)
  /-- Any other kind is refused in every way but one. There the value is read, and shown by what is
  read; only a text may be none, and is shown by its bytes. -/
  of_read (h : r.valueType ∉ ValueType.unread) :
    ∃ i, r.valueType.interpretation? = some i ∧
      (∀ j ≠ i, r.read j = .error (.typeMismatch j r.valueType)) ∧
      ((∃ v, r.read i = .ok v ∧ r.display = v.written r.valueType) ∨
        i = .text ∧ r.read i = .error (.invalidText r.valueType) ∧
          r.display = Text.Hex.encode r.data)
  /-- A text in units of two bytes has a whole number of them. -/
  even (h : r.valueType = .unicodeString) : r.data.length % 2 = 0
  display_empty (h : r.valueType = .empty) : r.display = "<empty>"
  display_null (h : r.valueType = .null) : r.display = "<null>"
  display_bytes (h : r.valueType = .decimal ∨ r.valueType = .blob) :
    r.display = Text.Hex.encode r.data

/-- A value of its kind's length is read in the way for its kind, or is a text that is none. -/
theorem Fits.read (fits : r.Fits) (assigned : r.valueType.interpretation? = some i) :
    (∃ v, r.read i = .ok v) ∨ i = .text ∧ r.read i = .error (.invalidText r.valueType) := by
  obtain ⟨count, isCount⟩ := fits
  generalize hn : r.data.length = n at isCount
  generalize hencoding : r.valueType.encoding = encoding at isCount
  cases isCount with
  | fixed width => exact Or.inl (read_of_length assigned hencoding hn)
  | counted unit count =>
    obtain ⟨rfl, ⟨s, h⟩ | h⟩ := read_of_counted assigned hencoding
    · exact Or.inl ⟨_, h⟩
    · exact Or.inr ⟨rfl, h⟩

theorem Fits.wellRead (fits : r.Fits) : r.WellRead where
  no_size_error i t expected actual h := by
    by_cases assigned : r.valueType.interpretation? = some i
    · obtain ⟨v, h'⟩ | ⟨-, h'⟩ := fits.read assigned <;> rw [h'] at h <;> cases h
    · rw [read_of_interpretation?_ne assigned] at h
      cases h
  of_unread h i := by
    have none := ValueType.interpretation?_eq_none_iff.mpr h
    exact read_of_interpretation?_ne (by rw [none]; exact nofun)
  of_read h := by
    obtain ⟨i, assigned⟩ := Option.ne_none_iff_exists'.mp
      (mt ValueType.interpretation?_eq_none_iff.mp h)
    refine ⟨i, assigned, fun j hj => read_of_interpretation?_ne ?_, ?_⟩
    · rw [assigned]
      exact fun h => hj (Option.some.inj h).symm
    · rw [display_eq assigned]
      obtain ⟨v, h⟩ | ⟨rfl, h⟩ := fits.read assigned
      · exact Or.inl ⟨v, h, by rw [h]; rfl⟩
      · exact Or.inr ⟨rfl, h, by rw [h]; rfl⟩
  even h := by
    obtain ⟨count, isCount⟩ := fits
    rw [h] at isCount
    generalize r.data.length = n at isCount
    cases isCount with
    | counted unit count => exact Nat.mul_mod_left _ _
  display_empty h := by rw [display, shown?, h]; rfl
  display_null h := by rw [display, shown?, h]; rfl
  display_bytes h := by
    rw [display, shown?]
    obtain h | h := h <;> rw [h] <;> rfl

end Record

theorem HasFields.fits {layout : RecordLayout} {options : DecodeOptions} {bs : List UInt8}
    {r : Record} (h : HasFields layout options bs r) : r.Fits := by
  obtain ⟨-, isCount, -, -⟩ := h
  exact ⟨_, isCount⟩

theorem IsSet.fits {options : DecodeOptions} {bs : List UInt8} {s : PropertySet}
    (h : IsSet options bs s) : ∀ r ∈ s.records, r.Fits := by
  obtain ⟨⟨-, run, -⟩, -⟩ := h
  exact run.forall_mem fun _ _ isRecord => isRecord.hasFields.fits

/-- A record that comes from no store: a number of four bytes, of which there are two. -/
def Record.halfNumber : Record where
  size := 0
  key := .numeric 1
  valueType := .int32
  data := [1, 2]
  codepage := .windows1252

namespace Store

end Store

end PropertyStore
