import PropertyStore.Proofs.Decode.Record
import PropertyStore.Proofs.Grammar.PropertySet

/-!
# Reading a set follows the grammar

`PropertySet.decode` gives a set exactly when the bytes begin with one, leaves the cursor
after it, and fails exactly with a defect of the bytes.

The chain of records is a loop. One turn of it over a record takes the record off and goes
on (`decodeRecords_step`); by induction on the run, so do all turns over all records that
come first (`decodeRecords_run`). What is met after them, a tail or a defect, ends the loop.
-/

namespace PropertyStore.PropertySet

open LittleEndian

variable {layout : RecordLayout} {options : DecodeOptions} {c : Cursor} {o : Nat}

/-! ### The chain of records -/

/-- A turn of the loop over bytes that do not end before a size. -/
theorem decodeRecords_of_size {size : UInt32} {bs : List UInt8} (h : c.At o bs)
    (starts : word32 size <+: bs) :
    decodeRecords layout options c =
      if size = 0 then do
        let window ← c.skip 4
        return ([], window)
      else if fits : size.toNat ≤ c.remaining then do
        let record ← Record.decode layout options (c.window size.toNat fits)
        let (records, window) ← decodeRecords layout options (c.advance size.toNat fits)
        return (record :: records, window)
      else .error (.sizeMismatch c.offset size.toNat c.remaining) := by
  obtain ⟨rest, rfl⟩ := starts
  have some : c.remaining ≠ 0 := by simp [h.remaining_eq]
  rw [decodeRecords, if_neg some, h.peekU32]

theorem decodeRecords_nil (h : c.At o []) : decodeRecords layout options c = .ok ([], c) := by
  rw [decodeRecords, if_pos (by rw [h.remaining_eq, List.length_nil])]

/-- A tail ends the loop, and its trailing bytes are left. -/
theorem decodeRecords_of_isTail {tail : List UInt8} {n : Nat} (isTail : IsTail tail n)
    (h : c.At o tail) :
    ∃ d, decodeRecords layout options c = .ok ([], d) ∧ d.remaining = n := by
  cases isTail with
  | none => exact ⟨c, decodeRecords_nil h, h.remaining_eq⟩
  | sentinel trailing =>
    obtain ⟨d, e, hd⟩ := h.skip (n := 4) (length_word32 0)
    refine ⟨d, ?_, hd.remaining_eq⟩
    rw [decodeRecords_of_size h (List.prefix_append ..), if_pos rfl, e]
    rfl

/-- A record is taken off. -/
theorem decodeRecords_step {bs rest : List UInt8} {r : Record}
    (record : IsRecord layout options bs r) (h : c.At o (bs ++ rest)) :
    ∃ d, d.At (o + bs.length) rest ∧ decodeRecords layout options c =
      (decodeRecords layout options d).map fun (records, window) => (r :: records, window) := by
  have hsize := record.length_eq
  have fits : r.size.toNat ≤ c.remaining := hsize ▸ h.length_le
  obtain ⟨nonzero, more, hmore⟩ := record.starts
  have starts : word32 r.size <+: bs ++ rest := ⟨more ++ rest, by rw [hmore, List.append_assoc]⟩
  refine ⟨c.advance r.size.toNat fits, (h.advance hsize fits).congr (by rw [hsize]), ?_⟩
  have read :=
    ((decodeRecord_settles layout options (h.window hsize fits)).ok_iff r).mpr record.hasFields
  rw [decodeRecords_of_size h starts, if_neg nonzero, dif_pos fits, read, ok_bind]
  cases decodeRecords layout options (c.advance r.size.toNat fits) <;> rfl

/-- All records that come first are taken off. -/
theorem decodeRecords_run {front rest : List UInt8} {records : List Record}
    (run : Run (IsRecord layout options) front records) (h : c.At o (front ++ rest)) :
    ∃ d, d.At (o + front.length) rest ∧ decodeRecords layout options c =
      (decodeRecords layout options d).map fun (more, window) => (records ++ more, window) := by
  induction run generalizing c o with
  | nil =>
    refine ⟨c, h, ?_⟩
    cases decodeRecords layout options c <;> rfl
  | cons record _ ih =>
    rw [List.append_assoc] at h
    obtain ⟨c₁, h₁, e₁⟩ := decodeRecords_step record h
    obtain ⟨d, hd, e⟩ := ih h₁
    refine ⟨d, hd.congr (by rw [List.length_append, Nat.add_assoc]), ?_⟩
    rw [e₁, e]
    cases decodeRecords layout options d <;> rfl

/-- A defect ends the loop with a failure. -/
theorem decodeRecords_of_chainDefect {bs : List UInt8} {e : DecodeError}
    (defect : ChainDefect layout options o bs e) (h : c.At o bs) :
    decodeRecords layout options c = .error e := by
  cases defect with
  | short pos less =>
    have some : c.remaining ≠ 0 := by
      rw [h.remaining_eq]
      exact fun zero => pos (List.length_eq_zero_iff.mp zero)
    rw [decodeRecords, if_neg some, h.peekU32_short less]
  | @large size rest less =>
    have nonzero : size ≠ 0 := by
      rintro rfl
      simp at less
    rw [decodeRecords_of_size h (List.prefix_append ..), if_neg nonzero,
      dif_neg (h.remaining_eq ▸ Nat.not_le.mpr less), h.offset_eq, h.remaining_eq]
  | @record size window rest _ starts pos length_eq defect =>
    have fits : size.toNat ≤ c.remaining := length_eq ▸ h.length_le
    have read :=
      ((decodeRecord_settles layout options (h.window length_eq fits)).error_iff e).mpr defect
    rw [decodeRecords_of_size h starts, if_neg pos, dif_pos fits, read, error_bind]

/-! ### The set -/

theorem decodeIdentifier_at {identifier : Guid} {rest : List UInt8}
    (h : c.At o (identifier.bytes ++ rest)) :
    ∃ d, decodeIdentifier c = .ok (identifier, d) ∧ d.At (o + 16) rest := by
  have fits : 16 ≤ c.remaining := identifier.length_bytes ▸ h.length_le
  refine ⟨c.advance 16 fits, ?_, h.advance identifier.length_bytes fits⟩
  have window := h.window identifier.length_bytes fits
  simp only [decodeIdentifier, dif_pos fits, window.unread_eq]

/-- After the signature and the identifier the chain decides. -/
theorem decodeWindow_of_header {size : UInt32} {identifier : Guid} {head chain : List UInt8}
    (four : head.length = 4)
    (h : c.At o (head ++ (Signature.bytes .serializedPropertyStorage ++
      (identifier.bytes ++ chain)))) :
    ∃ d, d.At (o + 24) chain ∧ decodeWindow options size c = (do
      let (records, rest) ← decodeRecords (.ofIdentifier identifier) options d
      return {
        size, signature := .serializedPropertyStorage, identifier, records,
        trailingBytes := rest.remaining }) := by
  obtain ⟨c₁, e₁, h₁⟩ := h.skip four
  obtain ⟨c₂, e₂, h₂⟩ := h₁.take (Signature.length_bytes _)
  obtain ⟨c₃, e₃, h₃⟩ := decodeIdentifier_at h₂
  refine ⟨c₃, h₃.congr (by omega), ?_⟩
  have known :=
    Signature.ofBytes?_eq_some_iff.mpr (rfl : Signature.bytes .serializedPropertyStorage = _)
  simp only [decodeWindow, e₁, e₂, e₃, known, DecodeError.liftM_ok, ok_bind]

/-- **Reading the window of a set follows the grammar.** -/
theorem decodeWindow_settles (options : DecodeOptions) (size : UInt32) {head body : List UInt8}
    (four : head.length = 4) (room : 20 ≤ body.length) (h : c.At o (head ++ body)) :
    Settles (decodeWindow options size c) (IsBody options size body)
      (BodyDefect options o body) := by
  refine .of_cover ?_ ?_ (body_or_defect options size o room)
  · rintro _ ⟨isLayout, run, isTail⟩
    obtain rfl := isLayout_iff.mp isLayout
    rw [List.append_assoc] at h
    obtain ⟨d, hd, e⟩ := decodeWindow_of_header four h
    obtain ⟨d₁, h₁, e₁⟩ := decodeRecords_run run hd
    obtain ⟨d₂, e₂, trailing⟩ := decodeRecords_of_isTail isTail h₁
    rw [e, e₁, e₂, ← trailing]
    simp only [ok_map, ok_bind, pure_eq_ok, List.append_nil]
  · rintro e (⟨found4, unknown, rest⟩ | ⟨isLayout, run, defect⟩)
    · obtain ⟨c₁, e₁, h₁⟩ := h.skip four
      obtain ⟨c₂, e₂, -⟩ := h₁.take found4
      have none : Signature.ofBytes? _ = none := if_neg unknown
      simp only [decodeWindow, e₁, e₂, none, DecodeError.liftM_ok, ok_bind, h₁.offset_eq]
    · obtain rfl := isLayout_iff.mp isLayout
      rw [List.append_assoc] at h
      obtain ⟨d, hd, e'⟩ := decodeWindow_of_header four h
      obtain ⟨d₁, h₁, e₁⟩ := decodeRecords_run run hd
      rw [e', e₁, decodeRecords_of_chainDefect defect h₁]
      rfl

/-- A set is read, and the cursor is left after it. -/
theorem decode_of_isSet {bs rest : List UInt8} {s : PropertySet} (isSet : IsSet options bs s)
    (h : c.At o (bs ++ rest)) : ∃ d, decode options c = .ok (s, d) ∧ d.At (o + bs.length) rest := by
  have header := isSet.header_le
  obtain @⟨size, body, _, isBody, length_eq⟩ := isSet
  rw [length_eq] at header
  have fits : size.toNat ≤ c.remaining := length_eq ▸ h.length_le
  have room : 20 ≤ body.length := by
    simp [headerSize] at header length_eq
    omega
  have window :=
    decodeWindow_settles options size (length_word32 size) room (h.window length_eq fits)
  have read := (window.ok_iff s).mpr isBody
  refine ⟨c.advance size.toNat fits, ?_, (h.advance length_eq fits).congr (by rw [length_eq])⟩
  rw [List.append_assoc] at h
  rw [decode, h.peekU32]
  simp only [if_neg (Nat.not_lt.mpr header), dif_pos fits, read, ok_map]

/-- A defect is reported. -/
theorem decode_of_setDefect {bs : List UInt8} {e : DecodeError} (defect : SetDefect options o bs e)
    (h : c.At o bs) : decode options c = .error e := by
  cases defect with
  | missing less => rw [decode, h.peekU32_short less]
  | small rest less =>
    rw [decode, h.peekU32]
    simp only [headerSize, if_pos less, h.offset_eq, h.remaining_eq]
  | @short size rest header less =>
    have long : ¬ size.toNat ≤ c.remaining := h.remaining_eq ▸ Nat.not_le.mpr less
    rw [decode, h.peekU32]
    simp only [headerSize, if_neg (Nat.not_lt.mpr header), dif_neg long]
    rw [Cursor.outOfData, h.offset_eq, h.remaining_eq]
  | @body size body _ header length_eq defect rest =>
    have fits : size.toNat ≤ c.remaining := length_eq ▸ h.length_le
    have room : 20 ≤ body.length := by
      simp at length_eq
      omega
    have window :=
      decodeWindow_settles options size (length_word32 size) room (h.window length_eq fits)
    have read := (window.error_iff e).mpr defect
    rw [List.append_assoc] at h
    rw [decode, h.peekU32]
    simp only [headerSize, if_neg (Nat.not_lt.mpr header), dif_pos fits, read, error_map]

/-- What is read as a set is one that comes first, and the cursor is left after it. -/
theorem isSet_of_decode {bs : List UInt8} {s : PropertySet} {d : Cursor} (h : c.At o bs)
    (e : decode options c = .ok (s, d)) :
    ∃ front rest, bs = front ++ rest ∧ IsSet options front s ∧ d.At (o + front.length) rest := by
  obtain ⟨front, rest, s', rfl, isSet⟩ | ⟨failure, defect⟩ := set_or_defect options o bs
  · obtain ⟨d', e', hd⟩ := decode_of_isSet isSet h
    rw [e', Except.ok.injEq, Prod.mk.injEq] at e
    obtain ⟨rfl, rfl⟩ := e
    exact ⟨front, rest, rfl, isSet, hd⟩
  · rw [decode_of_setDefect defect h] at e
    cases e

/-- What is reported in place of a set is a defect. -/
theorem setDefect_of_decode {bs : List UInt8} {failure : DecodeError} (h : c.At o bs)
    (e : decode options c = .error failure) : SetDefect options o bs failure := by
  obtain ⟨front, rest, s', rfl, isSet⟩ | ⟨failure', defect⟩ := set_or_defect options o bs
  · obtain ⟨d', e', -⟩ := decode_of_isSet isSet h
    rw [e'] at e
    cases e
  · rw [decode_of_setDefect defect h, Except.error.injEq] at e
    exact e ▸ defect

/-! ### A buffer that holds one set -/

/-- A set is read from a buffer of its own. -/
theorem decode_buffer_of_isSet {bs : List UInt8} {s : PropertySet} (isSet : IsSet options bs s)
    (o : Nat) : ∃ d, decode options (.ofBytes bs.toArray o) = .ok (s, d) := by
  have h : (Cursor.ofBytes bs.toArray o).At o (bs ++ []) := by
    rw [List.append_nil]
    exact Cursor.At.ofBytes bs.toArray o
  obtain ⟨d, e, -⟩ := decode_of_isSet isSet h
  exact ⟨d, e⟩

/-- A defect in the body of a set is reported from a buffer of its own. -/
theorem decode_buffer_of_bodyDefect {size : UInt32} {body : List UInt8} {e : DecodeError}
    (header : 24 ≤ size.toNat) (length_eq : (word32 size ++ body).length = size.toNat)
    (defect : BodyDefect options o body e) :
    decode options (.ofBytes (word32 size ++ body).toArray o) = .error e := by
  have whole := SetDefect.body header length_eq defect []
  rw [List.append_nil] at whole
  exact decode_of_setDefect whole (.ofBytes (word32 size ++ body).toArray o)

end PropertyStore.PropertySet
