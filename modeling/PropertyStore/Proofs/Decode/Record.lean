import PropertyStore.Proofs.Cursor
import PropertyStore.Proofs.Grammar.Record

/-!
# Reading a record follows the grammar

`Record.decode` gives a record exactly when the window begins with its fields, and fails
exactly with a defect of the window (`Record.decode_settles`). Only the offset at which the
window starts and the bytes in it matter, so a window may be cut from any input.

For each part of a record there are two lemmas: what reading makes of bytes that are the
part, and of bytes that end before it does. That no bytes escape both is a fact of the
grammar, and it turns the lemmas into equivalences.
-/

namespace PropertyStore

open LittleEndian

/-- The outcome `x` is known both ways: it gives what `G` allows, and fails with what `D` allows. -/
structure Settles {ε α : Type} (x : Except ε α) (G : α → Prop) (D : ε → Prop) : Prop where
  ok_iff (a : α) : x = .ok a ↔ G a
  error_iff (e : ε) : x = .error e ↔ D e

/-- If `G` and `D` leave no gap, it is enough to know what comes of each. -/
theorem Settles.of_cover {ε α : Type} {x : Except ε α} {G : α → Prop} {D : ε → Prop}
    (hG : ∀ a, G a → x = .ok a) (hD : ∀ e, D e → x = .error e) (cover : (∃ a, G a) ∨ ∃ e, D e) :
    Settles x G D := by
  refine ⟨fun a => ⟨fun hx => ?_, hG a⟩, fun e => ⟨fun hx => ?_, hD e⟩⟩
  · obtain ⟨b, hb⟩ | ⟨e, he⟩ := cover
    · rw [hG b hb, Except.ok.injEq] at hx
      exact hx ▸ hb
    · rw [hD e he] at hx
      cases hx
  · obtain ⟨b, hb⟩ | ⟨e', he⟩ := cover
    · rw [hG b hb] at hx
      cases hx
    · rw [hD e' he, Except.error.injEq] at hx
      exact hx ▸ he

variable {layout : RecordLayout} {options : DecodeOptions} {c : Cursor} {o : Nat}

/-! ### The head -/

theorem decodeHead_of_isHead {head rest : List UInt8} {size : UInt32} {key : RecordKey}
    (isHead : IsHead layout head size key) (h : c.At o (head ++ rest)) :
    ∃ d, Record.decodeHead layout c = .ok ((size, key), d) ∧ d.At (o + head.length) rest := by
  cases isHead with
  | numeric size field reserved =>
    simp only [List.append_assoc] at h
    obtain ⟨c₁, e₁, h₁⟩ := h.u32
    obtain ⟨c₂, e₂, h₂⟩ := h₁.u32
    obtain ⟨c₃, e₃, h₃⟩ := h₂.skip (n := 1) rfl
    refine ⟨c₃, ?_, ?_⟩
    · simp only [Record.decodeHead, e₁, e₂, e₃, RecordKey.decode, ok_bind, pure_eq_ok]
    · exact h₃.congr (by simp [Nat.add_assoc])
  | @named size field reserved name hname =>
    simp only [List.append_assoc] at h
    obtain ⟨c₁, e₁, h₁⟩ := h.u32
    obtain ⟨c₂, e₂, h₂⟩ := h₁.u32
    obtain ⟨c₃, e₃, h₃⟩ := h₂.skip (n := 1) rfl
    obtain ⟨c₄, e₄, h₄⟩ := h₃.take hname
    refine ⟨c₄, ?_, ?_⟩
    · simp only [Record.decodeHead, e₁, e₂, e₃, e₄, RecordKey.decode, ok_bind, pure_eq_ok]
    · exact h₄.congr (by simp [← hname]; omega)

/-! ### The kind of value -/

theorem decodeType_of_known {padding rest : List UInt8} {t : ValueType} (two : padding.length = 2)
    (h : c.At o (word16 t.code ++ (padding ++ rest))) :
    ∃ d, ValueType.decode c = .ok (t, d) ∧ d.At (o + 4) rest := by
  obtain ⟨c₁, e₁, h₁⟩ := h.u16
  obtain ⟨c₂, e₂, h₂⟩ := h₁.skip two
  refine ⟨c₂, ?_, h₂⟩
  simp only [ValueType.decode, e₁, e₂, DecodeError.liftM_ok, ok_bind, pure_eq_ok,
    ValueType.ofCode?_code]

theorem decodeType_of_unknown {padding rest : List UInt8} {code : UInt16} (two : padding.length = 2)
    (none : ValueType.ofCode? code = none) (h : c.At o (word16 code ++ (padding ++ rest))) :
    ValueType.decode c = .error (.unsupportedValueType o code) := by
  obtain ⟨c₁, e₁, h₁⟩ := h.u16
  obtain ⟨c₂, e₂, -⟩ := h₁.skip two
  simp only [ValueType.decode, e₁, e₂, DecodeError.liftM_ok, ok_bind, none, h.offset_eq]

theorem decodeType_of_short {bs : List UInt8} (h : c.At o bs) (less : bs.length < 2) :
    ValueType.decode c = .error (.read (.outOfData o 2 bs.length)) := by
  simp only [ValueType.decode, h.u16_short less, DecodeError.liftM_error, error_bind]

theorem decodeType_of_short_padding {rest : List UInt8} {code : UInt16}
    (h : c.At o (word16 code ++ rest)) (less : rest.length < 2) :
    ValueType.decode c = .error (.read (.outOfData (o + 2) 2 rest.length)) := by
  obtain ⟨c₁, e₁, h₁⟩ := h.u16
  simp only [ValueType.decode, e₁, h₁.skip_short less, DecodeError.liftM_ok,
    DecodeError.liftM_error, ok_bind, error_bind]

/-! ### The value -/

theorem decodeSize_of_isCount {encoding : ValueEncoding} {count rest : List UInt8} {n : Nat}
    (isCount : IsCount encoding count n) (h : c.At o (count ++ rest)) :
    ∃ d, encoding.decodeSize c = .ok (n, d) ∧ d.At (o + count.length) rest := by
  cases isCount with
  | fixed width => exact ⟨c, rfl, h⟩
  | counted unit count =>
    obtain ⟨c₁, e₁, h₁⟩ := h.u32
    exact ⟨c₁, by simp only [ValueEncoding.decodeSize, e₁, ok_bind, pure_eq_ok], by simpa using h₁⟩

theorem decodeData_of_isCount {t : ValueType} {limit n : Nat} {count data rest : List UInt8}
    (isCount : IsCount t.encoding count n) (small : n ≤ limit) (length : data.length = n)
    (h : c.At o (count ++ (data ++ rest))) : t.decodeData limit c = .ok data := by
  obtain ⟨c₁, e₁, h₁⟩ := decodeSize_of_isCount isCount h
  obtain ⟨c₂, e₂, -⟩ := h₁.take length
  simp only [ValueType.decodeData, e₁, e₂, DecodeError.liftM_ok, ok_bind, pure_eq_ok,
    if_neg (Nat.not_lt.mpr small)]

theorem decodeData_of_short {t : ValueType} {limit n : Nat} {count rest : List UInt8}
    (isCount : IsCount t.encoding count n) (small : n ≤ limit) (less : rest.length < n)
    (h : c.At o (count ++ rest)) :
    t.decodeData limit c = .error (.read (.outOfData (o + count.length) n rest.length)) := by
  obtain ⟨c₁, e₁, h₁⟩ := decodeSize_of_isCount isCount h
  simp only [ValueType.decodeData, e₁, h₁.take_short less, DecodeError.liftM_ok,
    DecodeError.liftM_error, ok_bind, error_bind, if_neg (Nat.not_lt.mpr small)]

theorem decodeData_of_large {t : ValueType} {limit n : Nat} {count rest : List UInt8}
    (isCount : IsCount t.encoding count n) (large : limit < n) (h : c.At o (count ++ rest)) :
    t.decodeData limit c = .error (.valueTooLarge o n limit) := by
  obtain ⟨c₁, e₁, -⟩ := decodeSize_of_isCount isCount h
  simp only [ValueType.decodeData, e₁, DecodeError.liftM_ok, ok_bind, if_pos large, h.offset_eq]

theorem decodeData_of_short_count {t : ValueType} {limit unit : Nat} {bs : List UInt8}
    (counted : t.encoding = .counted unit) (less : bs.length < 4) (h : c.At o bs) :
    t.decodeData limit c = .error (.read (.outOfData o 4 bs.length)) := by
  simp only [ValueType.decodeData, counted, ValueEncoding.decodeSize, h.u32_short less,
    DecodeError.liftM_error, error_bind]

/-! ### The whole record -/

/-- After the head the kind of value decides. -/
theorem decode_of_isHead {head rest : List UInt8} {size : UInt32} {key : RecordKey}
    (isHead : IsHead layout head size key) (h : c.At o (head ++ rest)) :
    ∃ d, d.At (o + head.length) rest ∧ Record.decode layout options c = (do
      let (valueType, value) ← ValueType.decode d
      let data ← valueType.decodeData options.maxValueSize value
      return { size, key, valueType, data, codepage := options.codepage }) := by
  obtain ⟨d, e, hd⟩ := decodeHead_of_isHead isHead h
  exact ⟨d, hd, by simp only [Record.decode, e, DecodeError.liftM_ok, ok_bind]⟩

/-- After the opening the value decides. -/
theorem decode_of_isOpening {opening rest : List UInt8} {size : UInt32} {key : RecordKey}
    {t : ValueType}
    (isOpening : IsOpening layout opening size key t) (h : c.At o (opening ++ rest)) :
    ∃ d, d.At (o + opening.length) rest ∧ Record.decode layout options c = (do
      let data ← t.decodeData options.maxValueSize d
      return { size, key, valueType := t, data, codepage := options.codepage }) := by
  obtain @⟨head, padding, _, _, t, isHead, two⟩ := isOpening
  simp only [List.append_assoc] at h
  obtain ⟨c₁, h₁, e₁⟩ := decode_of_isHead isHead h
  obtain ⟨c₂, e₂, h₂⟩ := decodeType_of_known two h₁
  refine ⟨c₂, h₂.congr (by simp [two, Nat.add_assoc]), ?_⟩
  rw [e₁, e₂, ok_bind]

theorem decode_of_hasFields {bs : List UInt8} {r : Record} (fields : HasFields layout options bs r)
    (h : c.At o bs) : Record.decode layout options c = .ok r := by
  obtain ⟨isOpening, isCount, small, slack⟩ := fields
  rw [List.append_assoc, List.append_assoc] at h
  obtain ⟨d, hd, e⟩ := decode_of_isOpening isOpening h
  rw [e, decodeData_of_isCount isCount small rfl hd]
  rfl

theorem decode_of_short {done rest : List UInt8} {n : Nat}
    (needs : Needs layout options.maxValueSize done n)
    (less : rest.length < n) (h : c.At o (done ++ rest)) :
    Record.decode layout options c =
      .error (.read (.outOfData (o + done.length) n rest.length)) := by
  cases needs with
  | size =>
    simp only [Record.decode, Record.decodeHead, h.u32_short less, error_bind,
      DecodeError.liftM_error]
    rfl
  | key size =>
    obtain ⟨c₁, e₁, h₁⟩ := h.u32
    simp only [Record.decode, Record.decodeHead, e₁, h₁.u32_short less, ok_bind, error_bind,
      DecodeError.liftM_error, length_word32]
  | reserved size field =>
    rw [List.append_assoc] at h
    obtain ⟨c₁, e₁, h₁⟩ := h.u32
    obtain ⟨c₂, e₂, h₂⟩ := h₁.u32
    simp only [Record.decode, Record.decodeHead, e₁, e₂, h₂.skip_short less, ok_bind, error_bind,
      DecodeError.liftM_error, length_word32, List.length_append, Nat.add_assoc]
  | name size field reserved named =>
    subst named
    simp only [List.append_assoc] at h
    obtain ⟨c₁, e₁, h₁⟩ := h.u32
    obtain ⟨c₂, e₂, h₂⟩ := h₁.u32
    obtain ⟨c₃, e₃, h₃⟩ := h₂.skip (n := 1) rfl
    simp only [Record.decode, Record.decodeHead, RecordKey.decode, e₁, e₂, e₃, h₃.take_short less,
      ok_bind, error_bind, DecodeError.liftM_error, length_word32, List.length_append,
      List.length_singleton, Nat.add_assoc]
  | code isHead =>
    obtain ⟨d, hd, e⟩ := decode_of_isHead isHead h
    rw [e, decodeType_of_short hd less, error_bind]
  | padding isHead code =>
    rw [List.append_assoc] at h
    obtain ⟨d, hd, e⟩ := decode_of_isHead isHead h
    rw [e, decodeType_of_short_padding hd less, error_bind, List.length_append, length_word16,
      Nat.add_assoc]
  | count isOpening counted =>
    obtain ⟨d, hd, e⟩ := decode_of_isOpening isOpening h
    rw [e, decodeData_of_short_count counted less hd, error_bind]
  | value isOpening isCount small =>
    rw [List.append_assoc] at h
    obtain ⟨d, hd, e⟩ := decode_of_isOpening isOpening h
    rw [e, decodeData_of_short isCount small less hd, error_bind, List.length_append, Nat.add_assoc]

theorem decode_of_recordDefect {bs : List UInt8} {e : DecodeError}
    (defect : RecordDefect layout options o bs e)
    (h : c.At o bs) : Record.decode layout options c = .error e := by
  cases defect with
  | short needs less => exact decode_of_short needs less h
  | unknown isHead two none rest =>
    simp only [List.append_assoc] at h
    obtain ⟨d, hd, e⟩ := decode_of_isHead isHead h
    rw [e, decodeType_of_unknown two none hd, error_bind]
  | large isOpening isCount more rest =>
    rw [List.append_assoc] at h
    obtain ⟨d, hd, e⟩ := decode_of_isOpening isOpening h
    rw [e, decodeData_of_large isCount more hd, error_bind]

/-- **Reading a record follows the grammar.** -/
theorem decodeRecord_settles {bs : List UInt8} (layout : RecordLayout) (options : DecodeOptions)
    (h : c.At o bs) :
    Settles (Record.decode layout options c) (HasFields layout options bs)
      (RecordDefect layout options o bs) :=
  .of_cover (fun _ fields => decode_of_hasFields fields h)
    (fun _ defect => decode_of_recordDefect defect h)
    (fields_or_defect layout options o bs)

end PropertyStore
