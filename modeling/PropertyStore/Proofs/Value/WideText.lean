import PropertyStore.Proofs.Canonical
import PropertyStore.Proofs.Text.Surrogate
import PropertyStore.Proofs.Text.UpTo
import PropertyStore.Proofs.Value.Reading

/-!
# Text in units of two bytes, as a value and as a name

Bytes spell the units that come before the first zero unit among them (`Spells`). A value is read as
the text that has these units, and as none if there is no such text: because there is half a unit,
or because a surrogate is alone (`text_spells`). A name is read from the same units, but nothing is
refused: half a unit is left out, and each lone surrogate is replaced. So the two readers cut a text
into characters at the same places, and where the one finds a text the other finds the same
(`nameText_spells`).
-/

namespace PropertyStore

namespace Text.Utf16

variable {bs front rest : List UInt8} {us : List UInt16} {cs : List Char}

/-! ### What bytes spell -/

/-- The bytes are whole units, and these are the ones before the first that is zero. -/
def Spells (bs : List UInt8) (us : List UInt16) : Prop := ∃ all, bs = bytes all ∧ UpTo 0 us all

/-- Bytes without an odd last one. -/
def whole (bs : List UInt8) : List UInt8 := bs.take (bs.length - bs.length % 2)

/-- Whole units are there two bytes at a time. -/
@[elab_as_elim]
theorem even_induction {motive : List UInt8 → Prop} (even : bs.length % 2 = 0) (nil : motive [])
    (unit : ∀ low high rest, motive rest → motive (low :: high :: rest)) : motive bs := by
  induction bs using units.induct with
  | case1 low high rest ih =>
    simp only [List.length_cons] at even
    exact unit low high rest (ih (by omega))
  | case2 bs short =>
    match bs with
    | [] => exact nil
    | [_] => cases even
    | low :: high :: rest => exact absurd rfl (short low high rest)

theorem bytes_units (even : bs.length % 2 = 0) : bytes (units bs) = bs := by
  refine even_induction even rfl fun low high rest ih => ?_
  have word : LittleEndian.bytes 2 (UInt16.ofNat (low.toNat + 256 * high.toNat)).toNat =
      [low, high] := LittleEndian.word16_ofNat_toNat (show [low, high].length = 2 from rfl)
  rw [units, bytes, List.flatMap_cons, word, ← bytes, ih]
  rfl

theorem units_append (even : front.length % 2 = 0) :
    units (front ++ rest) = units front ++ units rest := by
  refine even_induction even rfl fun low high front ih => ?_
  rw [List.cons_append, List.cons_append, units, units, ih, List.cons_append]

/-- An odd last byte is no unit. -/
theorem units_whole (bs : List UInt8) : units (whole bs) = units bs := by
  have last : (bs.drop (bs.length - bs.length % 2)).length < 2 := by
    rw [List.length_drop]
    omega
  have even : (whole bs).length % 2 = 0 := by
    rw [whole, List.length_take]
    omega
  calc units (whole bs)
      = units (whole bs ++ bs.drop (bs.length - bs.length % 2)) := by
        rw [units_append even, units_of_short last, List.append_nil]
    _ = units bs := by rw [whole, List.take_append_drop]

/-- Whole units spell those before the first zero. -/
theorem spells_iff : Spells bs us ↔ bs.length % 2 = 0 ∧ us = beforeZero (units bs) := by
  constructor
  · rintro ⟨all, rfl, upTo⟩
    rw [length_bytes, units_bytes]
    exact ⟨Nat.mul_mod_left _ _, upTo_iff.mp upTo⟩
  · rintro ⟨even, h⟩
    exact ⟨units bs, (bytes_units even).symm, upTo_iff.mpr h⟩

/-! ### What texts spell -/

theorem ne_zero_of_spells (h : Spells bs (encode cs)) : ∀ c ∈ cs, c ≠ '\x00' := by
  obtain ⟨all, -, upTo⟩ := h
  rintro c hc rfl
  exact upTo.ne 0 (List.mem_flatMap.mpr ⟨_, hc, List.mem_singleton_self 0⟩) rfl

/-- A text without the character zero is spelled by the bytes of its units. -/
theorem spells_encode (some : ∀ c ∈ cs, c ≠ '\x00') : Spells (bytes (encode cs)) (encode cs) := by
  refine ⟨encode cs, rfl, upTo_self fun u hu => ?_⟩
  obtain ⟨c, hc, hu⟩ := List.mem_flatMap.mp hu
  exact ne_zero_of_mem_encodeChar (some c hc) hu

/-- Only the replacement character has its unit. -/
theorem eq_replacement_of_mem {c : Char} (h : 0xFFFD ∈ encodeChar c) : c = replacement := by
  obtain ⟨u, hc, -, -, rfl⟩ | ⟨u, v, hc, high, low, rfl⟩ := unit_or_pair c
  · rw [hc, List.mem_singleton] at h
    rw [← h]
    rfl
  · rw [hc] at h
    obtain rfl | rfl := List.mem_pair.mp h
    · exact absurd high (by decide)
    · exact absurd low (by decide)

end Text.Utf16

open Text Text.Utf16

/-! ### Values -/

namespace Record

variable {r : Record} {s : String}

theorem wideText?_eq_some_iff : r.wideText? = some s ↔ Spells r.data (encode s.toList) := by
  rw [wideText?, spells_iff]
  by_cases even : r.data.length % 2 = 0
  · rw [if_pos even, Option.map_eq_some_iff]
    constructor
    · rintro ⟨cs, h, rfl⟩
      rw [String.toList_ofList]
      exact ⟨even, decode?_eq_some_iff.mp h⟩
    · rintro ⟨-, h⟩
      exact ⟨s.toList, decode?_eq_some_iff.mpr h, String.ofList_toList⟩
  · rw [if_neg even]
    constructor
    · exact nofun
    · exact fun h => absurd h.1 even

theorem text_eq_wideText? (kind : r.valueType = .unicodeString) :
    r.text = r.wideText?.elim (.error (.invalidText .unicodeString)) .ok := by
  rw [text, kind]

theorem text_eq_ok_iff (kind : r.valueType = .unicodeString) :
    r.text = .ok s ↔ Spells r.data (encode s.toList) := by
  rw [← wideText?_eq_some_iff, text_eq_wideText? kind]
  cases r.wideText? <;> simp

theorem text_eq_error_iff (kind : r.valueType = .unicodeString) :
    r.text = .error (.invalidText .unicodeString) ↔
      ∀ s : String, ¬ Spells r.data (encode s.toList) := by
  simp only [← wideText?_eq_some_iff]
  rw [text_eq_wideText? kind]
  cases r.wideText? <;> simp

/-- There is no text to be read exactly if there is half a unit or a surrogate is alone. -/
theorem forall_not_spells_iff : (∀ s : String, ¬ Spells r.data (encode s.toList)) ↔
    r.data.length % 2 = 1 ∨ ∃ us i, Spells r.data us ∧ Lone us i := by
  constructor
  · intro none
    by_cases even : r.data.length % 2 = 0
    · have spells := spells_iff.mpr ⟨even, rfl⟩
      right
      by_contra paired
      obtain ⟨cs, hcs⟩ := exists_encode_eq_iff.mpr fun i hi => paired ⟨_, i, spells, hi⟩
      rw [← hcs] at spells
      exact none (String.ofList cs) (by rwa [String.toList_ofList])
    · exact Or.inl (by omega)
  · rintro (odd | ⟨us, i, spells, lone⟩) s h
    · have even := (spells_iff.mp h).1
      omega
    · have same : encode s.toList = us := (spells_iff.mp h).2.trans (spells_iff.mp spells).2.symm
      exact exists_encode_eq_iff.mp ⟨_, same⟩ i lone

/-- Only the units before the first zero matter. -/
theorem text_of_spells {data : List UInt8} {us : List UInt16}
    (kind : r.valueType = .unicodeString) (h : Spells r.data us) (h' : Spells data us) :
    { r with data }.text = r.text := by
  obtain ⟨even, hus⟩ := spells_iff.mp h
  obtain ⟨even', hus'⟩ := spells_iff.mp h'
  have wide : wideText? { r with data } = r.wideText? := by
    rw [wideText?, wideText?, if_pos even, if_pos even', ← hus, ← hus']
  rw [text_eq_wideText? kind, ← wide]
  exact text_eq_wideText? kind

/-- **A value in units of two bytes is the text with these units, and no other.** It is read as the
text whose units are those before the first zero; if there is none, because of half a unit or of a
surrogate that is alone, it is no text. What follows the first zero does not matter, the text has no
zero, and every text without one can be read. -/
theorem text_spells (kind : r.valueType = .unicodeString) :
    (∀ s, r.text = .ok s ↔ Spells r.data (encode s.toList)) ∧
    (r.text = .error (.invalidText .unicodeString) ↔
      ∀ s : String, ¬ Spells r.data (encode s.toList)) ∧
    ((∀ s : String, ¬ Spells r.data (encode s.toList)) ↔
      r.data.length % 2 = 1 ∨ ∃ us i, Spells r.data us ∧ Lone us i) ∧
    (∀ s, r.text = .ok s → ∀ c ∈ s.toList, c ≠ '\x00') ∧
    (∀ us data, Spells r.data us → Spells data us → { r with data }.text = r.text) ∧
    ∀ s : String, (∀ c ∈ s.toList, c ≠ '\x00') → ∃ data, { r with data }.text = .ok s := by
  refine ⟨fun s => text_eq_ok_iff kind, text_eq_error_iff kind, forall_not_spells_iff, ?_, ?_, ?_⟩
  · intro s h
    exact ne_zero_of_spells ((text_eq_ok_iff kind).mp h)
  · intro us data h h'
    exact text_of_spells kind h h'
  · intro s some
    let written : Record := { r with data := bytes (encode s.toList) }
    have spells : Spells written.data (encode s.toList) := spells_encode some
    exact ⟨written.data, (text_eq_ok_iff (r := written) kind).mpr spells⟩

/-- A record of a text in units of two bytes. -/
def wide (data : List UInt8) : Record where
  size := 0
  key := .numeric 1
  valueType := .unicodeString
  data := data
  codepage := .windows1252

/-- The four bytes of a character that is a pair, a zero unit, and what follows it. -/
def smile (after : List UInt8) : List UInt8 := [0x3D, 0xD8, 0x00, 0xDE] ++ 0 :: 0 :: after

/-- A pair is read whatever comes after the zero unit, be it half of a pair, but not if there is half
a unit too much. -/
theorem text_smile :
    (wide (smile [0x3D, 0xD8])).text = .ok "😀" ∧ (∀ c ∈ "😀".toList, c ≠ '\x00') ∧
      (wide (smile [7, 7])).text = (wide (smile [0x3D, 0xD8])).text ∧
      (wide (smile [7])).text = .error (.invalidText .unicodeString) ∧
      ∃ data, (wide data).text = .ok "é" := by
  have upTo (u : UInt16) : UpTo 0 [0xD83D, 0xDE00] [0xD83D, 0xDE00, 0, u] :=
    ⟨by simp, [0, u], rfl, Or.inr ⟨[u], rfl⟩⟩
  have half : Spells (smile [0x3D, 0xD8]) [0xD83D, 0xDE00] :=
    ⟨[0xD83D, 0xDE00, 0, 0xD83D], by decide, upTo 0xD83D⟩
  have other : Spells (smile [7, 7]) [0xD83D, 0xDE00] :=
    ⟨[0xD83D, 0xDE00, 0, 0x0707], by decide, upTo 0x0707⟩
  have read : (wide (smile [0x3D, 0xD8])).text = .ok "😀" := ((text_spells rfl).1 "😀").mpr half
  refine ⟨read, (text_spells rfl).2.2.2.1 _ read, ?_, ?_, ?_⟩
  · exact (text_spells (r := wide (smile [0x3D, 0xD8])) rfl).2.2.2.2.1 _ _ half other
  · exact (text_spells rfl).2.1.mpr ((text_spells rfl).2.2.1.mpr (Or.inl rfl))
  · exact (text_spells (r := wide []) rfl).2.2.2.2.2 "é" (by simp)

end Record

/-! ### Names -/

namespace RecordKey

variable {raw : List UInt8} {us : List UInt16} {r : Record}

theorem nameText_of_spells (h : Spells (whole raw) us) :
    nameText raw = String.ofList (decodeLossy us) := by
  rw [nameText, (spells_iff.mp h).2, units_whole]

/-- A name that was read is read again from its own units. -/
theorem nameText_encode {name : String} (some : ∀ c ∈ name.toList, c ≠ '\x00') :
    nameText (bytes (encode name.toList)) = name := by
  have spells := spells_iff.mp (spells_encode some)
  rw [nameText, ← spells.2, decodeLossy_encode, String.ofList_toList]

/-- **The two readers of units agree.** Of the same whole units, what is a text as a value is the same
text as a name; and where the value is none, the name has the units before the first zero with the
unit of the replacement character for every lone surrogate, of which there is one. A name has no
zero, and is read again from its own units. -/
theorem nameText_spells (kind : r.valueType = .unicodeString) (hdata : r.data = whole raw) :
    ((∃ s, r.text = .ok s ∧ nameText raw = s) ∨
      r.text = .error (.invalidText .unicodeString) ∧
        (∃ us, Spells (whole raw) us ∧ Mends us (encode (nameText raw).toList)) ∧
        replacement ∈ (nameText raw).toList) ∧
    (∀ c ∈ (nameText raw).toList, c ≠ '\x00') ∧
    nameText (bytes (encode (nameText raw).toList)) = nameText raw := by
  have no_zero := nameText_no_zero raw
  refine ⟨?_, no_zero, nameText_encode no_zero⟩
  by_cases exists_text : ∃ s : String, Spells r.data (encode s.toList)
  · obtain ⟨s, spells⟩ := exists_text
    refine Or.inl ⟨s, (Record.text_eq_ok_iff kind).mpr spells, ?_⟩
    rw [hdata] at spells
    rw [nameText_of_spells spells, decodeLossy_encode, String.ofList_toList]
  · have none := not_exists.mp exists_text
    refine Or.inr ⟨(Record.text_eq_error_iff kind).mpr none, ?_⟩
    have even : r.data.length % 2 = 0 := by
      rw [hdata, whole, List.length_take]
      omega
    obtain odd | ⟨us, i, spells, lone⟩ := Record.forall_not_spells_iff.mp none
    · omega
    rw [hdata] at spells
    have mends := mends_decodeLossy us
    rw [nameText_of_spells spells, String.toList_ofList]
    refine ⟨⟨us, spells, mends⟩, ?_⟩
    obtain ⟨c, hc, hu⟩ := List.mem_flatMap.mp (List.mem_of_getElem? (mends.lone i lone))
    rwa [eq_replacement_of_mem hu] at hc

/-- Half of a pair, a letter, and half a unit. -/
def torn : List UInt8 := [0x3D, 0xD8, 0x61, 0x00, 0x07]

/-- Half of a pair is no text as a value, and is replaced in a name. -/
theorem nameText_torn :
    (Record.wide (whole torn)).text = .error (.invalidText .unicodeString) ∧
      (∃ us, Spells (whole torn) us ∧ Mends us (encode (nameText torn).toList)) ∧
      replacement ∈ (nameText torn).toList ∧ (∀ c ∈ (nameText torn).toList, c ≠ '\x00') ∧
      nameText (bytes (encode (nameText torn).toList)) = nameText torn := by
  have agree := @nameText_spells torn (Record.wide (whole torn)) rfl rfl
  obtain ⟨⟨s, h, -⟩ | ⟨h, mended, replaced⟩, no_zero, again⟩ := agree
  · exact absurd h nofun
  · exact ⟨h, mended, replaced, no_zero, again⟩

end RecordKey

end PropertyStore
