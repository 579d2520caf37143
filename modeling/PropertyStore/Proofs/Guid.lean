import Mathlib.Data.Set.List
import PropertyStore.Guid
import PropertyStore.Proofs.Text.Lines
import PropertyStore.Proofs.Text.Numeral

/-!
# The forms of an identifier

An identifier is sixteen bytes, it is four numbers, and it is a text.

Its numbers make the identifier (`ofFields_data`), and an identifier that is made of numbers has
those numbers (`data_ofFields`). In writing it is five groups of digits with hyphens between them.
The bytes of a number lie with the lowest first and are written with the highest first, so the first
three groups are the bytes from back to front, and the last two are the bytes as they lie
(`groups_eq`).

A text is read by its groups (`ofText?`). An identifier is read back from its text (`ofText?_text`),
so it is known by its text (`text_inj`); and every text of the shape is the text of an identifier
(`isShaped_iff`). The three forms are put together in `forms_inverse`.
-/

namespace PropertyStore.Guid

open Text LittleEndian

theorem bytes_inj {g g' : Guid} (h : g.bytes = g'.bytes) : g = g' := by
  cases g
  cases g'
  cases h
  rfl

/-! ### Numbers -/

theorem word32_data1 (g : Guid) : word32 g.data1 = g.bytes.take 4 :=
  word32_ofNat_toNat (by simp [g.length_bytes])

theorem word16_data2 (g : Guid) : word16 g.data2 = (g.bytes.drop 4).take 2 :=
  word16_ofNat_toNat (by simp [g.length_bytes])

theorem word16_data3 (g : Guid) : word16 g.data3 = (g.bytes.drop 6).take 2 :=
  word16_ofNat_toNat (by simp [g.length_bytes])

theorem toList_data4 (g : Guid) : g.data4.toList = g.bytes.drop 8 := rfl

theorem bytes_ofFields (data1 : UInt32) (data2 data3 : UInt16) (data4 : Vector UInt8 8) :
    (ofFields data1 data2 data3 data4).bytes =
      word32 data1 ++ (word16 data2 ++ (word16 data3 ++ data4.toList)) := by
  simp [ofFields, word32, word16]

/-- An identifier is made of its numbers. -/
theorem ofFields_data (g : Guid) : ofFields g.data1 g.data2 g.data3 g.data4 = g := by
  apply bytes_inj
  calc (ofFields g.data1 g.data2 g.data3 g.data4).bytes
      = g.bytes.take 4 ++ ((g.bytes.drop 4).take 2 ++
          ((g.bytes.drop 6).take 2 ++ g.bytes.drop 8)) := by
        rw [bytes_ofFields, word32_data1, word16_data2, word16_data3, toList_data4]
    _ = g.bytes := by
        rw [← List.append_assoc, ← List.append_assoc, ← List.take_add, ← List.take_add,
          List.take_append_drop]

/-- An identifier that is made of numbers has them. -/
theorem data_ofFields (data1 : UInt32) (data2 data3 : UInt16) (data4 : Vector UInt8 8) :
    (ofFields data1 data2 data3 data4).data1 = data1 ∧
      (ofFields data1 data2 data3 data4).data2 = data2 ∧
      (ofFields data1 data2 data3 data4).data3 = data3 ∧
      (ofFields data1 data2 data3 data4).data4 = data4 := by
  have whole := bytes_ofFields data1 data2 data3 data4
  refine ⟨?_, ?_, ?_, Vector.toList_inj.mp ?_⟩
  · simp [Guid.data1, whole]
  · simp [Guid.data2, whole]
  · simp [Guid.data3, whole, List.drop_append, List.drop_of_length_le]
  · simp [toList_data4, whole, List.drop_append, List.drop_of_length_le]

/-! ### Groups of digits -/

/-- The groups of digits of an identifier. -/
def groups (g : Guid) : List String :=
  [Numeral.upperHex 8 g.data1.toNat, Numeral.upperHex 4 g.data2.toNat,
    Numeral.upperHex 4 g.data3.toNat, upperBytes (g.data4.toList.take 2),
    upperBytes (g.data4.toList.drop 2)]

theorem text_eq (g : Guid) : g.text = "\x7b" ++ "-".intercalate g.groups ++ "\x7d" := by
  simp only [groups, String.intercalate_cons_cons, String.intercalate_singleton,
    ← String.append_assoc]
  rfl

theorem toList_upperBytes (bs : List UInt8) :
    (upperBytes bs).toList = bs.flatMap fun b => Numeral.fixed 16 Numeral.upperDigit 2 b.toNat := by
  simp [upperBytes, Numeral.upperHex, String.toList_join, List.flatMap_map]

@[simp] theorem length_upperBytes (bs : List UInt8) : (upperBytes bs).length = 2 * bs.length := by
  rw [← String.length_toList, toList_upperBytes]
  simp [List.map_const', Nat.mul_comm]

/-- The digits of a word are those of its bytes, the last byte first. -/
theorem upperHex_toNat (bs : List UInt8) :
    Numeral.upperHex (2 * bs.length) (toNat bs) = upperBytes bs.reverse := by
  rw [← String.toList_inj, toList_upperBytes, Numeral.upperHex, String.toList_ofList]
  induction bs with
  | nil => rfl
  | cons b bs ih =>
    -- The lowest byte gives the last two digits, and the others give those before them.
    have hb := b.toNat_lt
    have others : (b.toNat + 256 * toNat bs) / 16 / 16 = toNat bs := by omega
    have high : (b.toNat + 256 * toNat bs) / 16 % 16 = b.toNat / 16 % 16 := by omega
    have low : (b.toNat + 256 * toNat bs) % 16 = b.toNat % 16 := by omega
    rw [List.length_cons, Nat.mul_add_one, LittleEndian.toNat, Numeral.fixed, Numeral.fixed, others,
      high, low, ih, List.reverse_cons, List.flatMap_append, List.append_assoc]
    rfl

/-- Sixteen bytes in the groups and in the order in which they are written. -/
def written (bs : List UInt8) : List (List UInt8) :=
  [(bs.take 4).reverse, ((bs.drop 4).take 2).reverse, ((bs.drop 6).take 2).reverse,
    (bs.drop 8).take 2, bs.drop 10]

/-- The groups of an identifier are the digits of its bytes, those of the first three numbers from
back to front. -/
theorem groups_eq (g : Guid) : g.groups = (written g.bytes).map upperBytes := by
  have first : Numeral.upperHex 8 g.data1.toNat = upperBytes (g.bytes.take 4).reverse := by
    have digits := upperHex_toNat (word32 g.data1)
    rwa [length_word32, toNat_word32, word32_data1] at digits
  have word (w : UInt16) : Numeral.upperHex 4 w.toNat = upperBytes (word16 w).reverse := by
    have digits := upperHex_toNat (word16 w)
    rwa [length_word16, toNat_word16] at digits
  simp [groups, written, first, word, word16_data2, word16_data3, toList_data4]

example : text ⟨[0xE2, 0x8A, 0x58, 0x46, 0xBC, 0x4C, 0x38, 0x43, 0xBB, 0xFC, 0x13, 0x93, 0x26, 0x98,
    0x6D, 0xCE], rfl⟩ = "\x7b46588AE2-4CBC-4338-BBFC-139326986DCE\x7d" := rfl

/-- Five words in the order in which they are written are the groups of the bytes that they are. -/
theorem written_append {first second third front back : List UInt8} (h₁ : first.length = 4)
    (h₂ : second.length = 2) (h₃ : third.length = 2) (h₄ : front.length = 2) :
    written (first.reverse ++ (second.reverse ++ (third.reverse ++ (front ++ back)))) =
      [first, second, third, front, back] := by
  simp [written, List.drop_append, List.drop_of_length_le, h₁, h₂, h₃, h₄]

/-! ### The shape of a text -/

/-- Five groups of capital digits: eight, four, four, four and twelve. -/
structure Grouped (groups : List String) : Prop where
  lengths : groups.map String.length = [8, 4, 4, 4, 12]
  capital : ∀ s ∈ groups, s.toList.all Numeral.isCapital

instance (groups : List String) : Decidable (Grouped groups) :=
  decidable_of_iff
    (groups.map String.length = [8, 4, 4, 4, 12] ∧ ∀ s ∈ groups, s.toList.all Numeral.isCapital)
    ⟨fun h => ⟨h.1, h.2⟩, fun h => ⟨h.lengths, h.capital⟩⟩

/-- The shape of an identifier in writing: such groups in braces, with hyphens between them. -/
def IsShaped (s : String) : Prop :=
  ∃ groups, Grouped groups ∧ s = "\x7b" ++ "-".intercalate groups ++ "\x7d"

theorem grouped_groups (g : Guid) : Grouped g.groups where
  lengths := by simp [groups_eq, written, g.length_bytes]
  capital := by
    intro s hs
    rw [groups_eq] at hs
    obtain ⟨bs, -, rfl⟩ := List.mem_map.mp hs
    rw [toList_upperBytes, List.all_eq_true]
    intro c hc
    obtain ⟨b, -, hc⟩ := List.mem_flatMap.mp hc
    exact Numeral.isCapital_iff.mpr (Numeral.exists_of_mem_fixed (by decide) hc)

/-- Groups are the pieces of a text between its hyphens. -/
theorem Grouped.pieces_eq {groups : List String} (h : Grouped groups) :
    pieces '-' ("-".intercalate groups) = groups := by
  have clear : ∀ s ∈ groups, '-' ∉ s.toList := by
    intro s hs mem
    have hyphen : Numeral.isCapital '-' := List.all_eq_true.mp (h.capital s hs) _ mem
    exact absurd hyphen (by decide)
  have five : groups ≠ [] := by
    rintro rfl
    cases h.lengths
  exact pieces_intercalate clear five

/-- Pairs of capital digits are those of bytes. -/
theorem exists_upperBytes_eq {cs : List Char} (even : cs.length % 2 = 0)
    (capital : cs.all Numeral.isCapital) : ∃ bs, upperBytes bs = String.ofList cs := by
  induction cs using Hex.ofDigits?.induct with
  | case1 => exact ⟨[], rfl⟩
  | case2 c => cases even
  | case3 a b rest ih =>
    -- Two digits are one byte, and the rest is in pairs again.
    simp only [List.length_cons] at even
    simp only [List.all_cons, Bool.and_eq_true] at capital
    obtain ⟨ha, hb, later⟩ := capital
    obtain ⟨high, high_lt, rfl⟩ := Numeral.isCapital_iff.mp ha
    obtain ⟨low, low_lt, rfl⟩ := Numeral.isCapital_iff.mp hb
    obtain ⟨bs, digits⟩ := ih (by omega) later
    have room : 16 * high + low < UInt8.size := by
      show 16 * high + low < 256
      omega
    have front : (16 * high + low) / 16 % 16 = high := by omega
    have back : (16 * high + low) % 16 = low := by omega
    refine ⟨UInt8.ofNat (16 * high + low) :: bs, ?_⟩
    rw [← String.toList_inj, toList_upperBytes, String.toList_ofList] at digits ⊢
    rw [List.flatMap_cons, digits, UInt8.toNat_ofNat_of_lt' room]
    simp [Numeral.fixed, front, back]

/-- Groups of so many capital digits are those of an identifier. -/
theorem Grouped.exists_groups_eq {groups : List String} (h : Grouped groups) :
    ∃ g : Guid, g.groups = groups := by
  have isBytes : ∀ s ∈ groups, s ∈ Set.range upperBytes := by
    intro s hs
    have long : s.length ∈ groups.map String.length := List.mem_map_of_mem hs
    rw [h.lengths] at long
    have even : ∀ n ∈ [8, 4, 4, 4, 12], n % 2 = 0 := by decide
    obtain ⟨bs, digits⟩ := exists_upperBytes_eq (even _ long) (h.capital s hs)
    exact ⟨bs, digits.trans String.ofList_toList⟩
  -- Read as bytes, the groups lie in an identifier with the first three from back to front.
  obtain ⟨bss, rfl⟩ : groups ∈ Set.range (List.map upperBytes) := by
    rw [Set.range_list_map]
    exact isBytes
  have lengths := h.lengths
  simp only [List.map_map, List.map_eq_cons_iff, List.map_eq_nil_iff, Function.comp_apply,
    length_upperBytes] at lengths
  obtain ⟨first, _, rfl, h₁, second, _, rfl, h₂, third, _, rfl, h₃, front, _, rfl, h₄, back, _, rfl,
    h₅, rfl⟩ := lengths
  refine ⟨⟨first.reverse ++ (second.reverse ++ (third.reverse ++ (front ++ back))), ?_⟩, ?_⟩
  · simp only [List.length_append, List.length_reverse]
    omega
  · rw [groups_eq, written_append (by omega) (by omega) (by omega) (by omega)]

/-- The texts of the shape are the texts of the identifiers. -/
theorem isShaped_iff {s : String} : IsShaped s ↔ ∃ g : Guid, s = g.text := by
  constructor
  · rintro ⟨groups, h, rfl⟩
    obtain ⟨g, rfl⟩ := h.exists_groups_eq
    exact ⟨g, g.text_eq.symm⟩
  · rintro ⟨g, rfl⟩
    exact ⟨g.groups, g.grouped_groups, g.text_eq⟩

/-! ### Reading -/

/-- Eight bytes, if there are eight. -/
def eight? (bs : List UInt8) : Option (Vector UInt8 8) :=
  if h : bs.length = 8 then some ⟨bs.toArray, by simpa using h⟩ else none

/-- The identifier that groups of digits stand for. Of its four numbers each of the first three is
one group, and the last is the bytes of two. -/
def ofGroups? : List String → Option Guid
  | [first, second, third, front, back] => do
    let data1 ← Numeral.hexNumber? first.toList
    let data2 ← Numeral.hexNumber? second.toList
    let data3 ← Numeral.hexNumber? third.toList
    let data4 ← (Hex.decode? (front ++ back)).bind eight?
    return ofFields (UInt32.ofNat data1) (UInt16.ofNat data2) (UInt16.ofNat data3) data4
  | _ => none

/-- What is in braces, if nothing is outside them. -/
def inner? (s : String) : Option String :=
  let inner := String.ofList s.toList.tail.dropLast
  if s = "\x7b" ++ inner ++ "\x7d" then some inner else none

/-- The identifier that a text stands for, if it has the shape of one. -/
def ofText? (s : String) : Option Guid := do
  let inner ← inner? s
  if Grouped (pieces '-' inner) then ofGroups? (pieces '-' inner) else none

theorem inner?_braces (s : String) : inner? ("\x7b" ++ s ++ "\x7d") = some s := by
  simp [inner?]

theorem eq_of_inner? {s inner : String} (h : inner? s = some inner) :
    s = "\x7b" ++ inner ++ "\x7d" := by
  simp only [inner?] at h
  split at h
  · next braces => rwa [← Option.some.inj h]
  · cases h

theorem eight?_toList (bs : Vector UInt8 8) : eight? bs.toList = some bs := by
  simp [eight?, ← Vector.toList_inj]

theorem ofGroups?_groups (g : Guid) : ofGroups? g.groups = some g := by
  have number (width : Nat) {n : Nat} (room : n < Nat.pow 16 width) :
      Numeral.hexNumber? (Numeral.upperHex width n).toList = some n := by
    rw [Numeral.upperHex, String.toList_ofList]
    exact Numeral.hexNumber?_fixed Numeral.hexValue?_upperDigit room
  have first := number 8 g.data1.toNat_lt
  have second := number 4 g.data2.toNat_lt
  have third := number 4 g.data3.toNat_lt
  have last : Hex.decode? (upperBytes (g.data4.toList.take 2) ++
      upperBytes (g.data4.toList.drop 2)) = some g.data4.toList := by
    rw [Hex.decode?, String.toList_append, toList_upperBytes, toList_upperBytes,
      ← List.flatMap_append, List.take_append_drop,
      Hex.ofDigits?_flatMap Numeral.hexValue?_upperDigit]
  simp [ofGroups?, groups, first, second, third, last, eight?_toList, ofFields_data]

/-- An identifier is read back from its text. -/
theorem ofText?_text (g : Guid) : ofText? g.text = some g := by
  have shaped := grouped_groups g
  rw [text_eq, ofText?, inner?_braces, Option.bind_eq_bind, Option.bind_some, shaped.pieces_eq,
    if_pos shaped, ofGroups?_groups]

theorem isShaped_of_ofText? {s : String} {g : Guid} (h : ofText? s = some g) : IsShaped s := by
  obtain ⟨inner, braces, h⟩ := Option.bind_eq_some_iff.mp h
  split at h
  · next grouped =>
    exact ⟨_, grouped, by rw [eq_of_inner? braces, intercalate_pieces]⟩
  · cases h

/-- **An identifier is known by its text.** -/
theorem text_inj {g g' : Guid} (h : g.text = g'.text) : g = g' := by
  have read := ofText?_text g
  rw [h, ofText?_text] at read
  exact (Option.some.inj read).symm

/-- No text but its own is read as an identifier. -/
theorem ofText?_eq_some_iff {s : String} {g : Guid} : ofText? s = some g ↔ s = g.text := by
  constructor
  · intro h
    obtain ⟨g', rfl⟩ := isShaped_iff.mp (isShaped_of_ofText? h)
    rw [ofText?_text] at h
    rw [Option.some.inj h]
  · rintro rfl
    exact ofText?_text g

/-- **Bytes, numbers and text are three forms of one identifier.** Sixteen bytes make an identifier
that has them and is made of its numbers, and one that is made of numbers has those. Its text shows
the bytes, those of the first three numbers from back to front. The texts of the shape are the texts
of the identifiers, each is read as the identifier whose text it is, and two identifiers have one
text exactly when they have the same bytes. -/
theorem forms_inverse :
    (∀ bs : Vector UInt8 16, ∃ g, ofBytes? bs.toList = some g ∧ g.bytes = bs.toList ∧
      ofFields g.data1 g.data2 g.data3 g.data4 = g) ∧
    (∀ (data1 : UInt32) (data2 data3 : UInt16) (data4 : Vector UInt8 8),
      (ofFields data1 data2 data3 data4).data1 = data1 ∧
        (ofFields data1 data2 data3 data4).data2 = data2 ∧
        (ofFields data1 data2 data3 data4).data3 = data3 ∧
        (ofFields data1 data2 data3 data4).data4 = data4) ∧
    (∀ g : Guid,
      g.text = "\x7b" ++ "-".intercalate ((written g.bytes).map upperBytes) ++ "\x7d") ∧
    (∀ s, IsShaped s ↔ ∃ g : Guid, s = g.text) ∧
    (∀ s g, ofText? s = some g ↔ s = g.text) ∧
    ∀ g g' : Guid, g.text = g'.text ↔ g.bytes = g'.bytes := by
  refine ⟨fun bs => ?_, data_ofFields, fun g => ?_, fun _ => isShaped_iff,
    fun _ _ => ofText?_eq_some_iff, fun g g' => ⟨fun h => ?_, fun h => ?_⟩⟩
  · have sixteen : bs.toList.length = 16 := Vector.length_toList
    exact ⟨⟨bs.toList, sixteen⟩, dif_pos sixteen, rfl, ofFields_data _⟩
  · rw [text_eq, groups_eq]
  · rw [text_inj h]
  · rw [bytes_inj h]

end PropertyStore.Guid
