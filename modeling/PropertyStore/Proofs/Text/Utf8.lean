import PropertyStore.Codepage

/-!
# Text in UTF-8

A text is read back from its bytes (`decode?_bytes`). Only the character zero has a byte that is
zero (`ne_zero_of_mem_bytes`), so a text without it is what comes before the first zero byte,
whether or not there is one behind it (`takeWhile_bytes`).
-/

namespace PropertyStore.Text.Utf8

/-- The bytes of a text. -/
def bytes (text : String) : List UInt8 := text.toUTF8.data.toList

theorem bytes_eq_flatMap (text : String) :
    bytes text = text.toList.flatMap String.utf8EncodeChar := by
  rw [bytes, String.toUTF8_eq_toByteArray, ← String.utf8Encode_toList, List.utf8Encode,
    List.data_toByteArray]

theorem decode?_bytes (text : String) : Codepage.utf8.decode? (bytes text) = some text := by
  have whole : (⟨(bytes text).toArray⟩ : ByteArray) = text.toByteArray := rfl
  rw [Codepage.decode?, whole, String.fromUTF8?, dif_pos text.isValidUTF8]
  rfl

theorem ofNat_ne_zero {n : Nat} (pos : 0 < n) (fits : n < 256) : (0 : UInt8) ≠ UInt8.ofNat n := by
  intro h
  have zero := congrArg UInt8.toNat h
  rw [UInt8.toNat_ofNat_of_lt' fits, UInt8.toNat_zero] at zero
  omega

/-- A byte by itself is a character below `U+0080`, and every byte of a longer one has a bit that
says that it is none by itself. -/
theorem ne_zero_of_mem_utf8EncodeChar {c : Char} (hc : c ≠ '\x00') {b : UInt8}
    (hb : b ∈ String.utf8EncodeChar c) : b ≠ 0 := by
  have pos : 0 < c.val.toNat := Nat.pos_of_ne_zero fun zero => hc (Char.toNat_inj.mp zero)
  rintro rfl
  simp only [String.utf8EncodeChar] at hb
  split at hb
  · exact ofNat_ne_zero pos (by omega) (List.mem_singleton.mp hb)
  split at hb
  · simp only [List.mem_cons, List.not_mem_nil, or_false] at hb
    obtain h | h := hb <;> exact ofNat_ne_zero (by omega) (by omega) h
  split at hb <;> simp only [List.mem_cons, List.not_mem_nil, or_false] at hb
  · obtain h | h | h := hb <;> exact ofNat_ne_zero (by omega) (by omega) h
  · obtain h | h | h | h := hb <;> exact ofNat_ne_zero (by omega) (by omega) h

theorem ne_zero_of_mem_bytes {text : String} (some : ∀ c ∈ text.toList, c ≠ '\x00') {b : UInt8}
    (hb : b ∈ bytes text) : b ≠ 0 := by
  rw [bytes_eq_flatMap] at hb
  obtain ⟨c, hc, hb⟩ := List.mem_flatMap.mp hb
  exact ne_zero_of_mem_utf8EncodeChar (some c hc) hb

/-- A text without the character zero comes before the first zero byte, if there is one. -/
theorem takeWhile_bytes {text : String} (some : ∀ c ∈ text.toList, c ≠ '\x00') {rest : List UInt8}
    (ends : rest = [] ∨ ∃ more, rest = 0 :: more) :
    (bytes text ++ rest).takeWhile (· != 0) = bytes text := by
  have kept : ∀ b ∈ bytes text, (b != 0) = true := fun b hb =>
    bne_iff_ne.mpr (ne_zero_of_mem_bytes some hb)
  rw [List.takeWhile_append_of_pos kept]
  obtain rfl | ⟨more, rfl⟩ := ends
  · rw [List.takeWhile_nil, List.append_nil]
  · rw [List.takeWhile_cons_of_neg (by simp), List.append_nil]

end PropertyStore.Text.Utf8
