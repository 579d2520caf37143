import PropertyStore.Proofs.Words.Family
import PropertyStore.Proofs.Words.Stream

/-!
# Nothing overflows

A machine reads a store with words of 64 bits. For an input of less than half as many bytes as a
word counts, and any limit on values that is a word, every way to read it comes in words to what it
comes to in numbers (`Store.nothing_overflows`): in memory, a set alone, from either source, as a
stream, and by any use of cursors. As a computation in words comes to nothing where a sum, a
difference or a product has no room, or a byte is asked for that is not there, none of that happens,
whatever sizes and counts the bytes declare.
-/

namespace PropertyStore

open LittleEndian

theorem SeekSource.length_of_ofDevice {d : Device} {s : SeekSource} (h : ofDevice d = .ok s) :
    s.length = d.content.size := by
  cases fails : d.seekFails <;> simp [ofDevice, Device.seek, fails] at h
  rw [← h]

namespace Store

/-- **Nothing overflows.** Whatever the bytes and the options are, each reader of a store comes in
words to what it comes to in numbers. -/
theorem nothing_overflows (options : WordOptions) {input : Array UInt8}
    (half : input.size < UInt64.size / 2) :
    (readInWords options input).run = some (decode options.inNumbers input) ∧
    (PropertySet.readInWords options input).run =
      some (PropertySet.ofBytes options.inNumbers input) ∧
    (readSourceInWords options (MemorySource.mk input)).run =
      some (decodeSource options.inNumbers (MemorySource.mk input)) ∧
    (∀ device : Device, device.content = input → ∀ source, SeekSource.ofDevice device = .ok source →
      (readSourceInWords options source).run = some (decodeSource options.inNumbers source)) ∧
    (∀ device : Device, device.content = input → ∀ n,
      (WordStream.ofDevice device options).results n =
        some ((Stream.ofDevice device options.inNumbers).results n)) ∧
    (∀ requests : List (Nat × Cursor.Request), (∀ p ∈ requests, p.2.FitsWord) →
      ∀ answers family, Cursor.run [.ofBytes input 0] requests = some (answers, family) →
        ∃ words, WordCursor.run [.ofBytes input 0] requests = some (answers, words)) := by
  have room : input.size < UInt64.size := Nat.lt_of_lt_of_le half (Nat.div_le_self _ _)
  refine ⟨(agrees_readInWords options room).run_eq,
    (PropertySet.agrees_readInWords options room).run_eq,
    (agrees_readSourceInWords MemorySource.faithful options room).run_eq, ?_, ?_, ?_⟩
  · rintro device rfl source measured
    rw [← SeekSource.length_of_ofDevice measured] at room
    exact (agrees_readSourceInWords SeekSource.faithful options room).run_eq
  · rintro device rfl n
    exact WordStream.results_eq ⟨rfl, rfl, rfl, rfl, rfl⟩ (Stream.bounded_ofDevice room _) n
  · intro requests fits answers family ran
    obtain ⟨words, ran', -⟩ := WordCursor.exists_run (.cons (stands_input room) .nil) fits ran
    exact ⟨words, ran'⟩

/-- A record that counts as many units of two bytes as a count can say, and has none of them. -/
def boundlessRecord : List UInt8 :=
  word32 17 ++ word32 7 ++ [0] ++ word16 (ValueType.code .unicodeString) ++ [0, 0] ++
    word32 0xFFFFFFFF ++ []

/-- A set of that record. -/
def boundless : Array UInt8 :=
  (word32 41 ++ (Signature.bytes .serializedPropertyStorage ++ Guid.zero.bytes ++
    ([] ++ (boundlessRecord ++ []))) ++ []).toArray

theorem decode_boundless {options : DecodeOptions} (large : 8589934590 ≤ options.maxValueSize) :
    decode options boundless = .error (.read (.outOfData 41 8589934590 0)) := by
  have isHead : IsHead .numeric (word32 17 ++ word32 7 ++ [0]) 17 (.numeric 7) := .numeric 17 7 0
  have isOpening := IsOpening.mk .unicodeString isHead (rfl : [(0 : UInt8), 0].length = 2)
  have isCount : IsCount ValueType.unicodeString.encoding (word32 0xFFFFFFFF) 8589934590 :=
    .counted 2 0xFFFFFFFF
  have short : RecordDefect .numeric options 24 boundlessRecord
      (.read (.outOfData 41 8589934590 0)) :=
    have nothing : ([] : List UInt8).length < 8589934590 := by decide
    .short (.value isOpening isCount large) nothing
  have chain : ChainDefect .numeric options 24 (boundlessRecord ++ [])
      (.read (.outOfData 41 8589934590 0)) :=
    have starts : word32 17 <+: boundlessRecord ++ [] := by decide
    .record starts (by decide) (by decide) short
  have header : 24 ≤ (41 : UInt32).toNat := by decide
  have body : BodyDefect options 0 (Signature.bytes .serializedPropertyStorage ++
      Guid.zero.bytes ++ ([] ++ (boundlessRecord ++ []))) (.read (.outOfData 41 8589934590 0)) :=
    .chain (.numeric (by decide)) .nil chain
  have set := SetDefect.body header (by decide) body []
  exact decode_of_storeDefect .nil (.set (by decide) set) rfl

/-- The number of bytes that such a record asks for has room in a word, and so has whatever limit
there is on it. -/
theorem readInWords_boundless :
    boundless.size < UInt64.size / 2 ∧
      (readInWords ⟨.windows1252, 0xFFFFFFFFFFFFFFFF⟩ boundless).run =
        some (.error (.read (.outOfData 41 8589934590 0))) := by
  have half : boundless.size < UInt64.size / 2 := by decide
  have words := (nothing_overflows ⟨.windows1252, 0xFFFFFFFFFFFFFFFF⟩ half).1
  refine ⟨half, words.trans ?_⟩
  rw [decode_boundless (by decide)]

end Store

end PropertyStore
