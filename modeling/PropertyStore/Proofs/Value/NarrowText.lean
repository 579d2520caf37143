import PropertyStore.Proofs.Codepage
import PropertyStore.Proofs.Text.UpTo
import PropertyStore.Record.Value

/-!
# Text in units of one byte, as a value

A value in units of one byte is what its codepage makes of the bytes before the first zero
(`text_narrow`). As codepages lose nothing, these bytes are known by the text; what comes after them is
never looked at (`loses_nothing`).
-/

namespace PropertyStore

open Text

namespace Record

variable {r : Record} {front data : List UInt8} {s : String}

/-- The codepage has the last word on the bytes before the first zero. -/
theorem text_narrow (kind : r.valueType = .codepageString ∨ r.valueType = .binaryString)
    (upTo : UpTo 0 front r.data) :
    r.text = (r.codepage.decode? front).elim (.error (.invalidText r.valueType)) .ok := by
  rw [upTo_iff.mp upTo, text]
  obtain kind | kind := kind <;> rw [kind] <;> rfl

theorem text_narrow_eq_ok_iff (kind : r.valueType = .codepageString ∨ r.valueType = .binaryString)
    (upTo : UpTo 0 front r.data) : r.text = .ok s ↔ r.codepage.decode? front = some s := by
  rw [text_narrow kind upTo]
  cases r.codepage.decode? front <;> simp

theorem text_narrow_eq_error_iff
    (kind : r.valueType = .codepageString ∨ r.valueType = .binaryString)
    (upTo : UpTo 0 front r.data) :
    r.text = .error (.invalidText r.valueType) ↔ r.codepage.decode? front = none := by
  rw [text_narrow kind upTo]
  cases r.codepage.decode? front <;> simp

/-- Only the bytes before the first zero matter. -/
theorem text_narrow_of_upTo (kind : r.valueType = .codepageString ∨ r.valueType = .binaryString)
    (upTo : UpTo 0 front r.data) (upTo' : UpTo 0 front data) :
    { r with data }.text = r.text := by
  rw [text_narrow kind upTo]
  exact text_narrow (r := { r with data }) kind upTo'

end Record

namespace Codepage

/-- **Codepages lose nothing.** Bytes are known by their text. Windows-1252 reads all bytes but five,
each as one character and by itself; UTF-8 reads just the bytes that texts have. So a value in units
of one byte is a text exactly if the bytes before its first zero are one in its codepage, and then it
is that text, in which there is no zero. What comes after those bytes does not matter. -/
theorem loses_nothing :
    (∀ (codepage : Codepage) (as bs : List UInt8) (s : String),
      codepage.decode? as = some s → codepage.decode? bs = some s → as = bs) ∧
    (∀ bs, (∃ s, windows1252.decode? bs = some s) ↔
      ∀ b ∈ bs, b ∉ ([0x81, 0x8D, 0x8F, 0x90, 0x9D] : List UInt8)) ∧
    (∀ bs s, windows1252.decode? bs = some s → s.toList.length = bs.length) ∧
    (∀ as bs, windows1252.decode? (as ++ bs) =
      (windows1252.decode? as).bind fun s => (windows1252.decode? bs).map (s ++ ·)) ∧
    (∀ bs s, utf8.decode? bs = some s ↔ bs = s.toList.flatMap String.utf8EncodeChar) ∧
    ∀ r : Record, r.valueType = .codepageString ∨ r.valueType = .binaryString →
      ∃ front, UpTo 0 front r.data ∧
        (∀ s, r.text = .ok s ↔ r.codepage.decode? front = some s) ∧
        (r.text = .error (.invalidText r.valueType) ↔ r.codepage.decode? front = none) ∧
        (∀ s, r.text = .ok s → ∀ c ∈ s.toList, c ≠ '\x00') ∧
        ∀ data, UpTo 0 front data → { r with data }.text = r.text := by
  refine ⟨fun _ _ _ _ => decode?_inj, fun _ => exists_windows1252_iff, ?_,
    fun _ _ => windows1252_append, ?_, ?_⟩
  · intro bs s h
    exact (windows1252_eq_some_iff.mp h).length_eq.symm
  · intro bs s
    rw [utf8_eq_some_iff, Utf8.bytes_eq_flatMap]
  · intro r kind
    have upTo : UpTo 0 (r.data.takeWhile (· != 0)) r.data := upTo_iff.mpr rfl
    refine ⟨_, upTo, fun s => Record.text_narrow_eq_ok_iff kind upTo,
      Record.text_narrow_eq_error_iff kind upTo, ?_,
      fun data upTo' => Record.text_narrow_of_upTo kind upTo upTo'⟩
    intro s h
    exact ne_zero_of_decode? ((Record.text_narrow_eq_ok_iff kind upTo).mp h) upTo.ne

/-- A record of a text in units of one byte in Windows-1252. -/
def narrow (data : List UInt8) : Record where
  size := 0
  key := .numeric 1
  valueType := .codepageString
  data := data
  codepage := .windows1252

/-- Two characters, of which the first is from the table. -/
def euro : String := String.ofList ['€', 'é']

/-- No other bytes are the same text, and a byte that is no character may follow the zero. -/
theorem loses_nothing_euro :
    windows1252.decode? [0x80, 0xE9] = some euro ∧
      (∀ bs, windows1252.decode? bs = some euro → bs = [0x80, 0xE9]) ∧ euro.toList.length = 2 ∧
      (narrow [0x80, 0xE9, 0, 0x81]).text = .ok euro ∧ (∀ c ∈ euro.toList, c ≠ '\x00') ∧
      (narrow [0x80, 0xE9]).text = (narrow [0x80, 0xE9, 0, 0x81]).text := by
  have read : windows1252.decode? [0x80, 0xE9] = some euro := rfl
  obtain ⟨front, upTo, ok, -, no_zero, only⟩ :=
    loses_nothing.2.2.2.2.2 (narrow [0x80, 0xE9, 0, 0x81]) (Or.inl rfl)
  obtain rfl : front = [0x80, 0xE9] := (upTo_iff.mp upTo).trans (by decide)
  refine ⟨read, fun bs h => loses_nothing.1 windows1252 bs _ euro h read,
    loses_nothing.2.2.1 _ _ read, (ok euro).mpr read, no_zero euro ((ok euro).mpr read), ?_⟩
  exact only [0x80, 0xE9] (upTo_self (by simp))

end Codepage

end PropertyStore
