import PropertyStore.Proofs.Text.Visible
import PropertyStore.Proofs.Value.Reading

/-!
# What values look like in writing

Only a value that is a text can be written with blanks, tabs or ends of lines: whatever else is read
of a value is visible in writing, and so are bytes (`visible_display`).
-/

namespace PropertyStore

open Text

/-- What is read of a value is visible in writing, unless it is a text. -/
theorem Reading.visible_written (t : ValueType) (v : Reading) (h : ∀ s, v ≠ .text s) :
    Visible (v.written t) := by
  cases v with
  | boolean b =>
    simp only [written]
    split <;> decide
  | signed n =>
    simp only [written]
    split
    · rw [Record.currencyText]
      split <;> simp +decide
    · rw [Record.signedText]
      split <;> simp +decide
  | unsigned n =>
    simp only [written]
    split
    · simp +decide [Record.statusText]
    · exact visible_repr n
  | fraction x => exact visible_fraction x
  | text s => exact absurd rfl (h s)
  | instant t => exact visible_instant t
  | identifier g => exact visible_identifier g

namespace Record

variable {r : Record}

/-- Only the reading as a text gives a text. -/
theorem ne_text_of_read {i : Interpretation} {v : Reading} (h : i ≠ .text) (hv : r.read i = .ok v)
    (s : String) : v ≠ .text s := by
  rintro rfl
  cases i with
  | text => exact h rfl
  | _ =>
    simp only [read, Except.map] at hv
    split at hv <;> cases hv

/-- **A value that is no text is visible in writing.** -/
theorem visible_display (h : r.valueType.interpretation? ≠ some .text) : Visible r.display := by
  cases assigned : r.valueType.interpretation? with
  | none =>
    have unread := ValueType.interpretation?_eq_none_iff.mp assigned
    simp only [ValueType.unread, List.mem_cons, List.not_mem_nil, or_false] at unread
    rw [display, shown?]
    rcases unread with h | h | h | h <;> rw [h] <;> simp +decide
  | some i =>
    rw [assigned] at h
    rw [display_eq assigned]
    cases hv : r.read i with
    | error e => exact visible_hex r.data
    | ok v => exact Reading.visible_written _ v (ne_text_of_read (fun hi => h (hi ▸ rfl)) hv)

end Record

end PropertyStore
