import Mathlib.Data.List.DropRight
import PropertyStore.Proofs.Text.Lines
import PropertyStore.Proofs.Text.Visible
import PropertyStore.Text.Blank

/-!
# Blank characters at the end

Trimming takes the blank characters off the end of a text. It takes nothing exactly from a text that
ends in a sign, as every text does that is visible (`trim_eq_self_iff`); and from what is written in
lines it takes no more than the end of the last, as long as there is a sign in it (`trim_linesText`).
-/

namespace PropertyStore.Text

open CommandLine

/-- A text without the blank characters at its end. -/
def trim (s : String) : String := String.ofList (Blank.trimEnd s.toList)

/-- Lines of which the last is without the blank characters at its end. -/
def trimLast (lines : List String) : List String :=
  lines.dropLast ++ lines.getLast?.toList.map trim

/-- The text has a last character, and it is not blank. -/
def EndsInSign (s : String) : Prop := ∃ c ∈ s.toList.getLast?, Blank.isBlank c = false

variable {s t last : String} {front : List String}

@[simp] theorem trimLast_concat : trimLast (front ++ [last]) = front ++ [trim last] := by
  simp [trimLast]

/-! ### Texts that end in a sign -/

theorem exists_toList_concat (some : s ≠ "") : ∃ cs c, s.toList = cs ++ [c] :=
  (List.eq_nil_or_concat' s.toList).resolve_left (by simpa using some)

theorem endsInSign_of_toList {cs : List Char} {c : Char} (h : s.toList = cs ++ [c]) :
    EndsInSign s ↔ Blank.isBlank c = false := by
  simp [EndsInSign, h]

theorem endsInSign_append (more : t ≠ "") : EndsInSign (s ++ t) ↔ EndsInSign t := by
  obtain ⟨cs, c, h⟩ := exists_toList_concat more
  have whole : (s ++ t).toList = s.toList ++ cs ++ [c] := by simp [h]
  rw [endsInSign_of_toList h, endsInSign_of_toList whole]

/-- What is seen is not blank. -/
theorem isBlank_of_isVisible {c : Char} (h : isVisible c = true) : Blank.isBlank c = false := by
  simp only [isVisible, Bool.and_eq_true, decide_eq_true_eq] at h
  simp [Blank.isBlank, Blank.ranges]
  omega

theorem endsInSign_of_visible (h : Visible s) (some : s ≠ "") : EndsInSign s := by
  obtain ⟨cs, c, hs⟩ := exists_toList_concat some
  exact (endsInSign_of_toList hs).mpr (isBlank_of_isVisible (h c (by simp [hs])))

/-! ### Trimming -/

/-- Nothing is taken from a text that ends in a sign, and something from any other. -/
theorem trim_eq_self_iff (some : s ≠ "") : trim s = s ↔ EndsInSign s := by
  obtain ⟨cs, c, h⟩ := exists_toList_concat some
  rw [endsInSign_of_toList h, trim, ← String.toList_inj, String.toList_ofList,
    show Blank.trimEnd s.toList = s.toList.rdropWhile Blank.isBlank from rfl,
    List.rdropWhile_eq_self_iff]
  simp [h]

/-- No character comes in by trimming. -/
theorem mem_of_mem_trim {c : Char} (h : c ∈ (trim s).toList) : c ∈ s.toList := by
  rw [trim, String.toList_ofList] at h
  exact (List.rdropWhile_prefix Blank.isBlank s.toList).subset h

/-- What comes before a sign stays. -/
theorem trim_append {c : Char} (hc : c ∈ t.toList) (sign : Blank.isBlank c = false) :
    trim (s ++ t) = s ++ trim t := by
  have some : (t.toList.reverse.dropWhile Blank.isBlank).isEmpty = false := by
    rw [List.isEmpty_eq_false_iff, Ne, List.dropWhile_eq_nil_iff]
    intro blank
    rw [blank c (by simpa using hc)] at sign
    cases sign
  rw [← String.toList_inj]
  simp [trim, Blank.trimEnd, List.dropWhile_append, some]

theorem trim_append_feed : trim (s ++ "\n") = trim s := by
  rw [trim, trim, String.toList_append]
  exact congrArg String.ofList (List.rdropWhile_concat_pos Blank.isBlank s.toList '\n' rfl)

/-- Of lines with a sign in the last, trimming leaves all but the blank characters at the end of
that one. -/
theorem trim_linesText {c : Char} (hc : c ∈ last.toList) (sign : Blank.isBlank c = false) :
    trim (linesText (front ++ [last])) = "\n".intercalate (trimLast (front ++ [last])) := by
  have split : linesText (front ++ [last]) = linesText front ++ last ++ "\n" := by
    simp [linesText, String.append_assoc]
  rw [split, trim_append_feed, trim_append hc sign, linesText_append_eq_intercalate,
    trimLast_concat]

end PropertyStore.Text
