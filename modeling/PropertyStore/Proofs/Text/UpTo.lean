import Mathlib.Data.List.TakeWhile

/-!
# Up to an end

A text in bytes or in units of two bytes ends before its first zero. What comes before an end is a
list without it, behind which there is nothing or the end and more (`UpTo`). There is one such list,
and it is what is taken as long as there is no end (`upTo_iff`).
-/

namespace PropertyStore.Text

variable {α : Type} {z : α} {front whole : List α}

/-- The whole is the front, in which the end does not occur, and then nothing or the end and more. -/
structure UpTo (z : α) (front whole : List α) : Prop where
  ne (x : α) (hx : x ∈ front) : x ≠ z
  split : ∃ rest, whole = front ++ rest ∧ (rest = [] ∨ ∃ more, rest = z :: more)

/-- What is without the end comes before it, and is all there is. -/
theorem upTo_self (ne : ∀ x ∈ front, x ≠ z) : UpTo z front front where
  ne := ne
  split := ⟨[], (List.append_nil front).symm, Or.inl rfl⟩

variable [BEq α] [LawfulBEq α]

/-- What comes before the end is what is taken as long as there is none. -/
theorem upTo_iff : UpTo z front whole ↔ front = whole.takeWhile (· != z) := by
  constructor
  · rintro ⟨ne, rest, rfl, ends⟩
    have kept : ∀ x ∈ front, (x != z) = true := fun x hx => bne_iff_ne.mpr (ne x hx)
    rw [List.takeWhile_append_of_pos kept]
    obtain rfl | ⟨more, rfl⟩ := ends
    · rw [List.takeWhile_nil, List.append_nil]
    · rw [List.takeWhile_cons_of_neg (by simp), List.append_nil]
  · rintro rfl
    refine ⟨fun x hx => bne_iff_ne.mp (List.mem_takeWhile_imp (p := (· != z)) hx),
      whole.dropWhile (· != z), List.takeWhile_append_dropWhile.symm, ?_⟩
    cases h : whole.dropWhile (· != z) with
    | nil => exact Or.inl rfl
    | cons x more =>
      have ends := List.head_dropWhile_not (· != z) (l := whole) (by rw [h]; exact nofun)
      simp only [h, List.head_cons, bne_eq_false_iff_eq] at ends
      exact Or.inr ⟨more, by rw [ends]⟩

end PropertyStore.Text
