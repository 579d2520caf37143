import PropertyStore.Record.Display
import PropertyStore.Text.Quoted

/-!
# Text that is seen

A text is visible when all of its characters are signs of ASCII: no blank, no tab, no end of a line.
Numbers are visible in every way in which they are written, and so are binary fractions, instants
and identifiers. What is made of visible parts is visible, and `simp` takes it apart.

A text between quotes need not be visible, but it has neither a tab nor an end of a line
(`ne_of_mem_quote`).
-/

namespace PropertyStore.Text

/-- Whether a character is a sign of ASCII. -/
def isVisible (c : Char) : Bool := 0x20 < c.toNat && c.toNat < 0x7F

/-- Every character is a sign of ASCII. -/
def AllVisible (cs : List Char) : Prop := ∀ c ∈ cs, isVisible c = true

/-- Every character of the text is a sign of ASCII. -/
def Visible (s : String) : Prop := AllVisible s.toList

instance (cs : List Char) : Decidable (AllVisible cs) :=
  List.decidableBAll (fun c => isVisible c = true) cs

instance (s : String) : Decidable (Visible s) := inferInstanceAs (Decidable (AllVisible s.toList))

variable {s t : String} {cs ds : List Char}

/-- A character that is no sign does not occur. -/
theorem Visible.not_mem (h : Visible s) {c : Char} (hc : isVisible c = false) : c ∉ s.toList := by
  intro mem
  rw [h c mem] at hc
  cases hc

/-! ### Parts -/

@[simp] theorem allVisible_append :
    AllVisible (cs ++ ds) ↔ AllVisible cs ∧ AllVisible ds := List.forall_mem_append

@[simp] theorem allVisible_cons {c : Char} :
    AllVisible (c :: cs) ↔ isVisible c = true ∧ AllVisible cs := List.forall_mem_cons

@[simp] theorem allVisible_nil : AllVisible [] := nofun

@[simp] theorem visible_ofList : Visible (String.ofList cs) ↔ AllVisible cs := by
  rw [Visible, String.toList_ofList]

@[simp] theorem visible_append : Visible (s ++ t) ↔ Visible s ∧ Visible t := by
  rw [Visible, String.toList_append, allVisible_append]
  rfl

theorem allVisible_replicate {c : Char} (h : isVisible c = true) (n : Nat) :
    AllVisible (List.replicate n c) := by
  intro d mem
  rw [List.eq_of_mem_replicate mem]
  exact h

theorem visible_join {ss : List String} (h : ∀ s ∈ ss, Visible s) : Visible (String.join ss) := by
  intro c mem
  rw [String.toList_join, List.mem_flatMap] at mem
  obtain ⟨s, hs, hc⟩ := mem
  exact h s hs c hc

/-! ### Numbers -/

theorem isVisible_digitChar (d : Nat) : isVisible d.digitChar = true := by
  have few : ∀ d < 16, isVisible d.digitChar = true := by decide
  by_cases small : d < 16
  · exact few d small
  · rw [Nat.digitChar_eq_star.mpr (Nat.le_of_not_lt small)]
    rfl

/-- The digits of a number are signs, in any base. -/
theorem allVisible_toDigits {b : Nat} (hb : 1 < b) (n : Nat) : AllVisible (Nat.toDigits b n) := by
  induction n using Nat.strongRecOn with
  | ind n ih =>
    rw [Nat.toDigits_eq_if hb]
    split
    · simp [isVisible_digitChar]
    · next large =>
      have smaller : n / b < n := Nat.div_lt_self (by omega) hb
      simp [ih _ smaller, isVisible_digitChar]

@[simp] theorem visible_repr (n : Nat) : Visible (Nat.repr n) := by
  rw [Visible, Nat.toList_repr]
  exact allVisible_toDigits (by decide) n

/-- A number in a fixed count of digits is visible if its digits are. -/
theorem allVisible_fixed {base : Nat} {digit : Nat → Char} (pos : 0 < base)
    (h : ∀ d < base, isVisible (digit d) = true) (width n : Nat) :
    AllVisible (Numeral.fixed base digit width n) := by
  intro c mem
  obtain ⟨d, hd, rfl⟩ := Numeral.exists_of_mem_fixed pos mem
  exact h d hd

@[simp] theorem visible_decimal (width n : Nat) : Visible (Numeral.decimal width n) :=
  visible_ofList.mpr (allVisible_fixed (by decide) (by decide) width n)

@[simp] theorem visible_lowerHex (width n : Nat) : Visible (Numeral.lowerHex width n) :=
  visible_ofList.mpr (allVisible_fixed (by decide) (by decide) width n)

@[simp] theorem visible_upperHex (width n : Nat) : Visible (Numeral.upperHex width n) :=
  visible_ofList.mpr (allVisible_fixed (by decide) (by decide) width n)

@[simp] theorem visible_hex (bs : List UInt8) : Visible (Hex.encode bs) := by
  rw [Hex.encode, visible_ofList]
  intro c mem
  obtain ⟨b, -, hc⟩ := List.mem_flatMap.mp mem
  exact allVisible_fixed (by decide) (by decide) 2 b.toNat c hc

/-! ### Fractions, instants, identifiers -/

theorem allVisible_pointed (hd : AllVisible ds) (places : Nat) :
    AllVisible (Decimal.pointed ds places) := by
  have padded : AllVisible (List.replicate (places + 1 - ds.length) '0' ++ ds) :=
    allVisible_append.mpr ⟨allVisible_replicate rfl _, hd⟩
  have front (n : Nat) : AllVisible (List.take n _) := fun c mem =>
    padded c (List.mem_of_mem_take mem)
  have back (n : Nat) : AllVisible (List.drop n _) := fun c mem =>
    padded c (List.mem_of_mem_drop mem)
  rw [Decimal.pointed]
  exact allVisible_append.mpr ⟨front _, allVisible_cons.mpr ⟨rfl, back _⟩⟩

theorem visible_scaled (d : Decimal.Scaled) : Visible d.text := by
  have digits := allVisible_toDigits (b := 10) (by decide) d.digits
  rw [Decimal.Scaled.text]
  split
  · simp [digits, allVisible_replicate (show isVisible '0' = true from rfl)]
  · simp [allVisible_pointed digits]

@[simp] theorem visible_fraction (x : Binary64) : Visible x.text := by
  rw [Binary64.text]
  repeat' split
  all_goals simp +decide [visible_scaled]

@[simp] theorem visible_moment (m : Moment) : Visible m.text := by
  have year (y : Int) : Visible (Moment.yearText y) := by
    rw [Moment.yearText, visible_append]
    constructor
    · split
      · decide
      · split <;> decide
    · split <;> simp
  have fraction (n : Nat) : Visible (Moment.fractionText n) := by
    rw [Moment.fractionText]
    repeat' split
    all_goals simp +decide
  simp +decide [Moment.text, year, fraction]

@[simp] theorem visible_instant (t : Filetime) : Visible t.text := by
  rw [Filetime.text]
  split
  · exact visible_moment _
  · simp +decide

@[simp] theorem visible_identifier (g : Guid) : Visible g.text := by
  have bytes (bs : List UInt8) : Visible (Guid.upperBytes bs) := by
    refine visible_join fun s mem => ?_
    obtain ⟨b, -, rfl⟩ := List.mem_map.mp mem
    exact visible_upperHex 2 _
  simp +decide [Guid.text, bytes]

/-! ### Quoted text -/

theorem ne_of_isVisible {c : Char} (h : isVisible c = true) : c ≠ '\t' ∧ c ≠ '\n' := by
  constructor <;> rintro rfl <;> exact absurd h (by decide)

/-- What stands for a character between quotes is neither a tab nor an end of a line. -/
theorem ne_of_mem_escape {c d : Char} (mem : d ∈ Quoted.escape c) : d ≠ '\t' ∧ d ≠ '\n' := by
  have numbered : AllVisible (Quoted.numbered c) := by
    simp +decide [Quoted.numbered, allVisible_toDigits]
  unfold Quoted.escape at mem
  split at mem
  case h_7 not_tab not_feed _ _ _ =>
    split at mem
    · exact ne_of_isVisible (numbered d mem)
    · rw [List.mem_singleton.mp mem]
      exact ⟨not_tab, not_feed⟩
  all_goals
    simp only [List.mem_cons, List.not_mem_nil, or_false] at mem
    rcases mem with rfl | rfl <;> decide

/-- Between quotes there is neither a tab nor an end of a line. -/
theorem ne_of_mem_quote {c : Char} (mem : c ∈ (Quoted.quote s).toList) : c ≠ '\t' ∧ c ≠ '\n' := by
  rw [Quoted.quote, String.toList_ofList, Quoted.encode] at mem
  simp only [List.mem_append, List.mem_cons, List.mem_flatMap, List.not_mem_nil, or_false] at mem
  rcases mem with (rfl | ⟨d, -, mem⟩) | rfl
  · decide
  · exact ne_of_mem_escape mem
  · decide

end PropertyStore.Text
