import Mathlib.Data.List.Forall2
import PropertyStore.Proofs.Json.Grammar
import PropertyStore.Proofs.Text.Utf16

/-!
# Printed documents are read back

What is printed of a document is a JSON text that stands for it and for nothing else
(`isText_pretty_iff`), so a document is known by what is printed of it. Every part is read back from
where it stands, whatever comes after it; but after a number there must be no digit, and after what
is printed within a document there is none.
-/

namespace PropertyStore.Json

open Text

variable {cs rest : List Char} {j : Json} {depth : Nat}

/-! ### Space -/

@[simp] theorem skip_newLine (depth : Nat) (cs : List Char) :
    skip (newLine depth ++ cs) = skip cs := by
  have spaces (n : Nat) : skip (List.replicate n ' ' ++ cs) = skip cs := by
    rw [skip, List.dropWhile_append_of_pos]
    · rfl
    · intro c mem
      rw [List.eq_of_mem_replicate mem]
      rfl
  exact spaces (2 * depth)

/-- A document starts with no space. -/
theorem ReadsValue.skip_eq (h : ReadsValue cs j rest) : skip cs = cs := by
  cases h with
  | @number c cs digit =>
    have notSpace : isSpace c = false := by
      simp only [isSpace, Bool.or_eq_false_iff, beq_eq_false_iff_ne]
      refine ⟨⟨⟨?_, ?_⟩, ?_⟩, ?_⟩ <;> rintro rfl <;> cases digit
    simp [skip, notSpace]
  | _ => rfl

theorem ReadsMember.skip_eq {m : String × Json} (h : ReadsMember cs m rest) : skip cs = cs := by
  cases h with
  | mk => rfl

/-! ### Strings -/

/-- A unit is read back from its digits. -/
theorem unit?_fixed {n : Nat} (room : n < 0x10000) :
    unit? (Numeral.fixed 16 Numeral.lowerDigit 4 n ++ cs) = some (UInt16.ofNat n, cs) := by
  have read : Numeral.hexNumber? (Numeral.fixed 16 Numeral.lowerDigit 4 n) = some n :=
    Numeral.hexNumber?_fixed Numeral.hexValue?_lowerDigit room
  calc unit? (Numeral.fixed 16 Numeral.lowerDigit 4 n ++ cs)
      = (Numeral.hexNumber? (Numeral.fixed 16 Numeral.lowerDigit 4 n)).map
          (UInt16.ofNat ·, cs) := rfl
    _ = some (UInt16.ofNat n, cs) := by rw [read]; rfl

/-- A control character is read back from its number. -/
theorem readsChars_control {c : Char} (control : c.toNat < 0x20) {s : List Char}
    (h : ReadsChars cs s rest) :
    ReadsChars ('\\' :: 'u' :: Numeral.fixed 16 Numeral.lowerDigit 4 c.toNat ++ cs) (c :: s)
      rest := by
  have room : c.toNat < 0x10000 := Nat.lt_trans control (by decide)
  have number : (UInt16.ofNat c.toNat).toNat = c.toNat := UInt16.toNat_ofNat_of_lt' room
  have single : Utf16.single (UInt16.ofNat c.toNat) = c := by
    rw [Utf16.single, number, Char.ofNat_toNat]
  have notHigh : Utf16.isHigh (UInt16.ofNat c.toNat) = false := by
    rw [Bool.eq_false_iff, Ne, Utf16.isHigh_iff, number]
    omega
  have notLow : Utf16.isLow (UInt16.ofNat c.toNat) = false := by
    rw [Bool.eq_false_iff, Ne, Utf16.isLow_iff, number]
    omega
  have read := ReadsChars.unit (unit?_fixed room) notHigh notLow h
  rwa [single] at read

/-- A character is read back from what stands for it in a string. -/
theorem readsChars_escape (c : Char) {s : List Char} (h : ReadsChars cs s rest) :
    ReadsChars (escape c ++ cs) (c :: s) rest := by
  unfold escape
  split
  · exact .letter rfl h
  · exact .letter rfl h
  · exact .letter rfl h
  · exact .letter rfl h
  · exact .letter rfl h
  · exact .letter rfl h
  · exact .letter rfl h
  · next notQuote notBackslash _ _ _ _ _ =>
    split
    · next control => exact readsChars_control control h
    · next other => exact .plain notQuote notBackslash (Nat.le_of_not_lt other) h

/-- A string is read back from what is printed of it. -/
theorem readsChars_quote (s : List Char) :
    ReadsChars (s.flatMap escape ++ '"' :: rest) s rest := by
  induction s with
  | nil => exact .close
  | cons c s ih =>
    rw [List.flatMap_cons, List.append_assoc]
    exact readsChars_escape c ih

/-! ### Numbers -/

/-- The text does not start with a digit. -/
def NoDigit (cs : List Char) : Prop := ∀ c ∈ cs.head?, c.isDigit = false

/-- Digits are taken up to what does not start with one. -/
theorem takeWhile_digits {ds : List Char} (digits : ∀ d ∈ ds, d.isDigit = true)
    (h : NoDigit rest) :
    (ds ++ rest).takeWhile Char.isDigit = ds ∧ (ds ++ rest).dropWhile Char.isDigit = rest := by
  rw [List.takeWhile_append_of_pos digits, List.dropWhile_append_of_pos digits]
  cases rest with
  | nil => simp
  | cons c rest => simp [h c rfl]

/-- A number is read back from its digits. -/
theorem readsValue_toDigits (n : Nat) (h : NoDigit rest) :
    ReadsValue (Nat.toDigits 10 n ++ rest) (.number n) rest := by
  obtain ⟨c, ds, digits, lead⟩ := Numeral.exists_toDigits_eq n
  have all : ∀ d ∈ c :: ds, d.isDigit = true := by
    intro d mem
    rw [← digits] at mem
    exact Nat.isDigit_of_mem_toDigits (by decide) (by decide) mem
  obtain ⟨first, later⟩ := List.forall_mem_cons.mp all
  obtain ⟨taken, dropped⟩ := takeWhile_digits later h
  have tight : c = '0' → (ds ++ rest).takeWhile Char.isDigit = [] := by
    intro zero
    rw [lead zero] at digits
    rw [taken]
    exact (List.cons.inj digits).2.symm
  have read := ReadsValue.number first tight
  rw [taken, dropped, ← digits, Nat.ofDigitChars_ten_toDigits] at read
  rwa [digits]

/-! ### Lists and objects -/

/-- What is printed after the first item or member: the others, each behind a comma, and the closing
bracket or brace. -/
def afterFirst (closing : Char) (depth : Nat) (lines : List (List Char)) (rest : List Char) :
    List Char :=
  lines.flatMap (fun line => ',' :: newLine (depth + 1) ++ line) ++
    (newLine depth ++ closing :: rest)

theorem bracketed_append (opening closing : Char) (depth : Nat) (line : List Char)
    (lines : List (List Char)) (rest : List Char) :
    bracketed opening closing depth (line :: lines) ++ rest =
      opening :: (newLine (depth + 1) ++ (line ++ afterFirst closing depth lines rest)) := by
  simp [bracketed, afterFirst]

theorem afterFirst_cons (closing : Char) (depth : Nat) (line : List Char)
    (lines : List (List Char)) (rest : List Char) :
    afterFirst closing depth (line :: lines) rest =
      ',' :: (newLine (depth + 1) ++ (line ++ afterFirst closing depth lines rest)) := by
  simp [afterFirst]

/-- After an item or a member comes a comma or a new line. -/
theorem noDigit_afterFirst (closing : Char) (depth : Nat) (lines : List (List Char))
    (rest : List Char) : NoDigit (afterFirst closing depth lines rest) := by
  intro c hc
  cases lines with
  | nil =>
    obtain rfl := Option.some.inj hc
    rfl
  | cons line lines =>
    rw [afterFirst_cons] at hc
    obtain rfl := Option.some.inj hc
    rfl

/-- What is printed of a document is read back as the document, whatever comes after it. -/
def Prints (line : List Char) (j : Json) : Prop :=
  ∀ rest, NoDigit rest → ReadsValue (line ++ rest) j rest

/-- What is printed of a member is read back as the member, whatever comes after it. -/
def PrintsMember (line : List Char) (m : String × Json) : Prop :=
  ∀ rest, NoDigit rest → ReadsMember (line ++ rest) m rest

/-- A document is read back from its line in a list. -/
theorem Prints.read_line {line : List Char} (h : Prints line j) (closing : Char) (depth : Nat)
    (lines : List (List Char)) (rest : List Char) :
    ReadsValue (skip (newLine (depth + 1) ++ (line ++ afterFirst closing depth lines rest))) j
      (afterFirst closing depth lines rest) := by
  have read := h _ (noDigit_afterFirst closing depth lines rest)
  rw [skip_newLine, read.skip_eq]
  exact read

/-- A member is read back from its line in an object. -/
theorem PrintsMember.read_line {line : List Char} {m : String × Json} (h : PrintsMember line m)
    (closing : Char) (depth : Nat) (lines : List (List Char)) (rest : List Char) :
    ReadsMember (skip (newLine (depth + 1) ++ (line ++ afterFirst closing depth lines rest))) m
      (afterFirst closing depth lines rest) := by
  have read := h _ (noDigit_afterFirst closing depth lines rest)
  rw [skip_newLine, read.skip_eq]
  exact read

theorem skip_afterFirst_nil (closing : Char) (depth : Nat) (rest : List Char) :
    skip (afterFirst closing depth [] rest) = skip (closing :: rest) := skip_newLine depth _

theorem skip_afterFirst_cons (closing : Char) (depth : Nat) (line : List Char)
    (lines : List (List Char)) (rest : List Char) :
    skip (afterFirst closing depth (line :: lines) rest) =
      ',' :: (newLine (depth + 1) ++ (line ++ afterFirst closing depth lines rest)) := by
  rw [afterFirst_cons]
  rfl

/-- Items are read back from their lines. -/
theorem readsItems_lines (depth : Nat) {line : List Char} {lines : List (List Char)}
    {items : List Json} (h : Prints line j) (later : List.Forall₂ Prints lines items)
    (rest : List Char) :
    ReadsItems (newLine (depth + 1) ++ (line ++ afterFirst ']' depth lines rest)) (j :: items)
      rest := by
  induction later generalizing line j with
  | nil => exact .last (h.read_line ..) (skip_afterFirst_nil ..)
  | cons next _ ih => exact .more (h.read_line ..) (skip_afterFirst_cons ..) (ih next)

/-- Members are read back from their lines. -/
theorem readsMembers_lines (depth : Nat) {line : List Char} {m : String × Json}
    {lines : List (List Char)} {members : List (String × Json)} (h : PrintsMember line m)
    (later : List.Forall₂ PrintsMember lines members) (rest : List Char) :
    ReadsMembers (newLine (depth + 1) ++ (line ++ afterFirst '\x7d' depth lines rest))
      (m :: members) rest := by
  induction later generalizing line m with
  | nil => exact .last (h.read_line ..) (skip_afterFirst_nil ..)
  | cons next _ ih => exact .more (h.read_line ..) (skip_afterFirst_cons ..) (ih next)

/-! ### Documents -/

mutual

/-- A document is read back from what is printed of it. -/
theorem prints_print (depth : Nat) : (j : Json) → Prints (print depth j) j
  | .null => fun _ _ => .null
  | .bool true => fun _ _ => .yes
  | .bool false => fun _ _ => .no
  | .number n => fun _ h => readsValue_toDigits n h
  | .string s => fun rest _ => by
    have read : ReadsValue ('"' :: (s.toList.flatMap escape ++ '"' :: rest))
        (.string (String.ofList s.toList)) rest := .string (readsChars_quote s.toList)
    rw [String.ofList_toList] at read
    simpa [print, quote] using read
  | .list [] => fun _ _ => .emptyList rfl
  | .list (item :: items) => fun rest _ => by
    have first := prints_print (depth + 1) item
    have later := forall₂_printItems (depth + 1) items
    rw [print, printItems, bracketed_append]
    exact .list (readsItems_lines depth first later rest)
  | .object [] => fun _ _ => .emptyObject rfl
  | .object (member :: members) => fun rest _ => by
    have first := printsMember_printMember (depth + 1) member
    have later := forall₂_printMembers (depth + 1) members
    rw [print, printMembers, bracketed_append]
    exact .object (readsMembers_lines depth first later rest)

theorem forall₂_printItems (depth : Nat) :
    (items : List Json) → List.Forall₂ Prints (printItems depth items) items
  | [] => .nil
  | item :: items => .cons (prints_print depth item) (forall₂_printItems depth items)

theorem forall₂_printMembers (depth : Nat) :
    (members : List (String × Json)) →
      List.Forall₂ PrintsMember (printMembers depth members) members
  | [] => .nil
  | member :: members =>
    .cons (printsMember_printMember depth member) (forall₂_printMembers depth members)

theorem printsMember_printMember (depth : Nat) :
    (m : String × Json) → PrintsMember (printMember depth m) m
  | (name, value) => fun rest h => by
    have read := prints_print depth value rest h
    -- Behind the colon is a space, which is passed over; the document itself starts with none.
    have colon : skip (": ".toList ++ (print depth value ++ rest)) =
        ':' :: ' ' :: (print depth value ++ rest) := rfl
    have space : skip (' ' :: (print depth value ++ rest)) = print depth value ++ rest :=
      read.skip_eq
    rw [← space] at read
    have member := ReadsMember.mk (readsChars_quote name.toList) colon read
    rw [String.ofList_toList] at member
    simpa [printMember, quote] using member

end

/-- **A printed document is a JSON text that stands for it.** -/
theorem isText_pretty (j : Json) : IsText j.pretty j := by
  have read := prints_print 0 j [] nofun
  rw [List.append_nil] at read
  refine ⟨[], ?_, rfl⟩
  rw [pretty, String.toList_ofList, read.skip_eq]
  exact read

/-- What a printed document stands for is the document alone. -/
theorem isText_pretty_iff {j j' : Json} : IsText j.pretty j' ↔ j' = j := by
  constructor
  · intro h
    exact h.unique (isText_pretty j)
  · rintro rfl
    exact isText_pretty j'

/-- A document is known by what is printed of it. -/
theorem pretty_inj {j j' : Json} (h : j.pretty = j'.pretty) : j = j' := by
  rw [← isText_pretty_iff, ← h]
  exact isText_pretty j

end PropertyStore.Json
