import PropertyStore.Json
import PropertyStore.Proofs.Text.Numeral
import PropertyStore.Text.Utf16

/-!
# The grammar of JSON texts

What a JSON text stands for, said apart from how documents are printed. Between the parts of a text
there may be space, which is passed over (`skip`); the parts are relations between a text, what
stands at its start and what comes after it. A character of a string may stand for itself, unless it
is a quote, a backslash or a control character, and it may always be given by its number: by one
unit of sixteen bits, or by the two of a pair of surrogates.

Of the numbers only whole ones without a sign are in the grammar, since documents have no others.
Such a number has no superfluous zero at its start, and goes on for as long as there are digits.

A text stands for one document at most (`IsText.unique`).
-/

namespace PropertyStore.Json

open Text

/-! ### Space -/

/-- Whether a character is space. -/
def isSpace (c : Char) : Bool := c == ' ' || c == '\t' || c == '\n' || c == '\x0d'

/-- A text without the space at its start. -/
def skip (cs : List Char) : List Char := cs.dropWhile isSpace

/-! ### Strings -/

/-- The character that a letter behind a backslash stands for. -/
def unescape? : Char → Option Char
  | '"' => some '"'
  | '\\' => some '\\'
  | '/' => some '/'
  | 'b' => some '\x08'
  | 'f' => some '\x0c'
  | 'n' => some '\n'
  | 'r' => some '\x0d'
  | 't' => some '\t'
  | _ => none

/-- The unit that four digits stand for, and what comes after them. -/
def unit? : List Char → Option (UInt16 × List Char)
  | a :: b :: c :: d :: rest => (Numeral.hexNumber? [a, b, c, d]).map (UInt16.ofNat ·, rest)
  | _ => none

/-- The characters of a string up to its closing quote. -/
inductive ReadsChars : List Char → List Char → List Char → Prop where
  /-- The string ends. -/
  | close {rest : List Char} : ReadsChars ('"' :: rest) [] rest
  /-- A character that stands for itself. -/
  | plain {c : Char} {cs s rest : List Char} (notQuote : c ≠ '"') (notBackslash : c ≠ '\\')
      (notControl : 0x20 ≤ c.toNat) (h : ReadsChars cs s rest) : ReadsChars (c :: cs) (c :: s) rest
  /-- A character given by a letter. -/
  | letter {l c : Char} {cs s rest : List Char} (stands : unescape? l = some c)
      (h : ReadsChars cs s rest) : ReadsChars ('\\' :: l :: cs) (c :: s) rest
  /-- A character given by a unit. -/
  | unit {u : UInt16} {cs cs' s rest : List Char} (digits : unit? cs = some (u, cs'))
      (notHigh : Utf16.isHigh u = false) (notLow : Utf16.isLow u = false)
      (h : ReadsChars cs' s rest) : ReadsChars ('\\' :: 'u' :: cs) (Utf16.single u :: s) rest
  /-- A character given by a pair of units. -/
  | pair {u v : UInt16} {cs cs' cs'' s rest : List Char}
      (first : unit? cs = some (u, '\\' :: 'u' :: cs')) (second : unit? cs' = some (v, cs''))
      (high : Utf16.isHigh u = true) (low : Utf16.isLow v = true) (h : ReadsChars cs'' s rest) :
      ReadsChars ('\\' :: 'u' :: cs) (Utf16.pair u v :: s) rest

/-! ### Documents -/

mutual

/-- A document at the start of a text. -/
inductive ReadsValue : List Char → Json → List Char → Prop where
  /-- Nothing. -/
  | null {rest : List Char} : ReadsValue ('n' :: 'u' :: 'l' :: 'l' :: rest) .null rest
  /-- That something is so. -/
  | yes {rest : List Char} : ReadsValue ('t' :: 'r' :: 'u' :: 'e' :: rest) (.bool true) rest
  /-- That something is not so. -/
  | no {rest : List Char} :
      ReadsValue ('f' :: 'a' :: 'l' :: 's' :: 'e' :: rest) (.bool false) rest
  /-- A whole number. -/
  | number {c : Char} {cs : List Char} (digit : c.isDigit = true)
      (tight : c = '0' → cs.takeWhile Char.isDigit = []) :
      ReadsValue (c :: cs) (.number (Nat.ofDigitChars 10 (c :: cs.takeWhile Char.isDigit) 0))
        (cs.dropWhile Char.isDigit)
  /-- A string. -/
  | string {cs s rest : List Char} (h : ReadsChars cs s rest) :
      ReadsValue ('"' :: cs) (.string (String.ofList s)) rest
  /-- A list without items. -/
  | emptyList {cs rest : List Char} (close : skip cs = ']' :: rest) :
      ReadsValue ('[' :: cs) (.list []) rest
  /-- A list of items. -/
  | list {cs rest : List Char} {items : List Json} (h : ReadsItems cs items rest) :
      ReadsValue ('[' :: cs) (.list items) rest
  /-- An object without members. -/
  | emptyObject {cs rest : List Char} (close : skip cs = '\x7d' :: rest) :
      ReadsValue ('\x7b' :: cs) (.object []) rest
  /-- An object of members. -/
  | object {cs rest : List Char} {members : List (String × Json)}
      (h : ReadsMembers cs members rest) : ReadsValue ('\x7b' :: cs) (.object members) rest

/-- Items with commas between them, up to the closing bracket. -/
inductive ReadsItems : List Char → List Json → List Char → Prop where
  /-- The last item. -/
  | last {cs cs' rest : List Char} {j : Json} (h : ReadsValue (skip cs) j cs')
      (close : skip cs' = ']' :: rest) : ReadsItems cs [j] rest
  /-- An item with others after it. -/
  | more {cs cs' cs'' rest : List Char} {j : Json} {items : List Json}
      (h : ReadsValue (skip cs) j cs') (comma : skip cs' = ',' :: cs'')
      (later : ReadsItems cs'' items rest) : ReadsItems cs (j :: items) rest

/-- Members with commas between them, up to the closing brace. -/
inductive ReadsMembers : List Char → List (String × Json) → List Char → Prop where
  /-- The last member. -/
  | last {cs cs' rest : List Char} {m : String × Json} (h : ReadsMember (skip cs) m cs')
      (close : skip cs' = '\x7d' :: rest) : ReadsMembers cs [m] rest
  /-- A member with others after it. -/
  | more {cs cs' cs'' rest : List Char} {m : String × Json} {members : List (String × Json)}
      (h : ReadsMember (skip cs) m cs') (comma : skip cs' = ',' :: cs'')
      (later : ReadsMembers cs'' members rest) : ReadsMembers cs (m :: members) rest

/-- A name, a colon and a document. -/
inductive ReadsMember : List Char → String × Json → List Char → Prop where
  /-- A member. -/
  | mk {cs cs' cs'' name rest : List Char} {j : Json} (h : ReadsChars cs name cs')
      (colon : skip cs' = ':' :: cs'') (value : ReadsValue (skip cs'') j rest) :
      ReadsMember ('"' :: cs) (String.ofList name, j) rest

end

/-- The text stands for the document: there is nothing else in it but space. -/
def IsText (text : String) (j : Json) : Prop :=
  ∃ rest, ReadsValue (skip text.toList) j rest ∧ skip rest = []

/-! ### One reading -/

/-- There is one way at most to read a string. -/
theorem ReadsChars.unique {cs s s' rest rest' : List Char} (h : ReadsChars cs s rest)
    (h' : ReadsChars cs s' rest') : s = s' ∧ rest = rest' := by
  induction h generalizing s' rest' with
  | close =>
    cases h' with
    | close => exact ⟨rfl, rfl⟩
    | plain notQuote => exact absurd rfl notQuote
  | plain notQuote notBackslash _ _ ih =>
    cases h' with
    | close => exact absurd rfl notQuote
    | plain _ _ _ h' =>
      obtain ⟨rfl, rfl⟩ := ih h'
      exact ⟨rfl, rfl⟩
    | _ => exact absurd rfl notBackslash
  | letter stands _ ih =>
    cases h' with
    | plain _ notBackslash => exact absurd rfl notBackslash
    | letter stands' h' =>
      obtain ⟨rfl, rfl⟩ := ih h'
      obtain rfl := Option.some.inj (stands.symm.trans stands')
      exact ⟨rfl, rfl⟩
    | _ => cases stands
  | unit digits notHigh _ _ ih =>
    cases h' with
    | plain _ notBackslash => exact absurd rfl notBackslash
    | letter stands => cases stands
    | unit digits' _ _ h' =>
      obtain ⟨rfl, rfl⟩ := Prod.mk.inj (Option.some.inj (digits.symm.trans digits'))
      obtain ⟨rfl, rfl⟩ := ih h'
      exact ⟨rfl, rfl⟩
    | pair first _ high =>
      obtain ⟨rfl, -⟩ := Prod.mk.inj (Option.some.inj (digits.symm.trans first))
      rw [notHigh] at high
      cases high
  | pair first second high _ _ ih =>
    cases h' with
    | plain _ notBackslash => exact absurd rfl notBackslash
    | letter stands => cases stands
    | unit digits notHigh =>
      obtain ⟨rfl, -⟩ := Prod.mk.inj (Option.some.inj (first.symm.trans digits))
      rw [high] at notHigh
      cases notHigh
    | pair first' second' _ _ h' =>
      obtain ⟨rfl, same⟩ := Prod.mk.inj (Option.some.inj (first.symm.trans first'))
      obtain rfl := (List.cons.inj (List.cons.inj same).2).2
      obtain ⟨rfl, rfl⟩ := Prod.mk.inj (Option.some.inj (second.symm.trans second'))
      obtain ⟨rfl, rfl⟩ := ih h'
      exact ⟨rfl, rfl⟩

/-- No document starts with a closing bracket. -/
theorem not_readsValue_bracket {cs rest : List Char} {j : Json} :
    ¬ ReadsValue (']' :: cs) j rest := by
  intro h
  cases h with
  | number digit => cases digit

theorem ReadsItems.skip_ne {cs cs' rest : List Char} {items : List Json}
    (h : ReadsItems cs items rest) : skip cs ≠ ']' :: cs' := by
  intro close
  cases h with
  | last h => exact not_readsValue_bracket (close ▸ h)
  | more h => exact not_readsValue_bracket (close ▸ h)

/-- No member starts with a closing brace. -/
theorem not_readsMember_brace {cs rest : List Char} {m : String × Json} :
    ¬ ReadsMember ('\x7d' :: cs) m rest := nofun

theorem ReadsMembers.skip_ne {cs cs' rest : List Char} {members : List (String × Json)}
    (h : ReadsMembers cs members rest) : skip cs ≠ '\x7d' :: cs' := by
  intro close
  cases h with
  | last h => exact not_readsMember_brace (close ▸ h)
  | more h => exact not_readsMember_brace (close ▸ h)

mutual

/-- There is one way at most to read a document. -/
theorem ReadsValue.unique {cs rest rest' : List Char} {j j' : Json} :
    ReadsValue cs j rest → ReadsValue cs j' rest' → j = j' ∧ rest = rest'
  | .null, h' => by
    cases h' with
    | null => exact ⟨rfl, rfl⟩
    | number digit => cases digit
  | .yes, h' => by
    cases h' with
    | yes => exact ⟨rfl, rfl⟩
    | number digit => cases digit
  | .no, h' => by
    cases h' with
    | no => exact ⟨rfl, rfl⟩
    | number digit => cases digit
  | .number digit _, h' => by
    cases h' with
    | number => exact ⟨rfl, rfl⟩
    | _ => cases digit
  | .string h, h' => by
    cases h' with
    | number digit => cases digit
    | string h' =>
      obtain ⟨rfl, rfl⟩ := h.unique h'
      exact ⟨rfl, rfl⟩
  | .emptyList close, h' => by
    cases h' with
    | number digit => cases digit
    | emptyList close' => exact ⟨rfl, (List.cons.inj (close.symm.trans close')).2⟩
    | list h' => exact absurd close h'.skip_ne
  | .list h, h' => by
    cases h' with
    | number digit => cases digit
    | emptyList close => exact absurd close h.skip_ne
    | list h' =>
      obtain ⟨rfl, rfl⟩ := h.unique h'
      exact ⟨rfl, rfl⟩
  | .emptyObject close, h' => by
    cases h' with
    | number digit => cases digit
    | emptyObject close' => exact ⟨rfl, (List.cons.inj (close.symm.trans close')).2⟩
    | object h' => exact absurd close h'.skip_ne
  | .object h, h' => by
    cases h' with
    | number digit => cases digit
    | emptyObject close => exact absurd close h.skip_ne
    | object h' =>
      obtain ⟨rfl, rfl⟩ := h.unique h'
      exact ⟨rfl, rfl⟩

theorem ReadsItems.unique {cs rest rest' : List Char} {items items' : List Json} :
    ReadsItems cs items rest → ReadsItems cs items' rest' → items = items' ∧ rest = rest'
  | .last h close, h' => by
    cases h' with
    | last h' close' =>
      obtain ⟨rfl, rfl⟩ := h.unique h'
      exact ⟨rfl, (List.cons.inj (close.symm.trans close')).2⟩
    | more h' comma =>
      obtain ⟨-, rfl⟩ := h.unique h'
      cases close.symm.trans comma
  | .more h comma later, h' => by
    cases h' with
    | last h' close =>
      obtain ⟨-, rfl⟩ := h.unique h'
      cases comma.symm.trans close
    | more h' comma' later' =>
      obtain ⟨rfl, rfl⟩ := h.unique h'
      obtain rfl := (List.cons.inj (comma.symm.trans comma')).2
      obtain ⟨rfl, rfl⟩ := later.unique later'
      exact ⟨rfl, rfl⟩

theorem ReadsMembers.unique {cs rest rest' : List Char} {members members' : List (String × Json)} :
    ReadsMembers cs members rest → ReadsMembers cs members' rest' →
      members = members' ∧ rest = rest'
  | .last h close, h' => by
    cases h' with
    | last h' close' =>
      obtain ⟨rfl, rfl⟩ := h.unique h'
      exact ⟨rfl, (List.cons.inj (close.symm.trans close')).2⟩
    | more h' comma =>
      obtain ⟨-, rfl⟩ := h.unique h'
      cases close.symm.trans comma
  | .more h comma later, h' => by
    cases h' with
    | last h' close =>
      obtain ⟨-, rfl⟩ := h.unique h'
      cases comma.symm.trans close
    | more h' comma' later' =>
      obtain ⟨rfl, rfl⟩ := h.unique h'
      obtain rfl := (List.cons.inj (comma.symm.trans comma')).2
      obtain ⟨rfl, rfl⟩ := later.unique later'
      exact ⟨rfl, rfl⟩

theorem ReadsMember.unique {cs rest rest' : List Char} {m m' : String × Json} :
    ReadsMember cs m rest → ReadsMember cs m' rest' → m = m' ∧ rest = rest'
  | .mk h colon value, h' => by
    cases h' with
    | mk h' colon' value' =>
      obtain ⟨rfl, rfl⟩ := h.unique h'
      obtain rfl := (List.cons.inj (colon.symm.trans colon')).2
      obtain ⟨rfl, rfl⟩ := value.unique value'
      exact ⟨rfl, rfl⟩

end

/-- **A text stands for one document at most.** -/
theorem IsText.unique {text : String} {j j' : Json} (h : IsText text j) (h' : IsText text j') :
    j = j' := by
  obtain ⟨_, h, -⟩ := h
  obtain ⟨_, h', -⟩ := h'
  exact (h.unique h').1

end PropertyStore.Json
