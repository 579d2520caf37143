/-!
# Codepages

Text in units of one byte means nothing by itself; a codepage says which characters
its bytes are. Two are known: Windows-1252, one character to a byte, and UTF-8.
-/

namespace PropertyStore

/-- A reading of bytes as text. -/
inductive Codepage where
  /-- Western European, one character to a byte. -/
  | windows1252
  /-- UTF-8. -/
  | utf8
  deriving DecidableEq, Repr

namespace Codepage

instance : Inhabited Codepage := ⟨.windows1252⟩

/-- The number of a codepage. -/
def id : Codepage → Nat
  | .windows1252 => 1252
  | .utf8 => 65001

/-- The codepage with a number, if it is known. -/
def ofId? : Nat → Option Codepage
  | 1252 => some .windows1252
  | 65001 => some .utf8
  | _ => none

theorem ofId?_eq_some_iff {n : Nat} {c : Codepage} : ofId? n = some c ↔ n = c.id := by
  constructor
  · intro h
    unfold ofId? at h
    split at h <;> cases h <;> rfl
  · rintro rfl
    cases c <;> rfl

/-- The code points of bytes `0x80` to `0x9F` in Windows-1252, with zero for the five
bytes that are not characters. -/
def windows1252High : List Nat :=
  [0x20AC, 0, 0x201A, 0x0192, 0x201E, 0x2026, 0x2020, 0x2021,
    0x02C6, 0x2030, 0x0160, 0x2039, 0x0152, 0, 0x017D, 0,
    0, 0x2018, 0x2019, 0x201C, 0x201D, 0x2022, 0x2013, 0x2014,
    0x02DC, 0x2122, 0x0161, 0x203A, 0x0153, 0, 0x017E, 0x0178]

/-- The character of a byte in Windows-1252, if it is one. -/
def windows1252Char? (b : UInt8) : Option Char :=
  if 0x80 ≤ b.toNat ∧ b.toNat < 0xA0 then
    match windows1252High[b.toNat - 0x80]? with
    | some 0 | none => none
    | some n => some (Char.ofNat n)
  else
    some (Char.ofNat b.toNat)

/-- The text that bytes are in a codepage, if every one of them has a meaning there. -/
def decode? : Codepage → List UInt8 → Option String
  | .windows1252, bs => (bs.mapM windows1252Char?).map String.ofList
  | .utf8, bs => String.fromUTF8? ⟨bs.toArray⟩

end Codepage

end PropertyStore
