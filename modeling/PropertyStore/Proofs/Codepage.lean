import Mathlib.Data.List.Forall2
import PropertyStore.Proofs.Text.Utf16
import PropertyStore.Proofs.Text.Utf8

/-!
# What codepages lose

Nothing: bytes that are read as a text are known by the text (`decode?_inj`). In Windows-1252 this
rests on its table, which has no character twice and none that another byte stands for by itself
(`windows1252Char?_inj`); five bytes have no character there (`windows1252Char?_eq_none_iff`). In
UTF-8 it rests on the one spelling that each text has (`utf8_eq_some_iff`).
-/

namespace PropertyStore.Codepage

variable {α β : Type} {f : α → Option β} {xs : List α} {ys : List β}

/-! ### One by one -/

/-- What is read one by one is read if each part is, and as these. -/
theorem mapM_eq_some_iff :
    xs.mapM f = some ys ↔ List.Forall₂ (fun x y => f x = some y) xs ys := by
  induction xs generalizing ys with
  | nil => simp [eq_comm]
  | cons x xs ih =>
    rw [List.mapM_cons, List.forall₂_cons_left_iff]
    simp only [Option.bind_eq_bind, Option.bind_eq_some_iff, ih]
    constructor
    · rintro ⟨y, hy, zs, hzs, h⟩
      cases h
      exact ⟨y, zs, hy, hzs, rfl⟩
    · rintro ⟨y, zs, hy, hzs, rfl⟩
      exact ⟨y, hy, zs, hzs, rfl⟩

theorem exists_mapM_eq_some_iff : (∃ ys, xs.mapM f = some ys) ↔ ∀ x ∈ xs, f x ≠ none := by
  induction xs with
  | nil => simp
  | cons x xs ih =>
    rw [List.forall_mem_cons, ← ih, List.mapM_cons]
    simp only [Option.bind_eq_bind, Option.bind_eq_some_iff, Option.ne_none_iff_exists']
    constructor
    · rintro ⟨ys, y, hy, zs, hzs, -⟩
      exact ⟨⟨y, hy⟩, zs, hzs⟩
    · rintro ⟨⟨y, hy⟩, zs, hzs⟩
      exact ⟨y :: zs, y, hy, zs, hzs, rfl⟩

/-! ### Windows-1252 -/

/-- The bytes that are no characters. -/
def windows1252Undefined : List UInt8 := [0x81, 0x8D, 0x8F, 0x90, 0x9D]

theorem windows1252Char?_eq_none_iff {b : UInt8} :
    windows1252Char? b = none ↔ b ∈ windows1252Undefined := by
  have each : ∀ n < 256,
      (windows1252Char? (UInt8.ofNat n)).isNone = decide (UInt8.ofNat n ∈ windows1252Undefined) := by
    decide +kernel
  have here := each b.toNat b.toNat_lt
  rw [UInt8.ofNat_toNat] at here
  rw [← Option.isNone_iff_eq_none, here, decide_eq_true_iff]

/-- The table has characters beyond those of one byte, and none of them is a surrogate. -/
theorem range_of_mem_windows1252High :
    ∀ n ∈ windows1252High, n = 0 ∨ 0xFF < n ∧ n < 0xD800 := by decide

/-- No character is in the table twice. -/
theorem pairwise_windows1252High : windows1252High.Pairwise fun m n => m = n → m = 0 := by decide

theorem windows1252High_inj {i j n : Nat} (hi : windows1252High[i]? = some n)
    (hj : windows1252High[j]? = some n) (pos : n ≠ 0) : i = j := by
  obtain ⟨hi', rfl⟩ := List.getElem?_eq_some_iff.mp hi
  obtain ⟨hj', same⟩ := List.getElem?_eq_some_iff.mp hj
  have once := List.pairwise_iff_getElem.mp pairwise_windows1252High
  rcases Nat.lt_trichotomy i j with lt | eq | gt
  · exact absurd (once i j hi' hj' lt same.symm) pos
  · exact eq
  · exact absurd (same ▸ once j i hj' hi' gt same) pos

/-- The character of a byte has the byte's number, or stands in the table. -/
theorem windows1252Char?_eq_some {b : UInt8} {c : Char} (h : windows1252Char? b = some c) :
    c.toNat = b.toNat ∧ c.toNat ≤ 0xFF ∨
      (0x80 ≤ b.toNat ∧ b.toNat < 0xA0) ∧ windows1252High[b.toNat - 0x80]? = some c.toNat ∧
        0xFF < c.toNat := by
  have hb := b.toNat_lt
  rw [windows1252Char?] at h
  split at h
  · next range =>
    split at h
    · cases h
    · cases h
    · next n some hn =>
      cases h
      have inTable : n ∈ windows1252High := List.mem_of_getElem? hn
      obtain zero | ⟨large, valid⟩ := range_of_mem_windows1252High n inTable
      · exact absurd zero some
      · have code : (Char.ofNat n).toNat = n := Text.Utf16.toNat_ofNat (Or.inl valid)
        rw [code]
        exact Or.inr ⟨range, hn, large⟩
  · cases h
    have code : (Char.ofNat b.toNat).toNat = b.toNat :=
      Text.Utf16.toNat_ofNat (Or.inl (by omega))
    rw [code]
    exact Or.inl ⟨rfl, by omega⟩

/-- A byte is known by its character. -/
theorem windows1252Char?_inj {a b : UInt8} {c : Char} (ha : windows1252Char? a = some c)
    (hb : windows1252Char? b = some c) : a = b := by
  apply UInt8.toNat_inj.mp
  obtain ⟨ha, small⟩ | ⟨rangeA, tableA, large⟩ := windows1252Char?_eq_some ha
  · obtain ⟨hb, -⟩ | ⟨-, -, large⟩ := windows1252Char?_eq_some hb
    · exact ha.symm.trans hb
    · omega
  · obtain ⟨-, small⟩ | ⟨rangeB, tableB, -⟩ := windows1252Char?_eq_some hb
    · omega
    · have same := windows1252High_inj tableA tableB (by omega)
      omega

/-- The character zero is that of the byte zero only. -/
theorem ne_zero_of_windows1252Char? {b : UInt8} {c : Char} (h : windows1252Char? b = some c)
    (hb : b ≠ 0) : c ≠ '\x00' := by
  rintro rfl
  have zero : windows1252Char? 0 = some '\x00' := by decide
  exact hb (windows1252Char?_inj h zero)

variable {as bs : List UInt8} {s : String}

theorem windows1252_eq_some_iff : windows1252.decode? bs = some s ↔
    List.Forall₂ (fun b c => windows1252Char? b = some c) bs s.toList := by
  rw [decode?, Option.map_eq_some_iff, ← mapM_eq_some_iff]
  constructor
  · rintro ⟨cs, h, rfl⟩
    rwa [String.toList_ofList]
  · intro h
    exact ⟨s.toList, h, String.ofList_toList⟩

/-- Bytes are a text unless one of them is no character. -/
theorem exists_windows1252_iff :
    (∃ s, windows1252.decode? bs = some s) ↔ ∀ b ∈ bs, b ∉ windows1252Undefined := by
  simp only [← windows1252Char?_eq_none_iff]
  rw [← exists_mapM_eq_some_iff]
  simp [decode?]

/-- Bytes are read part by part. -/
theorem windows1252_append : windows1252.decode? (as ++ bs) =
    (windows1252.decode? as).bind fun s => (windows1252.decode? bs).map (s ++ ·) := by
  simp only [decode?, List.mapM_append]
  cases as.mapM windows1252Char? <;> cases bs.mapM windows1252Char? <;> simp

/-! ### UTF-8 -/

/-- Bytes are read as a text exactly if they are its bytes. -/
theorem utf8_eq_some_iff : utf8.decode? bs = some s ↔ bs = Text.Utf8.bytes s := by
  constructor
  · intro h
    rw [decode?, String.fromUTF8?] at h
    split at h
    · cases h
      rfl
    · cases h
  · rintro rfl
    exact Text.Utf8.decode?_bytes s

/-! ### Both -/

/-- **Bytes are known by their text.** -/
theorem decode?_inj {codepage : Codepage} (ha : codepage.decode? as = some s)
    (hb : codepage.decode? bs = some s) : as = bs := by
  cases codepage with
  | windows1252 =>
    have unique : Relator.LeftUnique fun b c => windows1252Char? b = some c :=
      fun _ _ _ h h' => windows1252Char?_inj h h'
    exact List.left_unique_forall₂' unique (windows1252_eq_some_iff.mp ha)
      (windows1252_eq_some_iff.mp hb)
  | utf8 => exact (utf8_eq_some_iff.mp ha).trans (utf8_eq_some_iff.mp hb).symm

/-- Bytes none of which is zero are a text without the character zero. -/
theorem ne_zero_of_decode? {codepage : Codepage} (h : codepage.decode? bs = some s)
    (some : ∀ b ∈ bs, b ≠ 0) : ∀ c ∈ s.toList, c ≠ '\x00' := by
  intro c hc
  cases codepage with
  | windows1252 =>
    obtain ⟨⟨n, hn⟩, rfl⟩ := List.mem_iff_get.mp hc
    have each := windows1252_eq_some_iff.mp h
    have hn' : n < bs.length := by rwa [each.length_eq]
    exact ne_zero_of_windows1252Char? (each.get hn' hn) (some _ (List.get_mem bs ⟨n, hn'⟩))
  | utf8 =>
    rw [utf8_eq_some_iff.mp h, Text.Utf8.bytes_eq_flatMap] at some
    rintro rfl
    exact some 0 (List.mem_flatMap.mpr ⟨_, hc, by decide⟩) rfl

end PropertyStore.Codepage
