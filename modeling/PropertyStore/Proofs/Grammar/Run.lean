import PropertyStore.LittleEndian

/-!
# Runs of parts

A store is one set after another and then an end; a set is one record after another and
then a tail. `Run P` is the common shape: bytes that fall into parts, each of which `P`
relates to what it stands for.

What follows the last part may depend on whether there was a part at all (a store that has
had a set may end in a fragment), so the law that any bytes are a run as far as one goes,
`Run.cover`, keeps a mark for that.
-/

namespace PropertyStore

open LittleEndian

/-! ### Bytes that are long enough, or not -/

/-- Bytes either fall short of a length, or have a first part of that length. -/
theorem short_or_split (n : Nat) (bs : List UInt8) :
    bs.length < n ∨ ∃ front rest, front.length = n ∧ bs = front ++ rest := by
  by_cases h : bs.length < n
  · exact Or.inl h
  · refine Or.inr ⟨bs.take n, bs.drop n, ?_, (List.take_append_drop n bs).symm⟩
    rw [List.length_take, Nat.min_eq_left (Nat.le_of_not_lt h)]

theorem short_or_word16 (bs : List UInt8) : bs.length < 2 ∨ ∃ w rest, bs = word16 w ++ rest := by
  obtain h | ⟨front, rest, hfront, rfl⟩ := short_or_split 2 bs
  · exact Or.inl h
  · exact Or.inr ⟨_, rest, by rw [word16_ofNat_toNat hfront]⟩

theorem short_or_word32 (bs : List UInt8) : bs.length < 4 ∨ ∃ w rest, bs = word32 w ++ rest := by
  obtain h | ⟨front, rest, hfront, rfl⟩ := short_or_split 4 bs
  · exact Or.inl h
  · exact Or.inr ⟨_, rest, by rw [word32_ofNat_toNat hfront]⟩

/-! ### Runs -/

/-- The bytes fall into parts, one for each value of the list, and `P` relates part and value. -/
inductive Run {α : Type} (P : List UInt8 → α → Prop) : List UInt8 → List α → Prop where
  /-- No parts. -/
  | nil : Run P [] []
  /-- A part, then the others. -/
  | cons {bs rest : List UInt8} {x : α} {xs : List α} : P bs x → Run P rest xs →
    Run P (bs ++ rest) (x :: xs)

variable {α : Type} {P : List UInt8 → α → Prop}

/-- A run falls into the run of its first parts and that of the others. -/
theorem Run.split {bs : List UInt8} {xs : List α} (run : Run P bs xs) (i : Nat) :
    ∃ front back, bs = front ++ back ∧ Run P front (xs.take i) ∧ Run P back (xs.drop i) := by
  induction run generalizing i with
  | nil =>
    rw [List.take_nil, List.drop_nil]
    exact ⟨[], [], rfl, Run.nil, Run.nil⟩
  | @cons part more x xs hx run ih =>
    cases i with
    | zero => exact ⟨[], part ++ more, rfl, Run.nil, Run.cons hx run⟩
    | succ i =>
      obtain ⟨front, back, rfl, hfront, hback⟩ := ih i
      exact ⟨part ++ front, back, (List.append_assoc ..).symm, Run.cons hx hfront, hback⟩

/-- The bytes of a run are as long as its parts together. -/
theorem Run.length_eq {total : List α → Nat} (nil : total [] = 0)
    (cons : ∀ bs x xs, P bs x → total (x :: xs) = bs.length + total xs) {bs : List UInt8}
    {xs : List α} (run : Run P bs xs) : bs.length = total xs := by
  induction run with
  | nil => exact nil.symm
  | cons hx _ ih => rw [List.length_append, cons _ _ _ hx, ih]

/-- What holds of the value of a part holds of all values of a run. -/
theorem Run.forall_mem {Q : α → Prop} (h : ∀ bs x, P bs x → Q x) {bs : List UInt8} {xs : List α}
    (run : Run P bs xs) : ∀ x ∈ xs, Q x := by
  induction run with
  | nil => exact fun x hx => absurd hx List.not_mem_nil
  | cons hx _ ih => exact List.forall_mem_cons.mpr ⟨h _ _ hx, ih⟩

/-- If each part whose value is good is a part of another kind too, the run is one of the other
kind, or it is one up to the first value that is not good. -/
theorem Run.all_or_first {β : Type} {P' : List UInt8 → β → Prop} {good : α → Prop} {f : α → β}
    (keep : ∀ bs x, P bs x → good x → P' bs (f x)) {bs : List UInt8} {xs : List α}
    (run : Run P bs xs) :
    (∀ x ∈ xs, good x) ∧ Run P' bs (xs.map f) ∨
      ∃ front part back before x after, bs = front ++ (part ++ back) ∧
        xs = before ++ x :: after ∧ (∀ y ∈ before, good y) ∧ Run P' front (before.map f) ∧
        P part x ∧ ¬ good x := by
  induction run with
  | nil => exact Or.inl ⟨fun x hx => absurd hx List.not_mem_nil, Run.nil⟩
  | @cons part more x xs hx _ ih =>
    by_cases hgood : good x
    · obtain ⟨all, kept⟩ |
        ⟨front, bad, back, before, y, after, rfl, rfl, hbefore, kept, hy, hbad⟩ := ih
      · exact Or.inl ⟨List.forall_mem_cons.mpr ⟨hgood, all⟩, Run.cons (keep _ _ hx hgood) kept⟩
      · refine Or.inr ⟨part ++ front, bad, back, x :: before, y, after,
          (List.append_assoc ..).symm, rfl, List.forall_mem_cons.mpr ⟨hgood, hbefore⟩, ?_, hy, hbad⟩
        exact Run.cons (keep _ _ hx hgood) kept
    · exact Or.inr ⟨[], part, more, [], x, xs, rfl, rfl,
        fun y hy => absurd hy List.not_mem_nil, Run.nil, hx, hgood⟩

/-- Any bytes are a run as far as one goes, if wherever there is no part something else is
known of what is left: `Q` of the mark that no part came before, the offset, and the rest. -/
theorem Run.cover {Q : Bool → Nat → List UInt8 → Prop} (pos : ∀ bs x, P bs x → bs ≠ [])
    (next : ∀ first o bs, Q first o bs ∨ ∃ front rest x, bs = front ++ rest ∧ P front x)
    (first : Bool) (o : Nat) (bs : List UInt8) :
    ∃ front rest xs, bs = front ++ rest ∧ Run P front xs ∧
      Q (first && xs.isEmpty) (o + front.length) rest := by
  induction hn : bs.length using Nat.strongRecOn generalizing first o bs with
  | ind n ih =>
    obtain h | ⟨part, more, x, rfl, hx⟩ := next first o bs
    · exact ⟨[], bs, [], rfl, Run.nil, by simpa using h⟩
    · have shorter : more.length < n := by
        have := List.length_pos_iff.mpr (pos part x hx)
        rw [List.length_append] at hn
        omega
      obtain ⟨front, rest, xs, rfl, hrun, hq⟩ :=
        ih more.length shorter false (o + part.length) more rfl
      refine ⟨part ++ front, rest, x :: xs, (List.append_assoc ..).symm, Run.cons hx hrun, ?_⟩
      rw [List.length_append, ← Nat.add_assoc]
      simpa using hq

end PropertyStore
