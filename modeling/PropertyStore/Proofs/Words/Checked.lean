import PropertyStore.Proofs.Cursor

/-!
# Computing in words

A machine counts in words of 64 bits. Here every sum, difference and product of words is checked: it
comes to nothing if it has no room in a word, or would be less than none. So does a range of bytes
that is not there. What a computation in words comes to, if it comes to anything, is a value or a
failure.

A computation in words agrees with one in numbers if it comes to what the numbers come to
(`Checked.Agrees`). Agreement goes from the steps to the whole (`Agrees.bind`), so nothing has no
room anywhere in a computation that agrees.
-/

namespace PropertyStore

/-- A computation in words, which comes to a value, to a failure, or to nothing. -/
abbrev Checked (ε : Type) := ExceptT ε Option

/-! ### Words -/

namespace Word

/-- The sum of two words. -/
def add (a b : UInt64) : Option UInt64 :=
  if a.toNat + b.toNat < UInt64.size then some (a + b) else none

/-- The difference of two words. -/
def sub (a b : UInt64) : Option UInt64 := if b ≤ a then some (a - b) else none

/-- The product of two words. -/
def mul (a b : UInt64) : Option UInt64 :=
  if a.toNat * b.toNat < UInt64.size then some (a * b) else none

/-- How many bytes there are. -/
def count (bytes : Array UInt8) : UInt64 := .ofNat bytes.size

/-- The bytes from one index up to another. -/
def slice (bytes : Array UInt8) (first stop : UInt64) : Option (Array UInt8) :=
  if first ≤ stop ∧ stop.toNat ≤ bytes.size then some (bytes.extract first.toNat stop.toNat)
  else none

variable {a b : UInt64} {bytes : Array UInt8}

/-- Words compare as the numbers that they are do. -/
theorem lt_iff {n k : Nat} (left : a.toNat = n) (right : b.toNat = k) : a < b ↔ n < k := by
  rw [← left, ← right]
  exact UInt64.lt_iff_toNat_lt

theorem eq_zero_iff {n : Nat} (value : a.toNat = n) : a = 0 ↔ n = 0 := by
  rw [← value]
  exact UInt64.toNat_inj.symm

theorem le_of_not_lt (h : ¬a < b) : b.toNat ≤ a.toNat :=
  UInt64.le_iff_toNat_le.mp (UInt64.not_lt.mp h)

theorem toNat_of_add {c : UInt64} (h : add a b = some c) : c.toNat = a.toNat + b.toNat := by
  rw [add] at h
  split at h
  · next room =>
    cases h
    rw [UInt64.toNat_add]
    exact Nat.mod_eq_of_lt room
  · cases h

theorem exists_add (room : a.toNat + b.toNat < UInt64.size) :
    ∃ c, add a b = some c ∧ c.toNat = a.toNat + b.toNat :=
  have sum : add a b = some (a + b) := if_pos room
  ⟨a + b, sum, toNat_of_add sum⟩

theorem le_size_of_slice {first stop : UInt64} {taken : Array UInt8}
    (h : slice bytes first stop = some taken) : stop.toNat ≤ bytes.size := by
  rw [slice] at h
  split at h
  · next range => exact range.2
  · cases h

theorem exists_sub (le : b.toNat ≤ a.toNat) :
    ∃ c, sub a b = some c ∧ c.toNat = a.toNat - b.toNat := by
  have le' : b ≤ a := UInt64.le_iff_toNat_le.mpr le
  exact ⟨a - b, if_pos le', UInt64.toNat_sub_of_le a b le'⟩

theorem sub_eq_none (lt : a.toNat < b.toNat) : sub a b = none :=
  if_neg fun le => Nat.not_le.mpr lt (UInt64.le_iff_toNat_le.mp le)

theorem exists_mul (room : a.toNat * b.toNat < UInt64.size) :
    ∃ c, mul a b = some c ∧ c.toNat = a.toNat * b.toNat :=
  ⟨a * b, if_pos room, by rw [UInt64.toNat_mul]; exact Nat.mod_eq_of_lt room⟩

theorem toNat_min (a b : UInt64) : (min a b).toNat = min a.toNat b.toNat := by
  by_cases le : a ≤ b
  · rw [Nat.min_eq_left (UInt64.le_iff_toNat_le.mp le)]
    exact congrArg UInt64.toNat (if_pos le)
  · rw [Nat.min_eq_right (Nat.le_of_not_le fun h => le (UInt64.le_iff_toNat_le.mpr h))]
    exact congrArg UInt64.toNat (if_neg le)

theorem toNat_count (room : bytes.size < UInt64.size) : (count bytes).toNat = bytes.size :=
  UInt64.toNat_ofNat_of_lt' room

end Word

/-! ### Agreement -/

namespace Checked

variable {ε α β α' β' : Type}

/-- A failure of a read is a failure to read the store. -/
instance : MonadLift (Checked ReadError) (Checked DecodeError) where
  monadLift x := x.adapt .read

/-- What comes to nothing does so in any computation. -/
instance : MonadLiftT Option (Checked ε) where
  monadLift := ExceptT.lift

@[simp] theorem liftM_some (a : α) : (liftM (some a) : Checked ε α) = pure a := rfl

theorem eq_some_of_liftM {o : Option α} {a : α} (h : (liftM o : Checked ε α) = pure a) :
    o = some a := by
  cases o with
  | none => cases h
  | some b =>
    cases h
    rfl

theorem eq_pure_of_liftM {x : Checked ReadError α} {a : α}
    (h : (liftM x : Checked DecodeError α) = pure a) : x = pure a :=
  match x, h with
  | some (.ok _), h => by
    cases h
    rfl

/-- What comes to something without words. -/
def ofExcept (x : Except ε α) : Checked ε α := .mk (some x)

theorem attach_of_eq {x : Checked ε α} {a : α} (h : x = pure a) :
    MonadAttach.attach x = pure ⟨a, h⟩ := by
  subst h
  rfl

/-- What comes to a value goes on from one. -/
theorem exists_of_bind_eq_pure {x : Checked ε α} {f : α → Checked ε β} {b : β}
    (h : x >>= f = pure b) : ∃ a, x = pure a ∧ f a = pure b :=
  match x, h with
  | some (.ok a), h => ⟨a, rfl, h⟩

/-- The computation in words comes to what the one in numbers comes to: the same failure, or a value
that is as `R` says. -/
inductive Agrees (R : α → β → Prop) : Checked ε α → Except ε β → Prop where
  /-- Both come to a value. -/
  | ok {a : α} {b : β} (h : R a b) : Agrees R (pure a) (.ok b)
  /-- Both fail. -/
  | error (e : ε) : Agrees R (throw e) (.error e)

variable {R : α → β → Prop} {S : α' → β' → Prop} {x : Checked ε α} {y : Except ε β}

/-- What numbers come to, words come to. -/
theorem Agrees.exists_of_ok {b : β} (h : Agrees R x (.ok b)) : ∃ a, x = pure a ∧ R a b := by
  cases h with
  | ok h => exact ⟨_, rfl, h⟩

/-- Where numbers fail, words do. -/
theorem Agrees.eq_throw {e : ε} (h : Agrees R x (.error e)) : x = throw e := by
  cases h
  rfl

/-- What goes on from values that agree agrees as a whole. -/
theorem Agrees.bind (h : Agrees R x y) {f : α → Checked ε α'} {g : β → Except ε β'}
    (next : ∀ a b, R a b → Agrees S (f a) (g b)) : Agrees S (x >>= f) (y >>= g) := by
  cases h with
  | ok h => exact next _ _ h
  | error e => exact Agrees.error e

/-- Nothing goes on from a failure. -/
theorem Agrees.failed {e : ε} (h : Agrees R x (.error e)) (f : α → Checked ε α') :
    Agrees S (x >>= f) (.error e) := by
  rw [h.eq_throw]
  exact Agrees.error e

theorem Agrees.map (h : Agrees R x y) {f : α → α'} {g : β → β'}
    (next : ∀ a b, R a b → S (f a) (g b)) : Agrees S (f <$> x) (y.map g) := by
  cases h with
  | ok h => exact Agrees.ok (next _ _ h)
  | error e => exact Agrees.error e

theorem Agrees.mono {R' : α → β → Prop} (h : Agrees R x y) (weaker : ∀ a b, R a b → R' a b) :
    Agrees R' x y := by
  cases h with
  | ok h => exact Agrees.ok (weaker _ _ h)
  | error e => exact Agrees.error e

theorem Agrees.attach (h : Agrees R x y) : Agrees (fun a b => R a.1 b) (MonadAttach.attach x) y := by
  cases h with
  | ok h => exact Agrees.ok h
  | error e => exact Agrees.error e

/-- Reads that agree do so as parts of reading a store. -/
theorem Agrees.lift {x : Checked ReadError α} {y : Except ReadError β} (h : Agrees R x y) :
    Agrees R (liftM x : Checked DecodeError α) (liftM y : Except DecodeError β) := by
  cases h with
  | ok h => exact Agrees.ok h
  | error e => exact Agrees.error _

/-- Where the values are the same, the computation in words comes to what the numbers come to. -/
theorem Agrees.run_eq {x : Checked ε α} {y : Except ε α} (h : Agrees Eq x y) : x.run = some y := by
  cases h with
  | ok h => rw [h]; rfl
  | error e => rfl

end Checked

end PropertyStore
