import PropertyStore.Proofs.Text.Utf16

/-!
# Surrogates with and without a partner

A pair is a high surrogate with a low one right behind it. No unit is both, so two pairs never share
a unit, and whether a surrogate is alone is seen from its two neighbours, wherever the reading of the
text began (`PairAt`, `Lone`).

Both ways of reading agree with that. What is read strictly has these units and no others
(`decode?_eq_some_iff`), and only a lone surrogate keeps units from being those of a text
(`exists_encode_eq_iff`). What is read leniently has the same units but for the lone surrogates, each
of which has become the unit of the replacement character (`mends_decodeLossy`).
-/

namespace PropertyStore.Text.Utf16

variable {u v : UInt16} {us vs : List UInt16} {cs : List Char} {i : Nat}

/-! ### Pairs by place -/

/-- The unit is one half of a pair, or should be. -/
def isSurrogate (u : UInt16) : Bool := isHigh u || isLow u

/-- A pair starts at a place. -/
def PairAt (us : List UInt16) (i : Nat) : Prop :=
  ∃ u v, us[i]? = some u ∧ us[i + 1]? = some v ∧ isHigh u = true ∧ isLow v = true

/-- At a place is a surrogate that is in no pair: none starts there, and none started right before. -/
structure Lone (us : List UInt16) (i : Nat) : Prop where
  surrogate : ∃ u, us[i]? = some u ∧ isSurrogate u = true
  not_first : ¬ PairAt us i
  not_second (j : Nat) (h : i = j + 1) : ¬ PairAt us j

/-- No unit is of both sorts. -/
theorem not_isHigh_of_isLow (low : isLow u = true) : ¬ isHigh u = true := by
  rw [isLow_iff] at low
  rw [isHigh_iff]
  omega

theorem pairAt_cons_zero : PairAt (u :: v :: us) 0 ↔ isHigh u = true ∧ isLow v = true := by
  simp [PairAt]

theorem not_pairAt_singleton : ¬ PairAt [u] 0 := by
  simp [PairAt]

theorem pairAt_cons_succ : PairAt (u :: us) (i + 1) ↔ PairAt us i := by
  simp [PairAt]

/-- A unit in front matters to none behind it, unless it makes a pair with the first of them. -/
theorem lone_cons_succ (unpaired : i = 0 → ¬ PairAt (u :: us) 0) :
    Lone (u :: us) (i + 1) ↔ Lone us i := by
  constructor
  · rintro ⟨surrogate, not_first, not_second⟩
    refine ⟨by simpa using surrogate, mt pairAt_cons_succ.mpr not_first, ?_⟩
    rintro j rfl
    exact mt pairAt_cons_succ.mpr (not_second (j + 1) rfl)
  · rintro ⟨surrogate, not_first, not_second⟩
    refine ⟨by simpa using surrogate, mt pairAt_cons_succ.mp not_first, ?_⟩
    intro j hj
    cases j with
    | zero => exact unpaired (Nat.succ.inj hj)
    | succ j => exact mt pairAt_cons_succ.mp (not_second j (Nat.succ.inj hj))

theorem lone_cons_zero (unpaired : ¬ PairAt (u :: us) 0) :
    Lone (u :: us) 0 ↔ isSurrogate u = true := by
  constructor
  · rintro ⟨⟨w, hw, surrogate⟩, -, -⟩
    cases hw
    exact surrogate
  · intro surrogate
    exact ⟨⟨u, rfl, surrogate⟩, unpaired, nofun⟩

/-- Behind a pair, units are alone if they are so without it. -/
theorem lone_pair_succ (low : isLow v = true) :
    Lone (u :: v :: us) (i + 2) ↔ Lone us i := by
  have second : ¬ PairAt (v :: us) 0 := by
    rintro ⟨a, b, ha, -, high, -⟩
    cases ha
    exact not_isHigh_of_isLow low high
  calc Lone (u :: v :: us) (i + 2)
      ↔ Lone (v :: us) (i + 1) := lone_cons_succ nofun
    _ ↔ Lone us i := lone_cons_succ fun _ => second

/-- Neither half of a pair is alone. -/
theorem not_lone_of_pair (high : isHigh u = true) (low : isLow v = true) (hi : i < 2) :
    ¬ Lone (u :: v :: us) i := by
  have paired : PairAt (u :: v :: us) 0 := pairAt_cons_zero.mpr ⟨high, low⟩
  rintro ⟨-, not_first, not_second⟩
  obtain rfl | rfl : i = 0 ∨ i = 1 := by omega
  · exact not_first paired
  · exact not_second 0 rfl paired

/-! ### The units of what was read -/

theorem encodeChar_single (high : ¬ isHigh u = true) (low : ¬ isLow u = true) :
    encodeChar (single u) = [u] := by
  have small := u.toNat_lt
  rw [encodeChar, toNat_single high low, if_pos small, UInt16.ofNat_toNat]

theorem encodeChar_pair (high : isHigh u = true) (low : isLow v = true) :
    encodeChar (pair u v) = [u, v] := by
  have large := lt_toNat_pair high low
  rw [isHigh_iff] at high
  rw [isLow_iff] at low
  have code : (pair u v).toNat =
      0x10000 + (u.toNat - 0xD800) * 0x400 + (v.toNat - 0xDC00) :=
    toNat_ofNat (by rw [Nat.isValidChar]; omega)
  have upper : 0xD800 + ((pair u v).toNat - 0x10000) / 0x400 = u.toNat := by omega
  have lower : 0xDC00 + ((pair u v).toNat - 0x10000) % 0x400 = v.toNat := by omega
  rw [encodeChar, if_neg (by omega), upper, lower, UInt16.ofNat_toNat, UInt16.ofNat_toNat]

/-- What is read strictly has the units that it was read from. -/
theorem encode_of_decode? (h : decode? us = some cs) : encode cs = us := by
  induction us using decode?.induct generalizing cs with
  | case1 =>
    cases h
    rfl
  | case2 u surrogate =>
    rw [decode?, if_pos surrogate] at h
    cases h
  | case3 u plain =>
    rw [decode?, if_neg plain] at h
    cases h
    rw [Bool.or_eq_true, not_or] at plain
    rw [encode, List.flatMap_singleton]
    exact encodeChar_single plain.1 plain.2
  | case4 u v rest high low ih =>
    rw [decode?, if_pos high, if_pos low] at h
    obtain ⟨ds, hds, rfl⟩ := Option.map_eq_some_iff.mp h
    rw [encode, List.flatMap_cons, encodeChar_pair high low, ← encode, ih hds]
    rfl
  | case5 u v rest high low =>
    rw [decode?, if_pos high, if_neg low] at h
    cases h
  | case6 u v rest high low =>
    rw [decode?, if_neg high, if_pos low] at h
    cases h
  | case7 u v rest high low ih =>
    rw [decode?, if_neg high, if_neg low] at h
    obtain ⟨ds, hds, rfl⟩ := Option.map_eq_some_iff.mp h
    rw [encode, List.flatMap_cons, encodeChar_single high low, ← encode, ih hds]
    rfl

/-- **A text is read strictly from its own units and from no others.** -/
theorem decode?_eq_some_iff : decode? us = some cs ↔ encode cs = us := by
  constructor
  · exact encode_of_decode?
  · rintro rfl
    exact decode?_encode cs

/-! ### Mending -/

/-- The second units are the first, but that each lone surrogate has become the unit of the
replacement character. -/
structure Mends (us vs : List UInt16) : Prop where
  length_eq : vs.length = us.length
  lone (i : Nat) (h : Lone us i) : vs[i]? = some 0xFFFD
  kept (i : Nat) (h : ¬ Lone us i) : vs[i]? = us[i]?

theorem Mends.nil : Mends [] [] where
  length_eq := rfl
  lone i h := by
    obtain ⟨u, hu, -⟩ := h.surrogate
    cases hu
  kept _ _ := rfl

/-- A pair is kept. -/
theorem Mends.pair (h : Mends us vs) (high : isHigh u = true) (low : isLow v = true) :
    Mends (u :: v :: us) (u :: v :: vs) where
  length_eq := by simp [h.length_eq]
  lone i hi := by
    match i with
    | 0 => exact absurd hi (not_lone_of_pair high low (by decide))
    | 1 => exact absurd hi (not_lone_of_pair high low (by decide))
    | i + 2 => exact h.lone i ((lone_pair_succ low).mp hi)
  kept i hi := by
    match i with
    | 0 => rfl
    | 1 => rfl
    | i + 2 => exact h.kept i (mt (lone_pair_succ low).mpr hi)

/-- A unit where no pair starts is kept if it is no surrogate. -/
theorem Mends.cons (h : Mends us vs) (unpaired : ¬ PairAt (u :: us) 0) :
    Mends (u :: us) ((if isSurrogate u then 0xFFFD else u) :: vs) where
  length_eq := by simp [h.length_eq]
  lone i hi := by
    cases i with
    | zero => rw [if_pos ((lone_cons_zero unpaired).mp hi), List.getElem?_cons_zero]
    | succ i => exact h.lone i ((lone_cons_succ fun _ => unpaired).mp hi)
  kept i hi := by
    cases i with
    | zero => rw [if_neg (mt (lone_cons_zero unpaired).mpr hi), List.getElem?_cons_zero,
        List.getElem?_cons_zero]
    | succ i => exact h.kept i (mt (lone_cons_succ fun _ => unpaired).mpr hi)

/-- What is read of a unit where no pair starts, as units again. -/
theorem encodeChar_lenient (u : UInt16) :
    encodeChar (if isHigh u || isLow u then replacement else single u) =
      [if isSurrogate u then 0xFFFD else u] := by
  rw [isSurrogate]
  split
  · rfl
  · next plain =>
    rw [Bool.or_eq_true, not_or] at plain
    exact encodeChar_single plain.1 plain.2

/-- **Reading leniently mends the lone surrogates and keeps the rest.** -/
theorem mends_decodeLossy (us : List UInt16) : Mends us (encode (decodeLossy us)) := by
  induction us using decodeLossy.induct with
  | case1 => exact Mends.nil
  | case2 u =>
    rw [decodeLossy, encode, List.flatMap_singleton, encodeChar_lenient]
    exact Mends.nil.cons not_pairAt_singleton
  | case3 u v rest paired ih =>
    rw [decodeLossy, if_pos paired, encode, List.flatMap_cons, ← encode]
    rw [Bool.and_eq_true] at paired
    rw [encodeChar_pair paired.1 paired.2]
    exact ih.pair paired.1 paired.2
  | case4 u v rest unpaired ih =>
    rw [decodeLossy, if_neg unpaired, encode, List.flatMap_cons, ← encode, encodeChar_lenient]
    rw [Bool.and_eq_true, ← pairAt_cons_zero] at unpaired
    exact ih.cons unpaired

/-- What has no lone surrogate is not changed by mending. -/
theorem Mends.eq_of_forall_not_lone (h : Mends us vs) (none : ∀ i, ¬ Lone us i) : vs = us :=
  List.ext_getElem? fun i => h.kept i (none i)

/-- **Units are those of a text exactly if no surrogate is alone.** -/
theorem exists_encode_eq_iff : (∃ cs, encode cs = us) ↔ ∀ i, ¬ Lone us i := by
  constructor
  · rintro ⟨cs, rfl⟩ i hi
    -- Mending would change the unit, but it gives back the same text.
    have mended := (mends_decodeLossy (encode cs)).lone i hi
    rw [decodeLossy_encode] at mended
    obtain ⟨u, hu, surrogate⟩ := hi.surrogate
    rw [hu, Option.some.injEq] at mended
    rw [mended] at surrogate
    exact absurd surrogate (by decide)
  · intro none
    exact ⟨decodeLossy us, (mends_decodeLossy us).eq_of_forall_not_lone none⟩

end PropertyStore.Text.Utf16
