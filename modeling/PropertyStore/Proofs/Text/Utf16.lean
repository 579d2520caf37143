import PropertyStore.Text.Utf16

/-!
# Text in units of two bytes, written and read

Reading undoes writing: bytes give back the units that they were made of (`units_bytes`), and
the units of a text give back the text (`decodeLossy_encode`, `decode?_encode`). A character never
is a surrogate, so the units of a text are characters of one unit and whole pairs (`unit_or_pair`),
and nothing has to be replaced or refused. Only the character zero has the unit zero, so what comes
before the first zero unit is what comes before the first zero character (`beforeZero_encode`), and
what is read from those units has no such character (`ne_zero_of_mem_decodeLossy`).
-/

namespace PropertyStore.Text.Utf16

/-! ### Units and bytes -/

theorem length_bytes (us : List UInt16) : (bytes us).length = us.length * 2 := by
  induction us with
  | nil => rfl
  | cons u us ih =>
    rw [bytes, List.flatMap_cons, List.length_append, LittleEndian.length_bytes, ← bytes, ih,
      List.length_cons]
    omega

theorem units_bytes (us : List UInt16) : units (bytes us) = us := by
  induction us with
  | nil => rfl
  | cons u us ih =>
    have hu := u.toNat_lt
    have word : (UInt8.ofNat u.toNat).toNat + 256 * (UInt8.ofNat (u.toNat / 256)).toNat =
        u.toNat := by
      rw [UInt8.toNat_ofNat', UInt8.toNat_ofNat']
      omega
    have split : bytes (u :: us) =
        UInt8.ofNat u.toNat :: UInt8.ofNat (u.toNat / 256) :: bytes us := rfl
    rw [split, units, ih, word, UInt16.ofNat_toNat]

theorem units_of_short {bs : List UInt8} (short : bs.length < 2) : units bs = [] := by
  match bs with
  | [] => rfl
  | [_] => rfl
  | _ :: _ :: rest => exact absurd short (Nat.not_lt.mpr (Nat.le_add_left 2 rest.length))

/-! ### Surrogates -/

theorem isHigh_iff (u : UInt16) : isHigh u = true ↔ 0xD800 ≤ u.toNat ∧ u.toNat < 0xDC00 := by
  simp [isHigh, UInt16.le_iff_toNat_le, UInt16.lt_iff_toNat_lt]

theorem isLow_iff (u : UInt16) : isLow u = true ↔ 0xDC00 ≤ u.toNat ∧ u.toNat < 0xE000 := by
  simp [isLow, UInt16.le_iff_toNat_le, UInt16.lt_iff_toNat_lt]

/-- No character is a surrogate, and all are below `U+110000`. -/
theorem toNat_char (c : Char) : c.toNat < 0xD800 ∨ 0xE000 ≤ c.toNat ∧ c.toNat < 0x110000 := by
  obtain h | ⟨h, h'⟩ := c.valid
  · exact Or.inl h
  · exact Or.inr ⟨h, h'⟩

/-- The upper ten of twenty bits fit into a surrogate. -/
theorem toNat_upper {o : Nat} (ho : o < 0x100000) :
    (UInt16.ofNat (0xD800 + o / 0x400)).toNat = 0xD800 + o / 0x400 :=
  UInt16.toNat_ofNat_of_lt' (by simp only [UInt16.size]; omega)

/-- The lower ten bits do too. -/
theorem toNat_lower (o : Nat) :
    (UInt16.ofNat (0xDC00 + o % 0x400)).toNat = 0xDC00 + o % 0x400 :=
  UInt16.toNat_ofNat_of_lt' (by simp only [UInt16.size]; omega)

/-! ### Reading a unit, and reading a pair -/

theorem decodeLossy_single {u : UInt16} (high : ¬ isHigh u = true) (low : ¬ isLow u = true)
    (us : List UInt16) : decodeLossy (u :: us) = single u :: decodeLossy us := by
  cases us <;> simp [decodeLossy, high, low]

theorem decodeLossy_pair {u v : UInt16} (high : isHigh u = true) (low : isLow v = true)
    (us : List UInt16) : decodeLossy (u :: v :: us) = pair u v :: decodeLossy us := by
  simp [decodeLossy, high, low]

/-- A character is a unit that is no surrogate, or a pair. -/
theorem unit_or_pair (c : Char) :
    (∃ u, encodeChar c = [u] ∧ ¬ isHigh u = true ∧ ¬ isLow u = true ∧ single u = c) ∨
      ∃ u v, encodeChar c = [u, v] ∧ isHigh u = true ∧ isLow v = true ∧ pair u v = c := by
  have valid := toNat_char c
  rw [encodeChar]
  split
  · next small =>
    have hu : (UInt16.ofNat c.toNat).toNat = c.toNat := UInt16.toNat_ofNat_of_lt' small
    refine Or.inl ⟨_, rfl, ?_, ?_, ?_⟩
    · rw [isHigh_iff, hu]
      omega
    · rw [isLow_iff, hu]
      omega
    · rw [single, hu, Char.ofNat_toNat]
  · next large =>
    -- Twenty bits are left of the character, ten of them for each surrogate.
    obtain ⟨o, ho, hc⟩ : ∃ o, o < 0x100000 ∧ c.toNat = 0x10000 + o :=
      ⟨c.toNat - 0x10000, by omega, by omega⟩
    rw [hc, Nat.add_sub_cancel_left]
    refine Or.inr ⟨_, _, rfl, ?_, ?_, ?_⟩
    · rw [isHigh_iff, toNat_upper ho]
      omega
    · rw [isLow_iff, toNat_lower]
      omega
    · have code : 0x10000 + (0xD800 + o / 0x400 - 0xD800) * 0x400 +
          (0xDC00 + o % 0x400 - 0xDC00) = c.toNat := by omega
      rw [pair, toNat_upper ho, toNat_lower, code, Char.ofNat_toNat]

/-- A character is read back from its units. -/
theorem decodeLossy_encodeChar (c : Char) (us : List UInt16) :
    decodeLossy (encodeChar c ++ us) = c :: decodeLossy us := by
  obtain ⟨u, hc, high, low, rfl⟩ | ⟨u, v, hc, high, low, rfl⟩ := unit_or_pair c
  · rw [hc, List.singleton_append, decodeLossy_single high low]
  · rw [hc, List.cons_append, List.singleton_append, decodeLossy_pair high low]

/-- **A text is read back from its units.** -/
theorem decodeLossy_encode (cs : List Char) : decodeLossy (encode cs) = cs := by
  induction cs with
  | nil => rfl
  | cons c cs ih => rw [encode, List.flatMap_cons, decodeLossy_encodeChar, ← encode, ih]

/-- A character is read back from its units, and there is nothing to refuse. -/
theorem decode?_encodeChar (c : Char) (us : List UInt16) :
    decode? (encodeChar c ++ us) = (decode? us).map (c :: ·) := by
  obtain ⟨u, hc, high, low, rfl⟩ | ⟨u, v, hc, high, low, rfl⟩ := unit_or_pair c
  · rw [hc, List.singleton_append]
    cases us <;> simp [decode?, high, low]
  · rw [hc, List.cons_append, List.singleton_append, decode?, if_pos high, if_pos low]

/-- The units of a text are not refused. -/
theorem decode?_encode (cs : List Char) : decode? (encode cs) = some cs := by
  induction cs with
  | nil => rfl
  | cons c cs ih =>
    rw [encode, List.flatMap_cons, decode?_encodeChar, ← encode, ih, Option.map_some]

/-! ### Up to the first zero -/

/-- Only the character zero has a unit that is zero. -/
theorem ne_zero_of_mem_encodeChar {c : Char} (hc : c ≠ '\x00') {u : UInt16}
    (hu : u ∈ encodeChar c) : u ≠ 0 := by
  have valid := toNat_char c
  rintro rfl
  rw [encodeChar] at hu
  split at hu
  · next small =>
    have zero := congrArg UInt16.toNat (List.mem_singleton.mp hu)
    rw [UInt16.toNat_ofNat_of_lt' small] at zero
    exact hc (Char.toNat_inj.mp zero.symm)
  · next large =>
    obtain zero | zero : (0 : UInt16) = UInt16.ofNat (0xD800 + (c.toNat - 0x10000) / 0x400) ∨
        (0 : UInt16) = UInt16.ofNat (0xDC00 + (c.toNat - 0x10000) % 0x400) := by simpa using hu
    · have := congrArg UInt16.toNat zero
      rw [toNat_upper (by omega), UInt16.toNat_zero] at this
      omega
    · have := congrArg UInt16.toNat zero
      rw [toNat_lower, UInt16.toNat_zero] at this
      omega

/-- What comes before the first zero unit is the text before its first zero character. -/
theorem beforeZero_encode (cs : List Char) (us : List UInt16) :
    beforeZero (encode cs ++ 0 :: us) = encode (cs.takeWhile (· != '\x00')) := by
  induction cs with
  | nil => rfl
  | cons c cs ih =>
    by_cases hc : c = '\x00'
    · subst hc
      rfl
    · have kept : (c != '\x00') = true := bne_iff_ne.mpr hc
      have some : ∀ u ∈ encodeChar c, (u != 0) = true := fun u hu =>
        bne_iff_ne.mpr (ne_zero_of_mem_encodeChar hc hu)
      rw [List.takeWhile_cons, if_pos kept, encode, List.flatMap_cons,
        List.append_assoc, beforeZero, List.takeWhile_append_of_pos some, ← encode, ← beforeZero,
        ih]
      rfl

/-! ### No zero is read where there is none -/

theorem toNat_ofNat {n : Nat} (valid : n.isValidChar) : (Char.ofNat n).toNat = n := by
  rw [Char.ofNat, dif_pos valid]
  rfl

theorem toNat_single {u : UInt16} (high : ¬ isHigh u = true) (low : ¬ isLow u = true) :
    (single u).toNat = u.toNat := by
  have range := u.toNat_lt
  rw [isHigh_iff] at high
  rw [isLow_iff] at low
  exact toNat_ofNat (by rw [Nat.isValidChar]; omega)

/-- The character of a pair is beyond those of one unit. -/
theorem lt_toNat_pair {u v : UInt16} (high : isHigh u = true) (low : isLow v = true) :
    0xFFFF < (pair u v).toNat := by
  rw [isHigh_iff] at high
  rw [isLow_iff] at low
  rw [pair, toNat_ofNat (by rw [Nat.isValidChar]; omega)]
  omega

/-- A unit by itself is read as the character zero only if it is zero. -/
theorem lone_ne_zero {u : UInt16} (hu : u ≠ 0) :
    (if isHigh u || isLow u then replacement else single u) ≠ '\x00' := by
  split
  · decide
  · next plain =>
    rw [Bool.or_eq_true, not_or] at plain
    intro zero
    have hnat := toNat_single plain.1 plain.2
    rw [zero] at hnat
    exact hu (UInt16.toNat_inj.mp hnat.symm)

/-- Units none of which is zero are read as a text without the character zero. -/
theorem ne_zero_of_mem_decodeLossy {us : List UInt16} (some : ∀ u ∈ us, u ≠ 0) {c : Char}
    (hc : c ∈ decodeLossy us) : c ≠ '\x00' := by
  induction us using decodeLossy.induct with
  | case1 => cases hc
  | case2 u =>
    rw [decodeLossy, List.mem_singleton] at hc
    exact hc ▸ lone_ne_zero (some u (List.mem_singleton.mpr rfl))
  | case3 u v rest paired ih =>
    rw [decodeLossy, if_pos paired, List.mem_cons] at hc
    obtain here | hc := hc
    · rw [Bool.and_eq_true] at paired
      have large := lt_toNat_pair paired.1 paired.2
      rw [here]
      intro zero
      rw [zero] at large
      exact Nat.not_lt_zero _ large
    · exact ih (fun w hw => some w (by simp [hw])) hc
  | case4 u v rest unpaired ih =>
    rw [decodeLossy, if_neg unpaired, List.mem_cons] at hc
    obtain here | hc := hc
    · exact here ▸ lone_ne_zero (some u (List.mem_cons_self ..))
    · exact ih (fun w hw => some w (List.mem_cons_of_mem u hw)) hc

end PropertyStore.Text.Utf16
