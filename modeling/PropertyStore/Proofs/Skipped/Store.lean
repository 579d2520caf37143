import PropertyStore.Proofs.Decode.Store
import PropertyStore.Proofs.Skipped.PropertySet

/-!
# The bytes of a store that do not matter

The places of a store that a reader passes over are those of its sets, as far as they can be read,
those of the set that cannot be read if it is complete and signed, the bytes after the zero that
ends the store, and a fragment after the last set (`StoreSkips`). Two stores that differ at such
places only are read with the same outcome, store or failure (`decode_eq_of_differ_skipped`): so
nothing can be hidden there from one reader and shown to another.
-/

namespace PropertyStore

open LittleEndian

variable {options : DecodeOptions} {start : Nat}

/-! ### Stores -/

/-- A place in the bytes of a store is passed over if it is so in a set that is complete and comes
after complete sets that can be read, or if it comes after the zero that ends the store, or is in a
fragment after the last set. The mark says that no set came before. -/
inductive StoreSkips (options : DecodeOptions) : Bool → List UInt8 → Nat → Prop where
  /-- The place is in the first set, whether or not that can be read to its end. -/
  | set {window : List UInt8} {p : Nat} (first : Bool) (skips : SetSkips options window p)
    (rest : List UInt8) : StoreSkips options first (window ++ rest) p
  /-- The place is further on. -/
  | later {part rest : List UInt8} {s : PropertySet} {p : Nat} (first : Bool)
    (isSet : IsSet options part s) (skips : StoreSkips options false rest p) :
    StoreSkips options first (part ++ rest) (part.length + p)
  /-- The store has ended. -/
  | terminated {p : Nat} (first : Bool) (four : 4 ≤ p) (rest : List UInt8) :
    StoreSkips options first (word32 0 ++ rest) p
  /-- There is too little for a size. -/
  | fragment {bs : List UInt8} (less : bs.length < 4) (p : Nat) : StoreSkips options false bs p

/-- Where a set comes first, a place is passed over in it or in what follows. -/
theorem StoreSkips.of_set {first : Bool} {part rest : List UInt8} {s : PropertySet} {p : Nat}
    (isSet : IsSet options part s) (h : StoreSkips options first (part ++ rest) p) :
    p < part.length ∧ SetSkips options part p ∨
      ∃ q, p = part.length + q ∧ StoreSkips options false rest q := by
  generalize hbs : part ++ rest = bs at h
  cases h with
  | set first skips rest' =>
    obtain ⟨rfl, rfl⟩ := isSet.sized.append_inj skips.sized hbs
    exact Or.inl ⟨skips.lt_length, skips⟩
  | later first isSet' skips =>
    obtain ⟨rfl, rfl⟩ := isSet.sized.append_inj isSet'.sized hbs
    exact Or.inr ⟨_, rfl, skips⟩
  | terminated => exact absurd hbs isSet.sized.pos
  | fragment less =>
    have header := isSet.header_le
    rw [← hbs, List.length_append] at less
    simp only [PropertySet.headerSize] at header
    omega

/-- The zero that ends a store is not passed over. -/
theorem StoreSkips.four_le {first : Bool} {rest : List UInt8} {p : Nat}
    (h : StoreSkips options first (word32 0 ++ rest) p) : 4 ≤ p := by
  generalize hbs : word32 0 ++ rest = bs at h
  cases h with
  | set _ skips => exact absurd hbs.symm skips.sized.pos
  | later _ isSet => exact absurd hbs.symm isSet.sized.pos
  | terminated _ four => exact four
  | fragment less =>
    rw [← hbs, List.length_append, length_word32] at less
    omega

/-- After the last set only what comes after the end is passed over. -/
theorem IsEnd.exchange {first : Bool} {bs bs' : List UInt8} (h : IsEnd first bs)
    (same : SameBut (StoreSkips options first bs) bs bs') : IsEnd first bs' := by
  cases h with
  | none first =>
    rw [List.length_eq_zero_iff.mp same.length_eq]
    exact IsEnd.none first
  | terminator first rest =>
    obtain ⟨rest', rfl, -⟩ := same.append_left fun p hp skips =>
      absurd hp (Nat.not_lt.mpr skips.four_le)
    exact IsEnd.terminator first rest'
  | fragment pos less =>
    have length_eq := same.length_eq
    refine IsEnd.fragment ?_ (length_eq ▸ less)
    rintro rfl
    exact pos (List.length_eq_zero_iff.mp length_eq.symm)

theorem IsSet.not_setDefect {part rest : List UInt8} {s : PropertySet} {e : DecodeError}
    (isSet : IsSet options part s) : ¬ SetDefect options start (part ++ rest) e := by
  intro defect
  have h := Cursor.At.ofBytes (part ++ rest).toArray start
  obtain ⟨d, read, -⟩ := PropertySet.decode_of_isSet isSet h
  rw [PropertySet.decode_of_setDefect defect h] at read
  cases read

/-- Where no set can be read, a place is passed over only in a set that is complete and signed. -/
theorem StoreSkips.of_storeDefect {first : Bool} {bs : List UInt8} {e : DecodeError} {p : Nat}
    (defect : StoreDefect options first start bs e) (h : StoreSkips options first bs p) :
    FirstSetSkips options bs p := by
  cases h with
  | set first skips rest => exact ⟨_, rest, rfl, skips⟩
  | @later part rest s q first isSet skips =>
    obtain ⟨-, body, hpart⟩ := isSet.starts
    have atSize : part ++ rest = word32 s.size ++ (body ++ rest) := by
      rw [hpart, List.append_assoc]
    rw [atSize] at defect
    exact absurd (atSize ▸ defect.of_size.2) isSet.not_setDefect
  | terminated first four rest => exact absurd rfl defect.of_size.1
  | fragment less =>
    cases defect with
    | set pos defect =>
      rw [List.length_append, length_word32] at less
      omega

/-- What is wrong where a set should be is as wrong where nothing but skipped places differs. -/
theorem StoreDefect.exchange {first : Bool} {bs bs' : List UInt8} {e : DecodeError}
    (h : StoreDefect options first start bs e)
    (same : SameBut (StoreSkips options first bs) bs bs') :
    StoreDefect options first start bs' e := by
  have inSet := same.mono fun p _ skips => skips.of_storeDefect h
  cases h with
  | fragment pos less =>
    rw [inSet.eq fun p _ skips => ?_]
    · exact StoreDefect.fragment pos less
    · have header := skips.header_le
      simp only [PropertySet.headerSize] at header
      omega
  | set pos defect =>
    obtain ⟨rest', rfl, defect'⟩ := defect.exchange inSet
    exact StoreDefect.set pos defect'

namespace Store

variable {input input' : Array UInt8}

/-- Stores that are the same but at skipped places are read with the same outcome. -/
theorem decode_sameBut
    (same : SameBut (StoreSkips options true input.toList) input.toList input'.toList) :
    decode options input' = decode options input := by
  have size_eq : input'.size = input.size := same.length_eq
  obtain ⟨front, rest, sets, hinput, run, outcome⟩ :=
    sets_then_end_or_defect options input.toList
  rw [← hinput] at same
  obtain ⟨front', rest', hinput', hlen, run', hrest⟩ :=
    run.sameBut (P := IsSet options) (StoreSkips options) (fun part _ => SetSkips options part)
      (fun _ _ _ _ _ => StoreSkips.of_set) (fun _ _ _ => IsSet.exchange) true same
  rw [Bool.true_and] at hrest
  obtain isEnd | ⟨e, defect⟩ := outcome
  · rw [decode_of_isEnd run isEnd hinput, decode_of_isEnd run' (isEnd.exchange hrest) hinput'.symm,
      size_eq]
  · have defect' := defect.exchange hrest
    rw [← hlen] at defect'
    rw [decode_of_storeDefect run defect hinput, decode_of_storeDefect run' defect' hinput'.symm]

/-- **What is passed over does not matter**: bytes that are as many, and differ only at places that
are passed over in reading the first, are read with the same outcome, be it a store or a
failure. -/
theorem decode_eq_of_differ_skipped (options : DecodeOptions) {input input' : Array UInt8}
    (size_eq : input'.size = input.size)
    (differ : ∀ p, input'[p]? ≠ input[p]? → StoreSkips options true input.toList p) :
    decode options input' = decode options input := by
  refine decode_sameBut ⟨size_eq, fun p kept => ?_⟩
  rw [Array.getElem?_toList, Array.getElem?_toList]
  exact Decidable.byContradiction fun other => kept (differ p other)

/-- The places of a worn store that are passed over: in the record, after the zero that ends the
records, and after the set. -/
theorem worn_skips {p : Nat} (h : p ∈ [32, 37, 38, 39, 42, 43, 50] ∨ p = 55 ∨ 56 ≤ p) :
    StoreSkips {} true (worn 7).toList p := by
  have small : 2 ≤ ({} : DecodeOptions).maxValueSize := by decide
  have isRecord := isRecord_worn small 7
  have inChain : ∀ {q}, ChainSkips .named {} (Record.wornBytes 7 ++ (word32 0 ++ [7])) q →
      StoreSkips {} true (worn 7).toList (24 + q) := by
    intro q skips
    have inSet : SetSkips {} (PropertySet.wornBytes 7) (24 + q) :=
      SetSkips.mk (IsLayout.named rfl) rfl skips
    exact StoreSkips.set true inSet [7, 7]
  obtain inRecord | rfl | behind := h
  · have places : ∀ p ∈ [32, 37, 38, 39, 42, 43, 50], ∃ q < (Record.wornBytes 7).length,
        p = 24 + q ∧ (Record.worn .windows1252).Skips .named (Record.wornBytes 7) q := by
      decide
    obtain ⟨q, inside, rfl, skips⟩ := places p inRecord
    exact inChain (ChainSkips.record isRecord inside skips _)
  · exact inChain (ChainSkips.later isRecord (ChainSkips.trailing (Nat.le_refl 4) (by decide)))
  · obtain ⟨q, rfl⟩ := Nat.exists_eq_add_of_le behind
    exact StoreSkips.later true (isSet_worn small 7) (StoreSkips.fragment (by decide) q)

/-- Worn stores are as long as each other, differ at such places only, and are read the same. -/
theorem decode_worn_differ :
    (worn 8).size = (worn 7).size ∧
      (∀ p, (worn 8)[p]? ≠ (worn 7)[p]? → StoreSkips {} true (worn 7).toList p) ∧
      decode {} (worn 8) = decode {} (worn 7) := by
  have size_eq : (worn 8).size = (worn 7).size := by decide
  have places : ∀ p < 56, (worn 8)[p]? ≠ (worn 7)[p]? →
      p ∈ [32, 37, 38, 39, 42, 43, 50] ∨ p = 55 ∨ 56 ≤ p := by
    decide
  have differ : ∀ p, (worn 8)[p]? ≠ (worn 7)[p]? → StoreSkips {} true (worn 7).toList p := by
    intro p other
    obtain before | behind := Nat.lt_or_ge p 56
    · exact worn_skips (places p before other)
    · exact worn_skips (Or.inr (Or.inr behind))
  exact ⟨size_eq, differ, decode_eq_of_differ_skipped {} size_eq differ⟩

end Store

end PropertyStore
