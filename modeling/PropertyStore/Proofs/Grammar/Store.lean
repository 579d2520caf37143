import PropertyStore.Proofs.Grammar.PropertySet

/-!
# What a store is, and what can be wrong with one

The bytes of a store, as a grammar: a run of sets, and an end. The end is empty, or four
zero bytes and then any bytes, or one to three bytes of any kind; the last only if there was
a set before it.

What can be wrong is what can be wrong where there should be a set, and for a store without
sets also that it is too short for a size. Any bytes are a run of sets as far as one goes,
and what is left is an end or has a defect (`sets_then_end_or_defect`).
-/

namespace PropertyStore

open LittleEndian

/-- The length that the sizes of sets add up to. -/
def PropertySet.totalSize : List PropertySet → Nat
  | [] => 0
  | s :: sets => s.size.toNat + totalSize sets

/-! ### Stores -/

/-- The bytes that end a store; the mark says that no set came before them. -/
inductive IsEnd : Bool → List UInt8 → Prop where
  /-- The bytes end. -/
  | none (first : Bool) : IsEnd first []
  /-- A size of zero ends the store, and any bytes may follow. -/
  | terminator (first : Bool) (rest : List UInt8) : IsEnd first (word32 0 ++ rest)
  /-- After a set a fragment is passed over. -/
  | fragment {bs : List UInt8} (pos : bs ≠ []) (less : bs.length < 4) : IsEnd false bs

/-- The bytes, divided into sets and an end. -/
structure Division (options : DecodeOptions) (bs : List UInt8) where
  /-- The bytes of the sets. -/
  front : List UInt8
  /-- The bytes after them. -/
  rest : List UInt8
  /-- The sets. -/
  sets : List PropertySet
  append_eq : front ++ rest = bs
  run : Run (IsSet options) front sets
  isEnd : IsEnd sets.isEmpty rest

/-- The bytes are the store: it has the sets into which they are divided, and knows how many bytes
there were. -/
def IsStore (options : DecodeOptions) (bs : List UInt8) (store : Store) : Prop :=
  ∃ d : Division options bs, store = ⟨d.sets, bs.length⟩

/-! ### Defects of a store -/

/-- What is wrong at `start`, where there should be a set or the end of the store. -/
inductive StoreDefect (options : DecodeOptions) : Bool → Nat → List UInt8 → DecodeError → Prop where
  /-- There is no set, and too little for a size. -/
  | fragment {start : Nat} {bs : List UInt8} (pos : bs ≠ []) (less : bs.length < 4) :
    StoreDefect options true start bs (.read (.outOfData start 4 bs.length))
  /-- The size is not zero, so there should be a set. -/
  | set {first : Bool} {start : Nat} {size : UInt32} {rest : List UInt8} {e : DecodeError}
    (pos : size ≠ 0) (defect : SetDefect options start (word32 size ++ rest) e) :
    StoreDefect options first start (word32 size ++ rest) e

/-! ### There is nothing else -/

variable {options : DecodeOptions}

/-- Where there is a size, it is not zero, and the set has the defect. -/
theorem StoreDefect.of_size {first : Bool} {start : Nat} {size : UInt32} {rest : List UInt8}
    {e : DecodeError} (defect : StoreDefect options first start (word32 size ++ rest) e) :
    size ≠ 0 ∧ SetDefect options start (word32 size ++ rest) e := by
  generalize hbs : word32 size ++ rest = bs at defect
  cases defect with
  | fragment pos less =>
    rw [← hbs, List.length_append, length_word32] at less
    omega
  | set pos defect =>
    obtain ⟨rfl, -⟩ := word32_inj hbs
    exact ⟨pos, defect⟩

/-- Where there should be a set, there is the end of the store, or a defect, or a set. -/
theorem store_step (options : DecodeOptions) (first : Bool) (start : Nat) (bs : List UInt8) :
    (IsEnd first bs ∨ ∃ e, StoreDefect options first start bs e) ∨
      ∃ front rest s, bs = front ++ rest ∧ IsSet options front s := by
  by_cases hnil : bs = []
  · subst hnil
    exact Or.inl (Or.inl (IsEnd.none first))
  obtain h | ⟨size, rest, rfl⟩ := short_or_word32 bs
  · cases first with
    | true => exact Or.inl (Or.inr ⟨_, StoreDefect.fragment hnil h⟩)
    | false => exact Or.inl (Or.inl (IsEnd.fragment hnil h))
  by_cases hzero : size = 0
  · subst hzero
    exact Or.inl (Or.inl (IsEnd.terminator first rest))
  obtain h | ⟨e, he⟩ := set_or_defect options start (word32 size ++ rest)
  · exact Or.inr h
  · exact Or.inl (Or.inr ⟨e, StoreDefect.set hzero he⟩)

/-- **Any bytes are a run of sets, and then an end or a defect.** -/
theorem sets_then_end_or_defect (options : DecodeOptions) (bs : List UInt8) :
    ∃ front rest sets, front ++ rest = bs ∧ Run (IsSet options) front sets ∧
      (IsEnd sets.isEmpty rest ∨ ∃ e, StoreDefect options sets.isEmpty front.length rest e) := by
  obtain ⟨front, rest, sets, rfl, hrun, hrest⟩ := Run.cover
    (Q := fun first o bs => IsEnd first bs ∨ ∃ e, StoreDefect options first o bs e)
    IsSet.ne_nil (store_step options) true 0 bs
  exact ⟨front, rest, sets, rfl, hrun, by simpa using hrest⟩

/-! ### How long the sets are -/

theorem Run.length_sets {bs : List UInt8} {sets : List PropertySet}
    (run : Run (IsSet options) bs sets) : bs.length = PropertySet.totalSize sets :=
  run.length_eq rfl fun bs s sets h => by rw [PropertySet.totalSize, h.length_eq]

end PropertyStore
