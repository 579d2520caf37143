import PropertyStore.Proofs.Decode.Record
import PropertyStore.Proofs.Grammar.PropertySet
import PropertyStore.Proofs.Skipped.Record

/-!
# The bytes of a set that do not matter

In a chain of records the places that are passed over are those of its records, as far as they are
complete, and the bytes after the zero that ends them (`ChainSkips`). A set that is complete and
signed has those of its chain, even if the chain breaks off (`SetSkips`).

A place is looked for from the front: in the first record, or further on. As a record begins with
its size, bytes begin with one record at most (`Sized.append_inj`), so what is first is settled,
and where no record comes first nothing is passed over (`ChainDefect.not_skips`). A set is then the
same set where only such places differ (`IsSet.exchange`), and one that cannot be read has the same
defect (`SetDefect.exchange`).
-/

namespace PropertyStore

open LittleEndian

variable {layout : RecordLayout} {options : DecodeOptions} {start : Nat}

theorem HasFields.unique {bs : List UInt8} {r r' : Record} (h : HasFields layout options bs r)
    (h' : HasFields layout options bs r') : r = r' := by
  have settled := decodeRecord_settles layout options (Cursor.At.ofBytes bs.toArray 0)
  have read := (settled.ok_iff r).mpr h
  rw [(settled.ok_iff r').mpr h', Except.ok.injEq] at read
  exact read.symm

theorem HasFields.not_recordDefect {bs : List UInt8} {r : Record} {e : DecodeError}
    (h : HasFields layout options bs r) : ¬ RecordDefect layout options start bs e := by
  intro defect
  have settled := decodeRecord_settles layout options (Cursor.At.ofBytes bs.toArray start)
  have read := (settled.ok_iff r).mpr h
  rw [(settled.error_iff e).mpr defect] at read
  cases read

/-! ### Bytes that say how many they are -/

/-- The bytes begin with a size, and there are as many of them as it says. -/
def Sized (bs : List UInt8) : Prop :=
  ∃ size rest, bs = word32 size ++ rest ∧ bs.length = size.toNat

/-- Of two such parts with which the same bytes begin neither is longer. -/
theorem Sized.append_inj {a b c d : List UInt8} (ha : Sized a) (hb : Sized b)
    (h : a ++ c = b ++ d) : a = b ∧ c = d := by
  obtain ⟨v, more, rfl, hv⟩ := ha
  obtain ⟨w, more', rfl, hw⟩ := hb
  refine List.append_inj h ?_
  rw [List.append_assoc, List.append_assoc] at h
  rw [hv, hw, (word32_inj h).1]

/-- The size with which the bytes begin is that of the part. -/
theorem Sized.length_eq {size : UInt32} {bs rest more : List UInt8} (h : Sized bs)
    (starts : word32 size ++ rest = bs ++ more) : bs.length = size.toNat := by
  obtain ⟨v, behind, rfl, hv⟩ := h
  rw [List.append_assoc] at starts
  rw [hv, (word32_inj starts).1]

theorem Sized.pos {bs rest rest' : List UInt8} (h : Sized bs) : bs ++ rest ≠ word32 0 ++ rest' := by
  obtain ⟨size, more, rfl, hsize⟩ := h
  intro same
  rw [List.append_assoc] at same
  rw [(word32_inj same).1, List.length_append, length_word32] at hsize
  simp at hsize

theorem IsRecord.sized {bs : List UInt8} {r : Record} (h : IsRecord layout options bs r) :
    Sized bs := by
  obtain ⟨-, rest, hbs⟩ := h.starts
  exact ⟨r.size, rest, hbs, h.length_eq⟩

theorem IsSet.sized {bs : List UInt8} {s : PropertySet} (h : IsSet options bs s) : Sized bs := by
  obtain ⟨-, rest, hbs⟩ := h.starts
  exact ⟨s.size, rest, hbs, h.length_eq⟩

/-! ### Chains of records -/

/-- A place in a chain of records is passed over if it is so in a record that is complete, or comes
after the zero that ends the records. -/
inductive ChainSkips (layout : RecordLayout) (options : DecodeOptions) :
    List UInt8 → Nat → Prop where
  /-- The place is in the first record. -/
  | record {part : List UInt8} {r : Record} {p : Nat} (isRecord : IsRecord layout options part r)
    (inside : p < part.length) (skips : r.Skips layout part p) (rest : List UInt8) :
    ChainSkips layout options (part ++ rest) p
  /-- The place is further on. -/
  | later {part rest : List UInt8} {r : Record} {p : Nat}
    (isRecord : IsRecord layout options part r) (skips : ChainSkips layout options rest p) :
    ChainSkips layout options (part ++ rest) (part.length + p)
  /-- The place is among the trailing bytes. -/
  | trailing {p : Nat} (four : 4 ≤ p) {rest : List UInt8} (inside : p < 4 + rest.length) :
    ChainSkips layout options (word32 0 ++ rest) p

theorem ChainSkips.lt_length {bs : List UInt8} {p : Nat} (h : ChainSkips layout options bs p) :
    p < bs.length := by
  induction h with
  | record isRecord inside skips rest =>
    rw [List.length_append]
    omega
  | later isRecord skips ih =>
    rw [List.length_append]
    omega
  | trailing four inside => rwa [List.length_append, length_word32]

/-- Where a record comes first, a place is passed over in it or in what follows. -/
theorem ChainSkips.of_record {part rest : List UInt8} {r : Record} {p : Nat}
    (isRecord : IsRecord layout options part r) (h : ChainSkips layout options (part ++ rest) p) :
    p < part.length ∧ r.Skips layout part p ∨
      ∃ q, p = part.length + q ∧ ChainSkips layout options rest q := by
  generalize hbs : part ++ rest = bs at h
  cases h with
  | record isRecord' inside skips rest' =>
    obtain ⟨rfl, rfl⟩ := isRecord.sized.append_inj isRecord'.sized hbs
    rw [isRecord.hasFields.unique isRecord'.hasFields]
    exact Or.inl ⟨inside, skips⟩
  | later isRecord' skips =>
    obtain ⟨rfl, rfl⟩ := isRecord.sized.append_inj isRecord'.sized hbs
    exact Or.inr ⟨_, rfl, skips⟩
  | trailing => exact absurd hbs isRecord.sized.pos

/-- A chain does not break off where there is a record. -/
theorem IsRecord.not_chainDefect {part rest : List UInt8} {r : Record} {e : DecodeError}
    (isRecord : IsRecord layout options part r) :
    ¬ ChainDefect layout options start (part ++ rest) e := by
  have length_eq := isRecord.length_eq
  have room := isRecord.hasFields.thirteen_le
  obtain ⟨-, body, hpart⟩ := isRecord.starts
  have starts : part ++ rest = word32 r.size ++ (body ++ rest) := by
    rw [hpart, List.append_assoc]
  intro defect
  generalize hbs : part ++ rest = bs at defect starts
  cases defect with
  | short pos less =>
    rw [← hbs, List.length_append] at less
    omega
  | large less =>
    obtain ⟨rfl, -⟩ := word32_inj starts
    rw [← hbs, List.length_append] at less
    omega
  | @record size window more _ starts' pos length_eq' defect =>
    obtain ⟨behind, hbehind⟩ := starts'
    obtain ⟨rfl, -⟩ := word32_inj (hbehind.trans starts)
    obtain ⟨rfl, -⟩ := List.append_inj hbs (length_eq.trans length_eq'.symm)
    exact isRecord.hasFields.not_recordDefect defect

/-- Where the chain breaks off, no place is passed over. -/
theorem ChainDefect.not_skips {bs : List UInt8} {e : DecodeError} {p : Nat}
    (defect : ChainDefect layout options start bs e) : ¬ ChainSkips layout options bs p := by
  intro skips
  cases skips with
  | record isRecord => exact isRecord.not_chainDefect defect
  | later isRecord => exact isRecord.not_chainDefect defect
  | @trailing _ _ rest =>
    generalize hbs : word32 0 ++ rest = bs at defect
    cases defect with
    | short pos less =>
      rw [← hbs, List.length_append, length_word32] at less
      omega
    | large less =>
      obtain ⟨rfl, -⟩ := word32_inj hbs
      exact absurd less (Nat.not_lt_zero _)
    | record starts pos =>
      obtain ⟨behind, hbehind⟩ := starts
      exact pos (word32_inj (hbehind.trans hbs.symm)).1

/-- The zero that ends the records is not passed over. -/
theorem ChainSkips.four_le {trailing : List UInt8} {p : Nat}
    (h : ChainSkips layout options (word32 0 ++ trailing) p) : 4 ≤ p := by
  generalize hbs : word32 0 ++ trailing = bs at h
  cases h with
  | record isRecord => exact absurd hbs.symm isRecord.sized.pos
  | later isRecord => exact absurd hbs.symm isRecord.sized.pos
  | trailing four => exact four

/-- After the records of a set only its trailing bytes are passed over. -/
theorem IsTail.exchange {tail tail' : List UInt8} {n : Nat} (h : IsTail tail n)
    (same : SameBut (ChainSkips layout options tail) tail tail') : IsTail tail' n := by
  cases h with
  | none =>
    rw [List.length_eq_zero_iff.mp same.length_eq]
    exact IsTail.none
  | sentinel trailing =>
    obtain ⟨trailing', rfl, htrailing⟩ := same.append_left fun p hp skips =>
      absurd hp (Nat.not_lt.mpr skips.four_le)
    rw [← htrailing.length_eq]
    exact IsTail.sentinel trailing'

/-! ### Sets -/

/-- The size, the signature and the identifier with which a set begins. -/
def PropertySet.header (size : UInt32) (identifier : Guid) : List UInt8 :=
  word32 size ++ (Signature.bytes .serializedPropertyStorage ++ identifier.bytes)

@[simp] theorem PropertySet.length_header (size : UInt32) (identifier : Guid) :
    (header size identifier).length = headerSize := by
  simp [header, identifier.length_bytes, headerSize]

theorem PropertySet.header_append (size : UInt32) (identifier : Guid) (chain : List UInt8) :
    header size identifier ++ chain =
      word32 size ++ (Signature.bytes .serializedPropertyStorage ++ identifier.bytes ++ chain) := by
  simp only [header, List.append_assoc]

theorem PropertySet.header_inj {v w : UInt32} {i j : Guid} {a b : List UInt8}
    (h : header v i ++ a = header w j ++ b) : i = j ∧ a = b := by
  obtain ⟨hheader, rfl⟩ := List.append_inj h (by rw [length_header, length_header])
  obtain ⟨-, hrest⟩ := word32_inj hheader
  have bytes_eq := List.append_cancel_left hrest
  cases i
  cases j
  cases bytes_eq
  exact ⟨rfl, rfl⟩

/-- A place in the bytes of a set is passed over if it is so in its chain of records. The bytes are
complete and signed, but the chain may break off. -/
inductive SetSkips (options : DecodeOptions) : List UInt8 → Nat → Prop where
  /-- The chain comes after the header. -/
  | mk {size : UInt32} {identifier : Guid} {layout : RecordLayout} {chain : List UInt8} {p : Nat}
    (isLayout : IsLayout identifier layout)
    (length_eq : (PropertySet.header size identifier ++ chain).length = size.toNat)
    (skips : ChainSkips layout options chain p) :
    SetSkips options (PropertySet.header size identifier ++ chain) (PropertySet.headerSize + p)

theorem SetSkips.sized {bs : List UInt8} {p : Nat} (h : SetSkips options bs p) : Sized bs := by
  obtain ⟨-, length_eq, -⟩ := h
  exact ⟨_, _, PropertySet.header_append .., length_eq⟩

theorem SetSkips.header_le {bs : List UInt8} {p : Nat} (h : SetSkips options bs p) :
    PropertySet.headerSize ≤ bs.length := by
  obtain ⟨-, -, -⟩ := h
  rw [List.length_append, PropertySet.length_header]
  exact Nat.le_add_right _ _

/-- A set has no place beyond its end. -/
theorem SetSkips.lt_length {bs : List UInt8} {p : Nat} (h : SetSkips options bs p) :
    p < bs.length := by
  obtain ⟨-, -, skips⟩ := h
  rw [List.length_append, PropertySet.length_header]
  exact Nat.add_lt_add_left skips.lt_length _

/-- In a set that is not signed no place is passed over. -/
theorem SetSkips.signed {size : UInt32} {found rest : List UInt8} {p : Nat}
    (four : found.length = 4) (h : SetSkips options (word32 size ++ (found ++ rest)) p) :
    found = Signature.bytes .serializedPropertyStorage := by
  generalize hbs : word32 size ++ (found ++ rest) = bs at h
  obtain ⟨-, -, -⟩ := h
  rw [PropertySet.header_append] at hbs
  obtain ⟨-, hbody⟩ := word32_inj hbs
  rw [List.append_assoc] at hbody
  exact (List.append_inj hbody (four.trans (Signature.length_bytes _).symm)).1

/-- The header and the records of a set are the same where nothing but skipped places differs, and
what comes after the records is the same but for the places that are skipped in it. -/
theorem set_exchange {size : UInt32} {identifier : Guid} {front rest bs' : List UInt8}
    {records : List Record} (isLayout : IsLayout identifier layout)
    (run : Run (IsRecord layout options) front records)
    (same : SameBut (SetSkips options (PropertySet.header size identifier ++ (front ++ rest)))
      (PropertySet.header size identifier ++ (front ++ rest)) bs') :
    ∃ front' rest', bs' = PropertySet.header size identifier ++ (front' ++ rest') ∧
      front'.length = front.length ∧
      Run (IsRecord layout options) front' records ∧
      SameBut (ChainSkips layout options rest) rest rest' := by
  have inChain : ∀ p, SetSkips options (PropertySet.header size identifier ++ (front ++ rest)) p →
      ∃ q, p = PropertySet.headerSize + q ∧ ChainSkips layout options (front ++ rest) q := by
    intro p skips
    generalize hbs : PropertySet.header size identifier ++ (front ++ rest) = bs at skips
    obtain ⟨isLayout', -, skips⟩ := skips
    obtain ⟨rfl, rfl⟩ := PropertySet.header_inj hbs
    obtain rfl := isLayout.unique isLayout'
    exact ⟨_, rfl, skips⟩
  obtain ⟨chain', rfl, hchain⟩ := by
    refine same.append_left fun p hp skips => ?_
    obtain ⟨q, rfl, -⟩ := inChain p skips
    rw [PropertySet.length_header] at hp
    omega
  have inside : SameBut (ChainSkips layout options (front ++ rest)) (front ++ rest) chain' := by
    refine hchain.mono fun p _ skips => ?_
    obtain ⟨q, hq, skips⟩ := inChain _ skips
    rw [PropertySet.length_header] at hq
    rwa [Nat.add_left_cancel hq]
  obtain ⟨front', rest', rfl, hlen, run', hrest⟩ :=
    run.sameBut (fun _ => ChainSkips layout options)
      (fun part r => r.Skips layout part) (fun _ _ _ _ _ => ChainSkips.of_record)
      (fun _ _ _ => IsRecord.exchange) true inside
  exact ⟨front', rest', rfl, hlen, run', hrest⟩

/-- A set is the same where nothing but skipped places differs. -/
theorem IsSet.exchange {bs bs' : List UInt8} {s : PropertySet} (h : IsSet options bs s)
    (same : SameBut (SetSkips options bs) bs bs') : IsSet options bs' s := by
  have length_eq' := same.length_eq.trans h.length_eq
  obtain ⟨@⟨identifier, layout, chain, tail, records, trailing, isLayout, run, isTail⟩, -⟩ := h
  rw [← PropertySet.header_append] at same
  obtain ⟨chain', tail', rfl, -, run', htail⟩ := set_exchange isLayout run same
  rw [PropertySet.header_append] at length_eq' ⊢
  exact IsSet.mk (IsBody.mk isLayout run' (isTail.exchange htail)) length_eq'

/-- A chain breaks off after the same records where nothing but skipped places differs. -/
theorem chain_exchange {size : UInt32} {identifier : Guid} {front rest bs' : List UInt8}
    {records : List Record} {e : DecodeError} (isLayout : IsLayout identifier layout)
    (run : Run (IsRecord layout options) front records)
    (defect : ChainDefect layout options (start + PropertySet.headerSize + front.length) rest e)
    (same : SameBut (SetSkips options (PropertySet.header size identifier ++ (front ++ rest)))
      (PropertySet.header size identifier ++ (front ++ rest)) bs') :
    ∃ body', bs' = word32 size ++ body' ∧ BodyDefect options start body' e := by
  obtain ⟨front', rest', rfl, hlen, run', hrest⟩ := set_exchange isLayout run same
  obtain rfl : rest' = rest := hrest.eq fun _ _ => defect.not_skips
  rw [← hlen] at defect
  exact ⟨_, PropertySet.header_append .., BodyDefect.chain isLayout run' defect⟩

/-! ### A set that comes first -/

/-- A place in any bytes is passed over if they begin with a set in whose bytes it is so. -/
def FirstSetSkips (options : DecodeOptions) (bs : List UInt8) (p : Nat) : Prop :=
  ∃ window rest, bs = window ++ rest ∧ SetSkips options window p

theorem FirstSetSkips.header_le {bs : List UInt8} {p : Nat} (h : FirstSetSkips options bs p) :
    PropertySet.headerSize ≤ bs.length := by
  obtain ⟨window, rest, rfl, skips⟩ := h
  rw [List.length_append]
  exact Nat.le_trans skips.header_le (Nat.le_add_right _ _)

/-- The size with which the bytes begin is that of the set. -/
theorem FirstSetSkips.of_size {size : UInt32} {rest : List UInt8} {p : Nat}
    (h : FirstSetSkips options (word32 size ++ rest) p) :
    PropertySet.headerSize ≤ size.toNat ∧ size.toNat ≤ (word32 size ++ rest).length := by
  obtain ⟨window, more, hbs, skips⟩ := h
  have whole := skips.sized.length_eq hbs
  refine ⟨whole ▸ skips.header_le, ?_⟩
  rw [hbs, List.length_append, whole]
  exact Nat.le_add_right _ _

theorem FirstSetSkips.of_sized {part rest : List UInt8} {p : Nat} (sized : Sized part)
    (h : FirstSetSkips options (part ++ rest) p) : SetSkips options part p := by
  obtain ⟨window, more, hbs, skips⟩ := h
  rwa [(sized.append_inj skips.sized hbs).1]

/-- What is wrong with a set is as wrong where nothing but skipped places differs: either no place
is skipped, or its chain breaks off after the same records. -/
theorem SetDefect.exchange {size : UInt32} {rest bs' : List UInt8} {e : DecodeError}
    (defect : SetDefect options start (word32 size ++ rest) e)
    (same : SameBut (FirstSetSkips options (word32 size ++ rest)) (word32 size ++ rest) bs') :
    ∃ rest', bs' = word32 size ++ rest' ∧ SetDefect options start bs' e := by
  have unchanged : (∀ p, ¬ FirstSetSkips options (word32 size ++ rest) p) →
      ∃ rest', bs' = word32 size ++ rest' ∧ SetDefect options start bs' e := by
    intro none
    obtain rfl : bs' = word32 size ++ rest := same.eq fun p _ => none p
    exact ⟨rest, rfl, defect⟩
  obtain ⟨small, -⟩ | ⟨header, ⟨short, -⟩ | ⟨body, more, rfl, length_eq, broken⟩⟩ :=
    defect.of_size
  · exact unchanged fun p skips => absurd small (Nat.not_lt.mpr skips.of_size.1)
  · exact unchanged fun p skips => absurd short (Nat.not_lt.mpr skips.of_size.2)
  · have sized : Sized (word32 size ++ body) := ⟨size, body, rfl, length_eq⟩
    rw [← List.append_assoc] at same unchanged
    cases broken with
    | signature four unknown behind =>
      exact unchanged fun p skips => unknown ((skips.of_sized sized).signed four)
    | chain isLayout run broken =>
      obtain ⟨window', more', rfl, hwindow, -⟩ := same.append
      have inWindow := hwindow.mono fun p _ skips => skips.of_sized sized
      rw [← PropertySet.header_append] at inWindow length_eq
      have length_eq' := inWindow.length_eq.trans length_eq
      obtain ⟨body', rfl, broken'⟩ := chain_exchange isLayout run broken inWindow
      exact ⟨body' ++ more', List.append_assoc .., SetDefect.body header length_eq' broken' more'⟩

end PropertyStore
