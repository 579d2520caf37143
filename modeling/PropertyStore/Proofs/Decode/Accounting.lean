import PropertyStore.Proofs.Decode.Store

/-!
# Every byte is accounted for

The size of a set is the size of its header, the sizes of its records, the zero that ends them if
there is one, and the bytes that trail it (`PropertySet.Accounts`); without the zero nothing
trails. A store is the sizes of its sets and what is left behind them, which is nothing, or a
fragment after a set, or begins with four zero bytes (`Store.Leftover`). And a record is never
smaller than its fields (`Record.fieldsSize`). So bytes hold no more sets, records and values
than they have room for, and a reader may allot memory by their number (`decode_accounts`).

The grammar says all this of one set or record, and along a run it adds up (`Run.length_eq`).
-/

namespace PropertyStore

open LittleEndian

/-! ### How much a record takes up -/

/-- The length that the sizes of records add up to. -/
def Record.totalSize : List Record → Nat
  | [] => 0
  | r :: records => r.size.toNat + totalSize records

/-- How many bytes the values of records have together. -/
def Record.totalData (records : List Record) : Nat := (records.flatMap Record.data).length

theorem Record.totalData_cons (r : Record) (records : List Record) :
    totalData (r :: records) = r.data.length + totalData records := by
  rw [totalData, List.flatMap_cons, List.length_append, totalData]

theorem Record.totalData_append (records more : List Record) :
    totalData (records ++ more) = totalData records + totalData more := by
  rw [totalData, List.flatMap_append, List.length_append, totalData, totalData]

/-- Records that are no smaller than their fields have room for thirteen bytes each, and for their
values. -/
theorem Record.room_le_totalSize {records : List Record}
    (h : ∀ r ∈ records, r.fieldsSize ≤ r.size.toNat) :
    13 * records.length + totalData records ≤ totalSize records := by
  induction records with
  | nil => exact Nat.le_refl 0
  | cons r records ih =>
    obtain ⟨hr, hrecords⟩ := List.forall_mem_cons.mp h
    have rest := ih hrecords
    simp only [fieldsSize] at hr
    simp only [List.length_cons, totalData_cons, totalSize]
    omega

/-! ### How much a set takes up -/

/-- The bytes of a set are accounted for. -/
structure PropertySet.Accounts (s : PropertySet) : Prop where
  /-- The zero that ends the records takes up four bytes, or there is none and nothing trails. -/
  size_eq : ∃ ending, (ending = 0 ∨ ending = 4) ∧ (ending = 0 → s.trailingBytes = 0) ∧
    s.size.toNat = headerSize + Record.totalSize s.records + ending + s.trailingBytes
  fields_le : ∀ r ∈ s.records, r.fieldsSize ≤ r.size.toNat

/-- Sets whose bytes are accounted for have room for a header each, and for their records. -/
theorem PropertySet.room_le_totalSize {sets : List PropertySet} (h : ∀ s ∈ sets, s.Accounts) :
    headerSize * sets.length + 13 * (sets.flatMap records).length +
      Record.totalData (sets.flatMap records) ≤ totalSize sets := by
  induction sets with
  | nil => exact Nat.le_refl 0
  | cons s sets ih =>
    obtain ⟨hs, hsets⟩ := List.forall_mem_cons.mp h
    obtain ⟨ending, -, -, hsize⟩ := hs.size_eq
    have inside := Record.room_le_totalSize hs.fields_le
    have rest := ih hsets
    simp only [List.flatMap_cons, List.length_append, List.length_cons, Record.totalData_append,
      totalSize, headerSize] at inside rest hsize ⊢
    omega

/-! ### What the grammar says of lengths -/

variable {layout : RecordLayout} {options : DecodeOptions} {bs : List UInt8}

theorem Run.length_records {records : List Record}
    (run : Run (IsRecord layout options) bs records) : bs.length = Record.totalSize records :=
  run.length_eq rfl fun bs r records h => by rw [Record.totalSize, h.length_eq]

theorem IsTail.length_eq {n : Nat} (h : IsTail bs n) :
    ∃ ending, (ending = 0 ∨ ending = 4) ∧ (ending = 0 → n = 0) ∧ bs.length = ending + n := by
  cases h with
  | none => exact ⟨0, Or.inl rfl, fun _ => rfl, rfl⟩
  | sentinel trailing =>
    exact ⟨4, Or.inr rfl, nofun, by rw [List.length_append, length_word32]⟩

/-- The bytes of a set are accounted for. -/
theorem IsSet.accounts {s : PropertySet} (h : IsSet options bs s) : s.Accounts := by
  have hlength := h.length_eq
  obtain ⟨@⟨identifier, layout, chain, tail, records, trailing, -, run, isTail⟩, -⟩ := h
  obtain ⟨ending, two, trails, htail⟩ := isTail.length_eq
  refine ⟨⟨ending, two, trails, ?_⟩, run.forall_mem fun bs r record => ?_⟩
  · rw [← hlength]
    simp [identifier.length_bytes, PropertySet.headerSize, run.length_records, htail]
    omega
  · exact record.length_eq ▸ record.hasFields.fieldsSize_le

/-! ### Stores -/

namespace Store

/-- What can be left behind the sets of a store; the mark says that there is no set. -/
inductive Leftover : Bool → List UInt8 → Prop where
  /-- Nothing. -/
  | nothing (first : Bool) {rest : List UInt8} (zero : rest.length = 0) : Leftover first rest
  /-- One to three bytes, after a set. -/
  | fragment {rest : List UInt8} (pos : 1 ≤ rest.length) (le : rest.length ≤ 3) :
    Leftover false rest
  /-- Four zero bytes, and then any others. -/
  | terminated (first : Bool) {rest : List UInt8} (four : 4 ≤ rest.length)
    (zero : rest.take 4 = [0, 0, 0, 0]) : Leftover first rest

theorem leftover_of_isEnd {first : Bool} (h : IsEnd first bs) : Leftover first bs := by
  cases h with
  | none => exact Leftover.nothing first rfl
  | terminator first rest => exact Leftover.terminated first (Nat.le_add_left 4 _) rfl
  | fragment pos less =>
    exact Leftover.fragment (List.length_pos_iff.mpr pos) (Nat.le_of_lt_succ less)

/-- **Every byte of a store is accounted for**: each set is its header, its records, a zero and
what trails it; the sets and what is left behind them are the bytes that were read; and so there
are no more sets, records and bytes of values than those have room for. -/
theorem decode_accounts (options : DecodeOptions) {input : Array UInt8} {store : Store}
    (hok : decode options input = .ok store) :
    (∀ s ∈ store.sets, s.Accounts) ∧
      PropertySet.totalSize store.sets ≤ input.size ∧
      Leftover store.isEmpty (input.toList.drop (PropertySet.totalSize store.sets)) ∧
      24 * store.setCount + 13 * store.recordCount +
        Record.totalData (store.sets.flatMap PropertySet.records) ≤ input.size := by
  obtain ⟨front, rest, hinput, run, isEnd, -⟩ := run_of_decode hok
  have accounts := run.forall_mem (fun _ _ h => IsSet.accounts h)
  have hfront := run.length_sets
  have htotal : PropertySet.totalSize store.sets ≤ input.size := by
    rw [← Array.length_toList, ← hinput, List.length_append, ← hfront]
    exact Nat.le_add_right _ _
  refine ⟨accounts, htotal, ?_, ?_⟩
  · rw [← hinput, ← hfront, List.drop_left]
    exact leftover_of_isEnd isEnd
  · exact Nat.le_trans (PropertySet.room_le_totalSize accounts) htotal

/-- Of 58 bytes a set takes up 56: its header, a record of 27 bytes, a zero, and a byte more. Two
are left. -/
theorem decode_accounts_worn :
    decode {} (worn 7) = .ok ⟨[.worn .windows1252], 58⟩ ∧
      (PropertySet.worn .windows1252).Accounts ∧ Leftover false [7, 7] ∧
      24 * 1 + 13 * 1 + 2 ≤ (worn 7).size := by
  have hok : decode {} (worn 7) = .ok ⟨[.worn .windows1252], 58⟩ := decode_worn (by decide) 7
  obtain ⟨sets, -, rest, room⟩ := decode_accounts {} hok
  exact ⟨hok, sets _ (List.mem_singleton.mpr rfl), rest, room⟩

end Store

end PropertyStore
