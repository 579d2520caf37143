import PropertyStore.Proofs.Decode.Store

/-!
# A store is its first set, and the rest

Reading the first set and reading the rest are two readings that know nothing of each other,
and together they are the reading of the store (`decode_eq_first_then_rest`). The rest is read
as a store of its own, from offset zero. So two things have to be seen: where bytes lie does
not matter to what is wrong with them, only to the offset that is told (`moved`); and that
there was a set already matters only to a fragment of one to three bytes.
-/

namespace PropertyStore

open LittleEndian

/-! ### The same failure, further on -/

/-- The failure of the same read `n` bytes further on. -/
def ReadError.moved (n : Nat) : ReadError → ReadError
  | .outOfData offset requested remaining => .outOfData (offset + n) requested remaining
  | .seekOutOfRange offset stop => .seekOutOfRange (offset + n) stop
  | .device text => .device text

/-- The same failure `n` bytes further on: its offset is larger, and all else is as it was. -/
def DecodeError.moved (n : Nat) : DecodeError → DecodeError
  | .read cause => .read (cause.moved n)
  | .invalidSignature offset found => .invalidSignature (offset + n) found
  | .sizeMismatch offset declared available => .sizeMismatch (offset + n) declared available
  | .unsupportedValueType offset code => .unsupportedValueType (offset + n) code
  | .valueTooLarge offset size limit => .valueTooLarge (offset + n) size limit

variable {layout : RecordLayout} {options : DecodeOptions} {start : Nat} {bs : List UInt8}
  {e : DecodeError}

theorem RecordDefect.moved (n : Nat) (defect : RecordDefect layout options start bs e) :
    RecordDefect layout options (start + n) bs (e.moved n) := by
  cases defect with
  | short needs less =>
    rw [DecodeError.moved, ReadError.moved, Nat.add_right_comm]
    exact RecordDefect.short needs less
  | unknown isHead two none rest =>
    rw [DecodeError.moved, Nat.add_right_comm]
    exact RecordDefect.unknown isHead two none rest
  | large isOpening isCount more rest =>
    rw [DecodeError.moved, Nat.add_right_comm]
    exact RecordDefect.large isOpening isCount more rest

theorem ChainDefect.moved (n : Nat) (defect : ChainDefect layout options start bs e) :
    ChainDefect layout options (start + n) bs (e.moved n) := by
  cases defect with
  | short pos less => exact ChainDefect.short pos less
  | large less => exact ChainDefect.large less
  | record starts pos length_eq defect =>
    exact ChainDefect.record starts pos length_eq (defect.moved n)

theorem BodyDefect.moved (n : Nat) (defect : BodyDefect options start bs e) :
    BodyDefect options (start + n) bs (e.moved n) := by
  cases defect with
  | signature four unknown rest =>
    rw [DecodeError.moved, Nat.add_right_comm]
    exact BodyDefect.signature four unknown rest
  | @chain _ _ front _ _ _ isLayout run defect =>
    have there : start + 24 + front.length + n = start + n + 24 + front.length := by omega
    exact BodyDefect.chain isLayout run (there ▸ defect.moved n)

theorem SetDefect.moved (n : Nat) (defect : SetDefect options start bs e) :
    SetDefect options (start + n) bs (e.moved n) := by
  cases defect with
  | missing less => exact SetDefect.missing less
  | small rest less => exact SetDefect.small rest less
  | short header less => exact SetDefect.short header less
  | body header length_eq defect rest =>
    exact SetDefect.body header length_eq (defect.moved n) rest

/-! ### After a set -/

/-- What ends a store ends it after a set too. -/
theorem IsEnd.after_set {first : Bool} (isEnd : IsEnd first bs) : IsEnd false bs := by
  cases isEnd with
  | none => exact IsEnd.none false
  | terminator _ rest => exact IsEnd.terminator false rest
  | fragment pos less => exact IsEnd.fragment pos less

/-- What is wrong with a store is wrong after a set too, unless all of it is a fragment. -/
theorem StoreDefect.after_set {first : Bool} (n : Nat)
    (defect : StoreDefect options first start bs e)
    (whole : first = true → ¬(0 < bs.length ∧ bs.length < 4)) :
    StoreDefect options false (start + n) bs (e.moved n) := by
  cases defect with
  | fragment pos less => exact absurd ⟨List.length_pos_iff.mpr pos, less⟩ (whole rfl)
  | set pos defect => exact StoreDefect.set pos (defect.moved n)

namespace Store

variable {input : Array UInt8}

/-- A set that is read from the start of bytes is there. -/
theorem isSet_of_ofBytes {s : PropertySet} (h : PropertySet.ofBytes options input = .ok s) :
    ∃ front rest, front ++ rest = input.toList ∧ IsSet options front s := by
  cases read : PropertySet.decode options (.ofBytes input 0) with
  | error failure => simp [PropertySet.ofBytes, read] at h
  | ok read' =>
    obtain ⟨s', d⟩ := read'
    rw [PropertySet.ofBytes, read, ok_map, Except.ok.injEq] at h
    obtain ⟨front, rest, hbs, isSet, -⟩ :=
      PropertySet.isSet_of_decode (Cursor.At.ofBytes input 0) read
    exact ⟨front, rest, hbs.symm, h ▸ isSet⟩

/-- A failure to read a set from the start of bytes is a defect of them. -/
theorem setDefect_of_ofBytes (h : PropertySet.ofBytes options input = .error e) :
    SetDefect options 0 input.toList e := by
  cases read : PropertySet.decode options (.ofBytes input 0) with
  | error failure =>
    rw [PropertySet.ofBytes, read, error_map, Except.error.injEq] at h
    exact h ▸ PropertySet.setDefect_of_decode (Cursor.At.ofBytes input 0) read
  | ok read' => simp [PropertySet.ofBytes, read] at h

/-- Where there should be a set, its defect is that of the store. -/
theorem decode_of_ofBytes_error (four : 4 ≤ input.size)
    (nonzero : toNat (input.toList.take 4) ≠ 0)
    (h : PropertySet.ofBytes options input = .error e) : decode options input = .error e := by
  have defect := setDefect_of_ofBytes h
  obtain less | ⟨size, rest, hbs⟩ := short_or_word32 input.toList
  · rw [Array.length_toList] at less
    omega
  have pos : size ≠ 0 := by
    rintro rfl
    rw [hbs, List.take_left' (length_word32 0)] at nonzero
    exact nonzero (toNat_word32 0)
  rw [hbs] at defect
  exact decode_of_storeDefect Run.nil (StoreDefect.set pos defect) hbs.symm

theorem toList_extract_rest {front rest : List UInt8} (hinput : front ++ rest = input.toList) :
    (input.extract front.length input.size).toList = rest := by
  rw [Array.toList_extract, List.extract_eq_take_drop, List.take_of_length_le (by simp), ← hinput,
    List.drop_left]

/-- After its first set a store goes on like a store of its own, unless what is left is a
fragment. -/
theorem decode_append {front rest : List UInt8} {s : PropertySet} (isSet : IsSet options front s)
    (hinput : front ++ rest = input.toList) (whole : ¬(0 < rest.length ∧ rest.length < 4)) :
    decode options input =
      ((decode options rest.toArray).mapError (·.moved front.length)).map
        fun store => ⟨s :: store.sets, input.size⟩ := by
  obtain ⟨front', rest', sets, split, run, isEnd | ⟨failure, defect⟩⟩ :=
    sets_then_end_or_defect options rest.toArray.toList
  · have hinput' : (front ++ front') ++ rest' = input.toList := by
      rw [List.append_assoc, split, hinput]
    rw [decode_of_isEnd run isEnd split,
      decode_of_isEnd (Run.cons isSet run) isEnd.after_set hinput']
    rfl
  · have hinput' : (front ++ front') ++ rest' = input.toList := by
      rw [List.append_assoc, split, hinput]
    have alone : sets.isEmpty = true → ¬(0 < rest'.length ∧ rest'.length < 4) := by
      intro none
      rw [List.isEmpty_iff] at none
      subst none
      cases run
      rwa [show rest' = rest from split]
    have later := defect.after_set front.length alone
    rw [Nat.add_comm, ← List.length_append] at later
    rw [decode_of_storeDefect run defect split,
      decode_of_storeDefect (Run.cons isSet run) later hinput']
    rfl

/-- **A store is its first set and then the store that the rest is.** A failure in the first set is
the failure of the whole; one in the rest is told as it is there, further on by the size of the
set. Only a fragment of one to three bytes is passed over here and refused where it stands
alone. -/
theorem decode_eq_first_then_rest (options : DecodeOptions) (input : Array UInt8)
    (four : 4 ≤ input.size) (nonzero : toNat (input.toList.take 4) ≠ 0) :
    decode options input = (do
      let first ← PropertySet.ofBytes options input
      let rest := input.extract first.size.toNat input.size
      if 0 < rest.size ∧ rest.size < 4 then
        return ⟨[first], input.size⟩
      else
        ((decode options rest).mapError (·.moved first.size.toNat)).map
          fun store => ⟨first :: store.sets, input.size⟩) := by
  cases hfirst : PropertySet.ofBytes options input with
  | error e => rw [decode_of_ofBytes_error four nonzero hfirst, error_bind]
  | ok first =>
    obtain ⟨front, rest, hinput, isSet⟩ := isSet_of_ofBytes hfirst
    have hrest : input.extract first.size.toNat input.size = rest.toArray := by
      apply Array.toList_inj.mp
      rw [← isSet.length_eq, toList_extract_rest hinput]
    rw [ok_bind, hrest]
    simp only [List.size_toArray]
    split
    · next fragment =>
      have isEnd : IsEnd false rest :=
        IsEnd.fragment (List.length_pos_iff.mp fragment.1) fragment.2
      exact decode_of_isEnd (Run.cons isSet Run.nil) isEnd (by rwa [List.append_nil])
    · next whole => rw [decode_append isSet hinput whole, isSet.length_eq]

theorem ofBytes_bareThen (more : List UInt8) :
    PropertySet.ofBytes {} (bareThen more) = .ok (.bare .zero) := by
  obtain ⟨d, e, -⟩ :=
    PropertySet.decode_of_isSet (isSet_bare {} .zero) (Cursor.At.ofBytes (bareThen more) 0)
  rw [PropertySet.ofBytes, e, ok_map]

/-- After a set, a size of seven is told as where it stands alone, but for the offset. -/
theorem decode_small_after_set :
    4 ≤ (bareThen (word32 7)).size ∧ toNat ((bareThen (word32 7)).toList.take 4) ≠ 0 ∧
      decode {} (word32 7).toArray = .error (.sizeMismatch 0 7 4) ∧
      decode {} (bareThen (word32 7)) = .error ((DecodeError.sizeMismatch 0 7 4).moved 24) := by
  have four : 4 ≤ (bareThen (word32 7)).size := by decide
  have nonzero : toNat ((bareThen (word32 7)).toList.take 4) ≠ 0 := by decide
  have alone : decode {} (word32 7).toArray = .error (.sizeMismatch 0 7 4) :=
    decode_of_storeDefect Run.nil (StoreDefect.set (by decide) (SetDefect.small [] (by decide))) rfl
  have rest : (bareThen (word32 7)).extract 24 (bareThen (word32 7)).size = (word32 7).toArray := by
    decide
  refine ⟨four, nonzero, alone, ?_⟩
  have size : (PropertySet.bare .zero).size.toNat = 24 := rfl
  have whole : ¬(0 < (word32 7).toArray.size ∧ (word32 7).toArray.size < 4) := by decide
  rw [decode_eq_first_then_rest {} _ four nonzero, ofBytes_bareThen, ok_bind, size, rest]
  simp only [if_neg whole, alone]
  rfl

end Store

end PropertyStore
