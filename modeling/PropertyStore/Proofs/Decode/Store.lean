import PropertyStore.Proofs.Decode.PropertySet
import PropertyStore.Proofs.Grammar.Store
import PropertyStore.Store.Decode

/-!
# Reading a store follows the grammar

Reading gives a store exactly when the bytes are one, and bytes are one store at most
(`decode_eq_ok_iff_isStore`). Reading fails exactly when the bytes after some complete sets
have a defect, and the failure is that defect (`decode_eq_error_iff_defect`): so a failure
tells the first thing that is wrong, where it is, and every number of it.

The loop over sets is treated like the loop over records: a turn takes a set off, all
turns take off the sets that come first, and what is met after them ends the loop.
-/

namespace PropertyStore.Store

open LittleEndian

variable {options : DecodeOptions} (first : Bool) {c : Cursor} {o : Nat}

/-! ### The loop -/

/-- A turn of the loop over bytes that begin with a size. -/
theorem decodeSets_of_size {size : UInt32} {rest : List UInt8} (h : c.At o (word32 size ++ rest)) :
    decodeSets options first c =
      if size = 0 then .ok []
      else match PropertySet.decode options c with
        | .error e => .error e
        | .ok (set, rest) => (decodeSets options false rest).map (set :: ·) := by
  have goes : ¬ (c.remaining = 0 ∨ c.remaining < 4 ∧ first = false) := by
    rw [h.remaining_eq, List.length_append, length_word32]
    omega
  rw [decodeSets, if_neg goes, h.peekU32]
  simp only
  split
  · rfl
  · split <;> simp_all

/-- An end ends the loop. -/
theorem decodeSets_of_isEnd {first : Bool} {bs : List UInt8} (isEnd : IsEnd first bs)
    (h : c.At o bs) :
    decodeSets options first c = .ok [] := by
  cases isEnd with
  | none => rw [decodeSets, if_pos (Or.inl (by rw [h.remaining_eq, List.length_nil]))]
  | terminator first rest => rw [decodeSets_of_size first h, if_pos rfl]
  | fragment pos less => rw [decodeSets, if_pos (Or.inr ⟨by rwa [h.remaining_eq], rfl⟩)]

/-- A set is taken off. -/
theorem decodeSets_step {bs rest : List UInt8} {s : PropertySet} (isSet : IsSet options bs s)
    (h : c.At o (bs ++ rest)) :
    ∃ d, d.At (o + bs.length) rest ∧
      decodeSets options first c = (decodeSets options false d).map (s :: ·) := by
  obtain ⟨d, e, hd⟩ := PropertySet.decode_of_isSet isSet h
  obtain ⟨nonzero, body, hbody⟩ := isSet.starts
  rw [hbody, List.append_assoc] at h
  exact ⟨d, hd, by rw [decodeSets_of_size first h, if_neg nonzero, e]⟩

/-- All sets that come first are taken off. -/
theorem decodeSets_run {front rest : List UInt8} {sets : List PropertySet}
    (run : Run (IsSet options) front sets) (h : c.At o (front ++ rest)) :
    ∃ d, d.At (o + front.length) rest ∧
      decodeSets options first c =
        (decodeSets options (first && sets.isEmpty) d).map (sets ++ ·) := by
  induction run generalizing c o first with
  | nil =>
    refine ⟨c, h, ?_⟩
    rw [List.isEmpty_nil, Bool.and_true]
    cases decodeSets options first c <;> rfl
  | cons isSet _ ih =>
    rw [List.append_assoc] at h
    obtain ⟨c₁, h₁, e₁⟩ := decodeSets_step first isSet h
    obtain ⟨d, hd, e⟩ := ih false h₁
    refine ⟨d, hd.congr (by rw [List.length_append, Nat.add_assoc]), ?_⟩
    rw [e₁, e, List.isEmpty_cons, Bool.and_false, Bool.false_and]
    cases decodeSets options false d <;> rfl

/-- A defect ends the loop with a failure. -/
theorem decodeSets_of_storeDefect {first : Bool} {bs : List UInt8} {e : DecodeError}
    (defect : StoreDefect options first o bs e) (h : c.At o bs) :
    decodeSets options first c = .error e := by
  cases defect with
  | fragment pos less =>
    have goes : ¬ (c.remaining = 0 ∨ c.remaining < 4 ∧ true = false) := by
      simp [h.remaining_eq, pos]
    rw [decodeSets, if_neg goes, h.peekU32_short less]
  | set pos defect =>
    rw [decodeSets_of_size first h, if_neg pos, PropertySet.decode_of_setDefect defect h]

/-! ### The whole store -/

variable {front rest : List UInt8} {sets : List PropertySet} {input : Array UInt8}

/-- Sets and an end are a store. -/
theorem decode_of_isEnd (run : Run (IsSet options) front sets) (isEnd : IsEnd sets.isEmpty rest)
    (hinput : front ++ rest = input.toList) : decode options input = .ok ⟨sets, input.size⟩ := by
  obtain ⟨d, hd, e⟩ := decodeSets_run true run (hinput ▸ Cursor.At.ofBytes input 0)
  rw [Bool.true_and, decodeSets_of_isEnd isEnd hd] at e
  rw [decode, e]
  simp only [ok_map, List.append_nil]

/-- Sets and a defect are a failure. -/
theorem decode_of_storeDefect {e : DecodeError} (run : Run (IsSet options) front sets)
    (defect : StoreDefect options sets.isEmpty front.length rest e)
    (hinput : front ++ rest = input.toList) :
    decode options input = .error e := by
  obtain ⟨d, hd, he⟩ := decodeSets_run true run (hinput ▸ Cursor.At.ofBytes input 0)
  rw [Bool.true_and, decodeSets_of_storeDefect defect (hd.congr (Nat.zero_add _))] at he
  rw [decode, he]
  rfl

/-- A set without records, and then some bytes. -/
def bareThen (more : List UInt8) : Array UInt8 := (PropertySet.bareBytes .zero ++ more).toArray

/-- After a set, two bytes are passed over. -/
theorem decode_fragment : decode {} (bareThen [7, 7]) = .ok ⟨[.bare .zero], 26⟩ :=
  decode_of_isEnd (Run.cons (isSet_bare {} .zero) Run.nil)
    (IsEnd.fragment (by decide) (by decide)) rfl

/-- After a set, a size of seven leaves no room for a header. -/
theorem decode_small : decode {} (bareThen (word32 7)) = .error (.sizeMismatch 24 7 4) :=
  decode_of_storeDefect (Run.cons (isSet_bare {} .zero) Run.nil)
    (StoreDefect.set (by decide) (SetDefect.small [] (by decide))) rfl

/-- That set, and a fragment of two bytes `x`. -/
def worn (x : UInt8) : Array UInt8 := (PropertySet.wornBytes x ++ [] ++ [x, x]).toArray

theorem decode_worn {options : DecodeOptions} (small : 2 ≤ options.maxValueSize) (x : UInt8) :
    decode options (worn x) = .ok ⟨[.worn options.codepage], 58⟩ := by
  have run : Run (IsSet options) (PropertySet.wornBytes x ++ []) [.worn options.codepage] :=
    Run.cons (isSet_worn small x) Run.nil
  have isEnd : IsEnd false [x, x] := IsEnd.fragment (by simp) (by simp)
  have hinput : PropertySet.wornBytes x ++ [] ++ [x, x] = (worn x).toList := rfl
  have size_eq : (worn x).size = 58 := by
    simp [worn, PropertySet.wornBytes, Record.wornBytes, Guid.length_bytes]
  rw [decode_of_isEnd run isEnd hinput, size_eq]

/-- **Reading a store follows the grammar.** -/
theorem decode_settles (options : DecodeOptions) (input : Array UInt8) :
    Settles (decode options input) (IsStore options input.toList) fun e =>
      ∃ front rest sets, front ++ rest = input.toList ∧ Run (IsSet options) front sets ∧
        StoreDefect options sets.isEmpty front.length rest e := by
  refine .of_cover ?_ ?_ ?_
  · rintro _ ⟨⟨front, rest, sets, hinput, run, isEnd⟩, rfl⟩
    rw [decode_of_isEnd run isEnd hinput, Array.length_toList]
  · rintro e ⟨front, rest, sets, hinput, run, defect⟩
    exact decode_of_storeDefect run defect hinput
  · obtain ⟨front, rest, sets, hinput, run, isEnd | ⟨e, defect⟩⟩ :=
      sets_then_end_or_defect options input.toList
    · exact Or.inl ⟨_, ⟨front, rest, sets, hinput, run, isEnd⟩, rfl⟩
    · exact Or.inr ⟨e, front, rest, sets, hinput, run, defect⟩

/-- Bytes are divided in one way at most: reading finds the sets, and their sizes say where they
end. -/
theorem division_unique {bs : List UInt8} (d d' : Division options bs) : d = d' := by
  have h := decode_of_isEnd d.run d.isEnd (d.append_eq.trans List.toList_toArray.symm)
  have h' := decode_of_isEnd d'.run d'.isEnd (d'.append_eq.trans List.toList_toArray.symm)
  rw [h, Except.ok.injEq, Store.mk.injEq] at h'
  obtain ⟨front, rest, sets, hbs, run, isEnd⟩ := d
  obtain ⟨front', rest', sets', hbs', run', isEnd'⟩ := d'
  obtain ⟨rfl, -⟩ := h'
  obtain ⟨rfl, rfl⟩ :=
    List.append_inj (hbs.trans hbs'.symm) (by rw [run.length_sets, run'.length_sets])
  rfl

/-- **Reading accepts exactly the stores of the grammar, and the grammar is unambiguous**: a store
is read from bytes if and only if they are that store, and there is at most one way to divide
them. -/
theorem decode_eq_ok_iff_isStore (options : DecodeOptions) (input : Array UInt8) :
    (∀ store, decode options input = .ok store ↔ IsStore options input.toList store) ∧
      Subsingleton (Division options input.toList) :=
  ⟨(decode_settles options input).ok_iff, ⟨division_unique⟩⟩

/-- What is read is a run of sets at the start of the bytes, with an end behind it. -/
theorem run_of_decode {store : Store} (hok : decode options input = .ok store) :
    ∃ front rest, front ++ rest = input.toList ∧ Run (IsSet options) front store.sets ∧
      IsEnd store.isEmpty rest ∧ store.sourceLength = input.size := by
  obtain ⟨⟨front, rest, sets, hinput, run, isEnd⟩, rfl⟩ :=
    ((decode_settles options input).ok_iff store).mp hok
  exact ⟨front, rest, hinput, run, isEnd, rfl⟩

theorem toList_extract_zero (input : Array UInt8) (n : Nat) :
    (input.extract 0 n).toList = input.toList.take n := by
  rw [Array.toList_extract, List.extract_eq_take_drop, List.drop_zero, Nat.sub_zero]

/-- The sets that come first are read from the bytes up to their end. -/
theorem decode_extract_of_run (run : Run (IsSet options) front sets)
    (hinput : front ++ rest = input.toList) :
    decode options (input.extract 0 front.length) = .ok ⟨sets, front.length⟩ := by
  have htake : (input.extract 0 front.length).toList = front := by
    rw [toList_extract_zero, ← hinput, List.take_left]
  rw [decode_of_isEnd run (IsEnd.none _) (by rw [htake, List.append_nil]),
    ← Array.length_toList, htake]

/-- Sets that are read from the first bytes, and take up all of them, are a run there. -/
theorem run_of_decode_extract {start : Nat} (hstart : start = PropertySet.totalSize sets)
    (hok : decode options (input.extract 0 start) = .ok ⟨sets, start⟩) :
    Run (IsSet options) (input.toList.take start) sets ∧
      (input.toList.take start).length = start := by
  obtain ⟨front, rest, happend, run, -, hlen⟩ := run_of_decode hok
  have hsum : start = front.length + rest.length := by
    rw [← List.length_append, happend]
    exact hlen
  have hrest : rest = [] := by
    rw [← List.length_eq_zero_iff]
    have hfront : front.length = PropertySet.totalSize sets := run.length_sets
    omega
  rw [hrest, List.append_nil, toList_extract_zero] at happend
  rw [← happend]
  exact ⟨run, by simp [hsum, hrest]⟩

/-- **A failure tells the first thing that is wrong**: some complete sets come first, and what
follows them has the defect that is reported. -/
theorem decode_eq_error_iff_defect (options : DecodeOptions) (input : Array UInt8)
    (e : DecodeError) :
    decode options input = .error e ↔
      ∃ sets start, start = PropertySet.totalSize sets ∧
        decode options (input.extract 0 start) = .ok ⟨sets, start⟩ ∧
        StoreDefect options sets.isEmpty start (input.toList.drop start) e := by
  rw [(decode_settles options input).error_iff e]
  constructor
  · rintro ⟨front, rest, sets, hinput, run, defect⟩
    refine ⟨sets, front.length, run.length_sets, decode_extract_of_run run hinput, ?_⟩
    rwa [← hinput, List.drop_left]
  · rintro ⟨sets, start, hstart, hok, defect⟩
    obtain ⟨run, hlen⟩ := run_of_decode_extract hstart hok
    exact ⟨_, _, sets, List.take_append_drop start input.toList, run, by rwa [hlen]⟩

end PropertyStore.Store
