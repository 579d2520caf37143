import PropertyStore.Proofs.Decode.Limit
import PropertyStore.Proofs.Decode.Source
import PropertyStore.Proofs.Device.Fault

/-!
# Reading a store from a device that fails somewhere

Reading a store from a device looks at its sets, and past them no further than it must
(`Looks`). A device that fails further on is as good as one that works. If the device fails
before that, the reading comes to the failure of the device and to nothing else: there is no
store of the sets that were read until then, and no other failure (`decodeSource_failingAt`).

The loop is followed as far as the device works with the lemmas of `ServesUpTo`. What is added is
that a range which is not given whole ends it (`FailsPast`), and that the loop does ask for such a
range whenever it has to look past the fault (`decodeSetsFrom_lost`).
-/

namespace PropertyStore

open LittleEndian

/-- A source of which `I` holds gives the ranges that end at `f` or before, and fails with `e` when
it is asked for a range that ends later. -/
structure FailsPast {σ : Type} [ByteSource σ] (I : σ → Prop) (content : List UInt8) (f : Nat)
    (e : ReadError) : Prop extends ServesUpTo I content f where
  fails {s : σ} {front bs rest : List UInt8} (h : I s) (hc : front ++ (bs ++ rest) = content)
    (pos : bs ≠ []) (lt : f < (front ++ bs).length) :
    ∃ s', ByteSource.read s front.length bs.length = (.error e, s')

/-! ### A device that fails, as a source -/

/-- The device at another position. -/
def Device.movedTo (d : Device) (position : Nat) : Device := { d with position }

namespace SeekSource

/-- The source, but its device fails from a position on. -/
def failingAt (s : SeekSource) (f : Nat) : SeekSource := { s with device := s.device.failingAt f }

/-- The source would work, but its device fails with `e` from position `f` on. -/
def Failing (input : Array UInt8) (f : Nat) (e : ReadError) (s : SeekSource) : Prop :=
  ∃ t : SeekSource, t.Healthy input ∧ t.device.failure = e ∧ s = t.failingAt f

variable {input : Array UInt8} {s : SeekSource} {f offset n : Nat}

/-- A range that is there is asked of the device, from its start. -/
theorem read_of_fits (seeks : s.device.seekFails = false) (fits : offset + n ≤ s.length) :
    s.read offset n =
      (((s.device.movedTo offset).readExact n).1,
        { s with device := ((s.device.movedTo offset).readExact n).2 }) := by
  have there : ¬ s.length - offset < n := by omega
  have sought : s.device.seek offset = .ok (s.device.movedTo offset) := by
    simp [Device.seek, seeks, Device.movedTo]
  rw [read, if_neg there, sought]

/-- A read does not change what a failure of the device would say. -/
theorem failure_read (seeks : s.device.seekFails = false) (fits : offset + n ≤ s.length) :
    (s.read offset n).2.device.failure = s.device.failure := by
  rw [read_of_fits seeks fits, Device.readExact_snd]
  obtain ⟨m, -, takes, -⟩ := (s.device.movedTo offset).fill_takes n
  exact takes.moves.failure_eq

/-- Where a range starts that is there. -/
theorem Healthy.inside (h : s.Healthy input) (fits : offset + n ≤ input.size) :
    (s.device.movedTo offset).position ≤ (s.device.movedTo offset).content.size := by
  show offset ≤ s.device.content.size
  rw [h.content_eq]
  omega

/-- A range that ends before the fault is given as if there were none. -/
theorem read_failingAt (h : s.Healthy input) (fits : offset + n ≤ input.size)
    (clear : offset + n ≤ f) :
    (s.failingAt f).read offset n = ((s.read offset n).1, (s.read offset n).2.failingAt f) := by
  have fits' : offset + n ≤ s.length := h.length_eq ▸ fits
  have unmet : ¬ (s.device.movedTo offset).Meets f n := by
    rintro (⟨p, -, -, wanted, le⟩ | ⟨more, -⟩)
    · exact absurd (Nat.lt_of_lt_of_le wanted clear) (Nat.not_lt.mpr le)
    · change s.device.content.size < offset + n at more
      rw [h.content_eq] at more
      exact absurd more (Nat.not_lt.mpr fits)
  have same : ((s.failingAt f).device.movedTo offset).readExact n = _ :=
    Device.readExact_failingAt (d := s.device.movedTo offset) h.device.faultAt_eq (h.inside fits)
      unmet
  rw [read_of_fits h.seeks fits', read_of_fits (s := s.failingAt f) h.seeks fits', same]
  rfl

/-- A range that does not is not given. -/
theorem read_past_fault (h : s.Healthy input) (pos : 0 < n) (fits : offset + n ≤ input.size)
    (lt : f < offset + n) :
    ∃ s', (s.failingAt f).read offset n = (.error s.device.failure, s') := by
  have fits' : offset + n ≤ s.length := h.length_eq ▸ fits
  have le : f ≤ s.device.content.size := by
    rw [h.content_eq]
    omega
  have meets : (s.device.movedTo offset).Meets f n :=
    (Device.meets_iff (h.inside fits) pos).mpr ⟨lt, le⟩
  obtain ⟨d', e⟩ := Device.readExact_of_meets (d := (s.failingAt f).device.movedTo offset) rfl
    h.device.portion_pos (h.inside fits) meets
  rw [read_of_fits (s := s.failingAt f) h.seeks fits', e]
  exact ⟨_, rfl⟩

/-- A device that fails from `f` on serves up to there, and fails past it. -/
theorem failsPast (input : Array UInt8) (f : Nat) (e : ReadError) :
    FailsPast (Failing input f e) input.toList f e where
  size_eq := by
    rintro _ ⟨t, h, -, rfl⟩
    exact h.length_eq
  gives := by
    rintro _ front bs rest ⟨t, h, failure_eq, rfl⟩ hc le
    obtain ⟨t', h', hread⟩ := (serves input).gives h hc
    change t.read front.length bs.length = _ at hread
    have fits : front.length + bs.length ≤ input.size := by
      rw [size_of_append hc, List.length_append]
      omega
    rw [List.length_append] at le
    refine ⟨t'.failingAt f, ⟨t', h', ?_, rfl⟩, ?_⟩
    · rw [← failure_eq, ← failure_read h.seeks (h.length_eq ▸ fits), hread]
    · show (t.failingAt f).read _ _ = _
      rw [read_failingAt h fits le, hread]
  refuses := by
    rintro _ front rest n ⟨t, h, failure_eq, rfl⟩ hc less
    have hleft : (t.failingAt f).length - front.length = rest.length := by
      have hsize := size_of_append hc
      have length_eq : (t.failingAt f).length = input.size := h.length_eq
      omega
    refine ⟨t.failingAt f, ⟨t, h, failure_eq, rfl⟩, ?_⟩
    show (t.failingAt f).read _ _ = _
    rw [read, hleft, if_pos less]
  fails := by
    rintro _ front bs rest ⟨t, h, rfl, rfl⟩ hc pos lt
    have fits : front.length + bs.length ≤ input.size := by
      rw [size_of_append hc, List.length_append]
      omega
    rw [List.length_append] at lt
    exact read_past_fault h (List.length_pos_iff.mpr pos) fits lt

/-- Measuring a device that will fail goes as well as measuring one that will not. -/
theorem ofDevice_failingAt {d : Device} (seeks : d.seekFails = false) (f : Nat) :
    SeekSource.ofDevice (d.failingAt f) =
      .ok (failingAt ⟨d.movedTo 0, d.content.size⟩ f) := by
  simp [SeekSource.ofDevice, Device.seek, Device.failingAt, failingAt, Device.movedTo, seeks]

end SeekSource

namespace Store

/-! ### The loop -/

section Loop

variable {σ : Type} [ByteSource σ] {I : σ → Prop} {content front rest : List UInt8} {f : Nat}
  {e : ReadError} {options : DecodeOptions} {source : σ}

/-- If the fault lies within what is looked at next, it is come upon. -/
theorem decodeSetsFrom_lost (options : DecodeOptions) (first : Bool)
    (faulty : FailsPast I content f e) (hI : I source) (hc : front ++ rest = content)
    (lt : f < front.length + reach rest) (le : front.length ≤ f) :
    decodeSetsFrom options content.length first front.length source = .error (.read e) := by
  obtain short | ⟨size, more, rfl⟩ := short_or_word32 rest
  · rw [reach_short short] at lt
    omega
  by_cases four : front.length + 4 ≤ f
  · -- The size is given, so what is not is the set that it declares.
    obtain ⟨source₁, hI₁, e₁⟩ :=
      decodeSetsFrom_of_size options first faulty.toServesUpTo hI hc four
    have whole : ¬ (size.toNat < PropertySet.headerSize ∨
        (word32 size ++ more).length < size.toNat) := by
      intro h
      rw [reach_word32, if_pos h] at lt
      omega
    rw [reach_word32, if_neg whole] at lt
    obtain ⟨large, fits⟩ := not_or.mp whole
    have nonzero : size ≠ 0 := by
      rintro rfl
      exact large (by decide)
    obtain less | ⟨bs, left, hlen, hsplit⟩ := short_or_split size.toNat (word32 size ++ more)
    · exact absurd less fits
    rw [hsplit] at hc
    have nonempty : bs ≠ [] := by
      rintro rfl
      exact large (by rw [← hlen]; decide)
    have past : f < (front ++ bs).length := by rwa [List.length_append, hlen]
    obtain ⟨source₂, e₂⟩ := faulty.fails hI₁ hc nonempty past
    rw [hlen] at e₂
    rw [e₁, if_neg nonzero, if_neg large, e₂]
  · have goes :
        ¬ (content.length ≤ front.length ∨ content.length - front.length < 4 ∧ first = false) := by
      rw [← hc, List.length_append, List.length_append, length_word32]
      omega
    have nonempty : word32 size ≠ [] := List.ne_nil_of_length_pos (by simp)
    have past : f < (front ++ word32 size).length := by
      rw [List.length_append, length_word32]
      omega
    obtain ⟨source', e'⟩ := faulty.fails hI hc nonempty past
    rw [length_word32] at e'
    rw [decodeSetsFrom, if_neg goes, e']

/-- If the fault lies within the sets, it is come upon. -/
theorem decodeSetsFrom_run_lost (first : Bool) (faulty : FailsPast I content f e)
    {bs : List UInt8} {sets : List PropertySet} (run : Run (IsSet options) bs sets) (hI : I source)
    (hc : front ++ (bs ++ rest) = content) (lt : f < (front ++ bs).length)
    (le : front.length ≤ f) :
    decodeSetsFrom options content.length first front.length source = .error (.read e) := by
  induction run generalizing front first source with
  | nil =>
    rw [List.append_nil] at lt
    omega
  | @cons part more s sets isSet _ ih =>
    rw [List.append_assoc] at hc
    by_cases le' : (front ++ part).length ≤ f
    · obtain ⟨source₁, hI₁, e₁⟩ :=
        decodeSetsFrom_step first faulty.toServesUpTo hI isSet hc le'
      rw [← List.append_assoc] at hc lt
      rw [e₁, ih false hI₁ hc lt le', error_map]
    · refine decodeSetsFrom_lost options first faulty hI hc ?_ le
      rw [List.length_append] at le'
      rw [reach_of_isSet isSet]
      omega

/-- A source that fails past `f` gives only the failure, if reading has to look further. -/
theorem decodeSource_lost {input : Array UInt8} {sets : List PropertySet}
    (faulty : FailsPast I input.toList f e) (hI : I source) (run : Run (IsSet options) front sets)
    (hinput : front ++ rest = input.toList) (lt : f < front.length + reach rest) :
    decodeSource options source = .error (.read e) := by
  have atStart : [] ++ (front ++ rest) = input.toList := hinput
  suffices lost : decodeSetsFrom options input.toList.length true 0 source = .error (.read e) by
    rw [decodeSource, faulty.size_eq hI]
    simp only [lost, error_map]
  by_cases le : front.length ≤ f
  · obtain ⟨source', hI', e₁⟩ :=
      decodeSetsFrom_run true faulty.toServesUpTo run hI atStart le
    rw [List.nil_append, decodeSetsFrom_lost options _ faulty hI' hinput lt le, error_map] at e₁
    exact e₁
  · exact decodeSetsFrom_run_lost true faulty run hI atStart (Nat.lt_of_not_le le) (Nat.zero_le f)

end Loop

/-! ### How far reading looks -/

/-- Reading comes to this after the sets that end at `start`, and looks at the bytes up to this
position for it, if these bytes follow the sets. -/
inductive Looks (options : DecodeOptions) (start : Nat) :
    List UInt8 → Except DecodeError Store → Nat → Prop where
  /-- Nothing is left, or a fragment that is passed over. -/
  | rest {rest : List UInt8} (less : rest.length < 4) (store : Store) :
    Looks options start rest (.ok store) start
  /-- A size of zero ends the store. -/
  | terminator (rest : List UInt8) (store : Store) :
    Looks options start (word32 0 ++ rest) (.ok store) (start + 4)
  /-- There is something, but not even a size. -/
  | fragment {rest : List UInt8} (none : start = 0) (pos : rest ≠ []) (less : rest.length < 4)
    (e : DecodeError) : Looks options start rest (.error e) 0
  /-- The size leaves no room for the header. -/
  | small {size : UInt32} (pos : size ≠ 0) (less : size.toNat < PropertySet.headerSize)
    (rest : List UInt8) (e : DecodeError) :
    Looks options start (word32 size ++ rest) (.error e) (start + 4)
  /-- The set would be longer than what is left. -/
  | beyond {size : UInt32} {rest : List UInt8} (header : PropertySet.headerSize ≤ size.toNat)
    (less : (word32 size ++ rest).length < size.toNat) (e : DecodeError) :
    Looks options start (word32 size ++ rest) (.error e) (start + 4)
  /-- The set is there, and reading it fails. -/
  | inside {size : UInt32} {body : List UInt8} {e : DecodeError}
    (header : PropertySet.headerSize ≤ size.toNat)
    (length_eq : (word32 size ++ body).length = size.toNat)
    (failed : PropertySet.decode options (.ofBytes (word32 size ++ body).toArray start) = .error e)
    (rest : List UInt8) :
    Looks options start (word32 size ++ (body ++ rest)) (.error e) (start + size.toNat)

variable {options : DecodeOptions} {start : Nat} {rest : List UInt8} {first : Bool}

theorem looks_of_isEnd (isEnd : IsEnd first rest) (store : Store) :
    Looks options start rest (.ok store) (start + reach rest) := by
  cases isEnd with
  | none =>
    have less : ([] : List UInt8).length < 4 := Nat.succ_pos 3
    rw [reach_short less]
    exact Looks.rest less store
  | terminator first rest =>
    rw [reach_word32, if_pos (Or.inl (by decide))]
    exact Looks.terminator rest store
  | fragment pos less =>
    rw [reach_short less]
    exact Looks.rest less store

theorem looks_of_storeDefect {e : DecodeError} (defect : StoreDefect options first start rest e)
    (none : first = true → start = 0) :
    Looks options start rest (.error e) (start + reach rest) := by
  cases defect with
  | fragment pos less =>
    rw [reach_short less, none rfl]
    exact Looks.fragment rfl pos less _
  | @set _ _ size rest _ pos defect =>
    obtain ⟨less, rfl⟩ | ⟨header, ⟨less, rfl⟩ | ⟨body, more, rfl, length_eq, defect⟩⟩ :=
      defect.of_size
    · have tiny : size.toNat < PropertySet.headerSize := less
      rw [reach_word32, if_pos (Or.inl tiny)]
      exact Looks.small pos tiny rest _
    · rw [reach_word32, if_pos (Or.inr less)]
      exact Looks.beyond header less _
    · rw [reach_whole more header length_eq]
      exact Looks.inside header length_eq
        (PropertySet.decode_buffer_of_bodyDefect header length_eq defect) more

/-- Bytes in memory do not fail as a device does. -/
theorem decode_ne_device (options : DecodeOptions) (input : Array UInt8) (d : Device) :
    decode options input ≠ .error (.read d.failure) := by
  intro h
  obtain ⟨front, rest, sets, -, -, defect⟩ := ((decode_settles options input).error_iff _).mp h
  obtain ⟨offset, found, -⟩ := defect.from_start
  cases found

variable {front : List UInt8} {sets : List PropertySet} {input : Array UInt8}

/-- After a run of sets the result says how far reading has looked. -/
theorem looks_of_run (run : Run (IsSet options) front sets) (hinput : front ++ rest = input.toList)
    (hrest : IsEnd sets.isEmpty rest ∨ ∃ e, StoreDefect options sets.isEmpty front.length rest e) :
    Looks options front.length rest (decode options input) (front.length + reach rest) := by
  obtain isEnd | ⟨e, defect⟩ := hrest
  · rw [decode_of_isEnd run isEnd hinput]
    exact looks_of_isEnd isEnd _
  · rw [decode_of_storeDefect run defect hinput]
    refine looks_of_storeDefect defect fun none => ?_
    rw [run.length_sets, List.isEmpty_iff.mp none, PropertySet.totalSize]

/-- A store that comes of a run of sets and something after them has these sets. -/
theorem sets_of_run (run : Run (IsSet options) front sets) (hinput : front ++ rest = input.toList)
    (hrest : IsEnd sets.isEmpty rest ∨ ∃ e, StoreDefect options sets.isEmpty front.length rest e)
    {store : Store} (hok : decode options input = .ok store) : store.sets = sets := by
  obtain isEnd | ⟨e, defect⟩ := hrest
  · rw [decode_of_isEnd run isEnd hinput] at hok
    cases hok
    rfl
  · rw [decode_of_storeDefect run defect hinput] at hok
    cases hok

/-- **A device that fails is read whole or not at all.** There is a position up to which reading
looks, a little past the sets that can be read or to the end of the one that cannot. If the device
fails there or later, what comes of it is what comes of its bytes in memory, store or failure. If it
fails before, what comes of it is the failure of the device and no store. And the device is not
asked for a range that runs past its end. -/
theorem decodeSource_failingAt (options : DecodeOptions) {d : Device} (healthy : d.Healthy)
    (seeks : d.seekFails = false) :
    (∃ sets start last, start = PropertySet.totalSize sets ∧
      decode options (d.content.extract 0 start) = .ok ⟨sets, start⟩ ∧
      (∀ store, decode options d.content = .ok store → store.sets = sets) ∧
      Looks options start (d.content.toList.drop start) (decode options d.content) last ∧
      ∀ f, ∃ s, SeekSource.ofDevice (d.failingAt f) = .ok s ∧
        (decodeSource options s = decode options d.content ∨
          ∃ e, decodeSource options s = .error e ∧ e.kind = .device ∧ e.offset? = none) ∧
        (decodeSource options s = decode options d.content ↔ last ≤ f)) ∧
    ∀ (s : SeekSource) (offset n : Nat), s.length - offset < n →
      s.read offset n = (.error (.outOfData offset n (s.length - offset)), s) := by
  refine ⟨?_, fun s offset n outside => by rw [SeekSource.read, if_pos outside]⟩
  obtain ⟨front, rest, sets, hcontent, run, hrest⟩ :=
    sets_then_end_or_defect options d.content.toList
  refine ⟨sets, front.length, front.length + reach rest, run.length_sets,
    decode_extract_of_run run hcontent, fun store => sets_of_run run hcontent hrest, ?_, ?_⟩
  · rw [← hcontent, List.drop_left]
    exact looks_of_run run hcontent hrest
  intro f
  have faulty := SeekSource.failsPast d.content f d.failure
  have failing : SeekSource.Failing d.content f d.failure
      (SeekSource.failingAt ⟨d.movedTo 0, d.content.size⟩ f) :=
    ⟨_, ⟨⟨healthy.faultAt_eq, healthy.portion_pos⟩, seeks, rfl, rfl⟩, rfl, rfl⟩
  refine ⟨_, SeekSource.ofDevice_failingAt seeks f, ?_⟩
  by_cases le : front.length + reach rest ≤ f
  · have same := decodeSource_of_servesUpTo faulty.toServesUpTo failing run hrest hcontent le
    exact ⟨Or.inl same, iff_of_true same le⟩
  · have lost := decodeSource_lost faulty failing run hcontent (Nat.lt_of_not_le le)
    refine ⟨Or.inr ⟨_, lost, rfl, rfl⟩, iff_of_false (fun same => ?_) le⟩
    exact decode_ne_device options d.content d (same ▸ lost)

/-- A store of 26 bytes, of which the last two are passed over, is read although the device fails
at them, and is not read if the device fails at the last byte before them. -/
theorem decodeSource_failingAt_fragment :
    (∃ s, SeekSource.ofDevice ((Device.growing (bareThen [7, 7])).failingAt 24) = .ok s ∧
      decodeSource {} s = .ok ⟨[.bare .zero], 26⟩) ∧
    ∃ s e, SeekSource.ofDevice ((Device.growing (bareThen [7, 7])).failingAt 23) = .ok s ∧
      decodeSource {} s = .error e ∧ e.kind = .device := by
  obtain ⟨⟨sets, start, last, hstart, -, hsets, looks, hall⟩, -⟩ :=
    decodeSource_failingAt {} (Device.growing_healthy (bareThen [7, 7])) rfl
  have hdecode : decode {} (Device.growing (bareThen [7, 7])).content = .ok ⟨[.bare .zero], 26⟩ :=
    decode_fragment
  obtain rfl : sets = [.bare .zero] := (hsets _ hdecode).symm
  have last_eq : last = 24 := by
    have hrest : (Device.growing (bareThen [7, 7])).content.toList.drop start = [7, 7] := by
      rw [hstart]
      rfl
    rw [hdecode, hrest] at looks
    generalize hbs : [(7 : UInt8), 7] = bs at looks
    cases looks with
    | rest less store => exact hstart
    | terminator rest store =>
      have := congrArg List.length hbs
      simp at this
      omega
  constructor
  · obtain ⟨s, hs, -, whole⟩ := hall 24
    exact ⟨s, hs, (whole.mpr (Nat.le_of_eq last_eq)).trans hdecode⟩
  · obtain ⟨s, hs, same | ⟨e, failed, kind, -⟩, whole⟩ := hall 23
    · exact absurd (whole.mp same) (by omega)
    · exact ⟨s, e, hs, failed, kind⟩

end Store

end PropertyStore
