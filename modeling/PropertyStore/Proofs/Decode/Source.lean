import PropertyStore.Proofs.Decode.Store
import PropertyStore.Proofs.Device
import PropertyStore.Store.FromSource

/-!
# Reading a store from a source

Reading a store from a source is a loop of its own: it asks for the size of a set, then for
the set, and reads the set from a buffer that holds nothing else. It comes to the same, in
every outcome (`decodeSource_of_serves`): the loops take off the same sets, stop at the same
ends, and fail with the same defects, so the grammar of stores answers for both.

All that is asked of a source is `Serves`: it gives every range of its content and refuses
what runs past the end. Bytes in memory serve, and so does a device that works, however it
cuts its deliveries (`decodeSource_eq_decode`). The loop does not even need every range: past the
sets it looks only so far (`reach`), and that is how far a source has to give what it is asked
for (`ServesUpTo`).
-/

namespace PropertyStore

open LittleEndian

/-- A source of which `I` holds gives the ranges of `content` and refuses what runs past its end;
`I` holds again after each read. -/
structure Serves {σ : Type} [ByteSource σ] (I : σ → Prop) (content : List UInt8) : Prop where
  size_eq {s : σ} (h : I s) : ByteSource.size s = content.length
  gives {s : σ} {front bs rest : List UInt8} (h : I s) (hc : front ++ (bs ++ rest) = content) :
    ∃ s', I s' ∧ ByteSource.read s front.length bs.length = (.ok bs, s')
  refuses {s : σ} {front rest : List UInt8} {n : Nat} (h : I s) (hc : front ++ rest = content)
    (less : rest.length < n) :
    ∃ s', I s' ∧ ByteSource.read s front.length n =
      (.error (.outOfData front.length n rest.length), s')

/-- The same, but the source gives only ranges that end at `f` or before. -/
structure ServesUpTo {σ : Type} [ByteSource σ] (I : σ → Prop) (content : List UInt8) (f : Nat) :
    Prop where
  size_eq {s : σ} (h : I s) : ByteSource.size s = content.length
  gives {s : σ} {front bs rest : List UInt8} (h : I s) (hc : front ++ (bs ++ rest) = content)
    (le : (front ++ bs).length ≤ f) :
    ∃ s', I s' ∧ ByteSource.read s front.length bs.length = (.ok bs, s')
  refuses {s : σ} {front rest : List UInt8} {n : Nat} (h : I s) (hc : front ++ rest = content)
    (less : rest.length < n) :
    ∃ s', I s' ∧ ByteSource.read s front.length n =
      (.error (.outOfData front.length n rest.length), s')

/-! ### Sources that serve -/

theorem Serves.upTo {σ : Type} [ByteSource σ] {I : σ → Prop} {content : List UInt8}
    (serves : Serves I content) (f : Nat) : ServesUpTo I content f where
  size_eq := serves.size_eq
  gives h hc _ := serves.gives h hc
  refuses := serves.refuses

theorem extract_of_append {input : Array UInt8} {front bs rest : List UInt8}
    (h : front ++ (bs ++ rest) = input.toList) :
    (input.extract front.length (front.length + bs.length)).toList = bs := by
  rw [Array.toList_extract, List.extract_eq_take_drop, ← h, List.drop_left, Nat.add_sub_cancel_left,
    List.take_left]

theorem size_of_append {input : Array UInt8} {front rest : List UInt8}
    (h : front ++ rest = input.toList) :
    input.size = front.length + rest.length := by
  rw [← Array.length_toList, ← h, List.length_append]

/-- Bytes in memory serve. -/
theorem MemorySource.serves (input : Array UInt8) :
    Serves (fun s : MemorySource => s.bytes = input) input.toList where
  size_eq := by
    rintro s rfl
    rfl
  gives := by
    rintro s front bs rest rfl hc
    have fits : front.length + bs.length ≤ s.bytes.size := by
      rw [size_of_append hc, List.length_append]
      omega
    refine ⟨s, rfl, ?_⟩
    show (s.read _ _, s) = _
    rw [MemorySource.read, if_pos fits, extract_of_append hc]
  refuses := by
    rintro s front rest n rfl hc less
    have hsize := size_of_append hc
    refine ⟨s, rfl, ?_⟩
    show (s.read _ _, s) = _
    rw [MemorySource.read, if_neg (by omega)]
    simp only [hsize, Nat.min_eq_left (Nat.le_add_right ..), Nat.add_sub_cancel_left]

/-- The source is a device that works, and its length is known. -/
structure SeekSource.Healthy (input : Array UInt8) (s : SeekSource) : Prop where
  device : s.device.Healthy
  seeks : s.device.seekFails = false
  content_eq : s.device.content = input
  length_eq : s.length = input.size

/-- A device that works gives a range at any offset, or says how much is left from there; and it
works again. A range of no bytes is given past the end too. -/
theorem SeekSource.read_of_healthy {input : Array UInt8} {s : SeekSource} (h : s.Healthy input)
    (offset n : Nat) :
    ∃ s', SeekSource.Healthy input s' ∧ s.read offset n =
      (if input.size - offset < n then .error (.outOfData offset n (input.size - offset))
        else .ok ((input.toList.drop offset).take n), s') := by
  rw [read, h.length_eq]
  by_cases less : input.size - offset < n
  · rw [if_pos less, if_pos less]
    exact ⟨s, h, rfl⟩
  · have sought : s.device.seek offset = .ok { s.device with position := offset } := by
      simp [Device.seek, h.seeks]
    have works : Device.Healthy { s.device with position := offset } :=
      ⟨h.device.faultAt_eq, h.device.portion_pos⟩
    have hundelivered : Device.undelivered { s.device with position := offset } =
        input.toList.drop offset := by
      rw [Device.undelivered, h.content_eq]
    obtain ⟨d, e, moves⟩ := Device.fill_of_healthy works n
    have enough : ¬ ((input.toList.drop offset).take n).length < n := by
      rw [List.length_take, List.length_drop, Array.length_toList]
      omega
    rw [hundelivered] at e
    refine ⟨{ s with device := d }, ⟨moves.healthy works, ?_, moves.content_eq.trans h.content_eq,
      h.length_eq⟩, ?_⟩
    · obtain ⟨reads, rfl⟩ := moves
      exact h.seeks
    · rw [if_neg less, if_neg less, sought]
      simp only [Device.readExact, e, if_neg enough, h.length_eq]

/-- A device that works serves. -/
theorem SeekSource.serves (input : Array UInt8) :
    Serves (SeekSource.Healthy input) input.toList where
  size_eq := fun h => h.length_eq
  gives := by
    intro s front bs rest h hc
    have hsize := size_of_append hc
    rw [List.length_append] at hsize
    obtain ⟨s', h', e⟩ := SeekSource.read_of_healthy h front.length bs.length
    rw [if_neg (by omega), ← hc, List.drop_left, List.take_left] at e
    exact ⟨s', h', e⟩
  refuses := by
    intro s front rest n h hc less
    have hleft : input.size - front.length = rest.length := by
      rw [size_of_append hc]
      omega
    obtain ⟨s', h', e⟩ := SeekSource.read_of_healthy h front.length n
    rw [hleft, if_pos less] at e
    exact ⟨s', h', e⟩

/-- Measuring a device that works gives a source that works, wherever the device stood. -/
theorem SeekSource.ofDevice_of_healthy {d : Device} (h : d.Healthy) (seeks : d.seekFails = false) :
    ∃ s, SeekSource.ofDevice d = .ok s ∧ SeekSource.Healthy d.content s := by
  refine ⟨⟨{ d with position := 0 }, d.content.size⟩, ?_, ⟨h.faultAt_eq, h.portion_pos⟩, seeks,
    rfl, rfl⟩
  simp [SeekSource.ofDevice, Device.seek, seeks]

namespace Store

/-! ### The loop -/

variable {σ : Type} [ByteSource σ] {I : σ → Prop} {content front rest : List UInt8} {f : Nat}
  {options : DecodeOptions} {first : Bool} {source : σ}

/-- How many of the bytes after the sets of a store are looked at: their size, if there is one, and
all that it declares, if that can be a set and is there. -/
def reach (rest : List UInt8) : Nat :=
  if rest.length < 4 then 0
  else if toNat (rest.take 4) < PropertySet.headerSize ∨ rest.length < toNat (rest.take 4) then 4
  else toNat (rest.take 4)

theorem reach_short (less : rest.length < 4) : reach rest = 0 := if_pos less

theorem reach_word32 (size : UInt32) (rest : List UInt8) :
    reach (word32 size ++ rest) =
      if size.toNat < PropertySet.headerSize ∨ (word32 size ++ rest).length < size.toNat then 4
      else size.toNat := by
  have long : ¬ (word32 size ++ rest).length < 4 := by
    rw [List.length_append, length_word32]
    omega
  have htake : (word32 size ++ rest).take 4 = word32 size := List.take_left' (length_word32 size)
  rw [reach, if_neg long, htake, toNat_word32]

theorem four_le_reach (size : UInt32) (rest : List UInt8) : 4 ≤ reach (word32 size ++ rest) := by
  rw [reach_word32, PropertySet.headerSize]
  split <;> omega

/-- If a whole set is declared and is there, it is looked at. -/
theorem reach_whole {size : UInt32} {body : List UInt8} (rest : List UInt8)
    (header : PropertySet.headerSize ≤ size.toNat)
    (length_eq : (word32 size ++ body).length = size.toNat) :
    reach (word32 size ++ (body ++ rest)) = size.toNat := by
  refine (reach_word32 size _).trans (if_neg ?_)
  rw [← List.append_assoc, List.length_append, length_eq]
  omega

theorem reach_of_isSet {bs : List UInt8} {s : PropertySet} (isSet : IsSet options bs s)
    (rest : List UInt8) : reach (bs ++ rest) = bs.length := by
  have hsize := isSet.length_eq
  have header := isSet.header_le
  obtain ⟨-, body, rfl⟩ := isSet.starts
  rw [List.append_assoc, reach_whole rest (hsize ▸ header) hsize, hsize]

/-- A turn of the loop over bytes that begin with a size. -/
theorem decodeSetsFrom_of_size (options : DecodeOptions) (first : Bool)
    (serves : ServesUpTo I content f) (hI : I source) {size : UInt32}
    (hc : front ++ (word32 size ++ rest) = content) (le : front.length + 4 ≤ f) :
    ∃ source', I source' ∧ decodeSetsFrom options content.length first front.length source =
      if size = 0 then .ok []
      else if size.toNat < PropertySet.headerSize then
        .error (.sizeMismatch front.length size.toNat (word32 size ++ rest).length)
      else match ByteSource.read source' front.length size.toNat with
        | (.error e, _) => .error (.read e)
        | (.ok bytes, source) =>
          match PropertySet.decode options (.ofBytes bytes.toArray front.length) with
          | .error e => .error e
          | .ok (set, _) =>
            (decodeSetsFrom options content.length false (front.length + size.toNat) source).map
              (set :: ·) := by
  obtain ⟨source', hI', e⟩ :=
    serves.gives hI hc (by rwa [List.length_append, length_word32])
  have hlen : content.length = front.length + (word32 size ++ rest).length := by
    rw [← hc, List.length_append]
  have goes :
      ¬ (content.length ≤ front.length ∨ content.length - front.length < 4 ∧ first = false) := by
    rw [hlen, List.length_append, length_word32]
    omega
  have hleft : content.length - front.length = (word32 size ++ rest).length := by omega
  rw [length_word32] at e
  refine ⟨source', hI', ?_⟩
  rw [decodeSetsFrom, if_neg goes, e]
  simp only [toNat_word32, toNat_eq_zero_iff]
  exact hleft ▸ rfl

/-- An end ends the loop. -/
theorem decodeSetsFrom_of_isEnd (serves : ServesUpTo I content f) (hI : I source)
    (isEnd : IsEnd first rest) (hc : front ++ rest = content)
    (le : front.length + reach rest ≤ f) :
    decodeSetsFrom options content.length first front.length source = .ok [] := by
  have hlen : content.length = front.length + rest.length := by rw [← hc, List.length_append]
  cases isEnd with
  | none =>
    have stops : content.length ≤ front.length := Nat.le_of_eq hlen
    rw [decodeSetsFrom, if_pos (Or.inl stops)]
  | terminator first rest =>
    have := four_le_reach 0 rest
    obtain ⟨source', -, e⟩ := decodeSetsFrom_of_size options first serves hI hc (by omega)
    rw [e, if_pos rfl]
  | fragment pos less => rw [decodeSetsFrom, if_pos (Or.inr ⟨by omega, rfl⟩)]

/-- A set is taken off. -/
theorem decodeSetsFrom_step (first : Bool) (serves : ServesUpTo I content f) (hI : I source)
    {bs : List UInt8}
    {s : PropertySet} (isSet : IsSet options bs s) (hc : front ++ (bs ++ rest) = content)
    (le : (front ++ bs).length ≤ f) :
    ∃ source', I source' ∧ decodeSetsFrom options content.length first front.length source =
      (decodeSetsFrom options content.length false (front ++ bs).length source').map (s :: ·) := by
  have hsize := isSet.length_eq
  have header := isSet.header_le
  obtain ⟨nonzero, body, hbody⟩ := isSet.starts
  have hc' : front ++ (word32 s.size ++ (body ++ rest)) = content := by
    rw [← hc, hbody, List.append_assoc]
  have four : front.length + 4 ≤ f := by
    rw [List.length_append] at le
    rw [PropertySet.headerSize] at header
    omega
  obtain ⟨source₁, hI₁, e₁⟩ := decodeSetsFrom_of_size options first serves hI hc' four
  obtain ⟨source₂, hI₂, e₂⟩ := serves.gives hI₁ hc le
  obtain ⟨d, e₃⟩ := PropertySet.decode_buffer_of_isSet isSet front.length
  rw [hsize] at e₂ header
  refine ⟨source₂, hI₂, ?_⟩
  rw [e₁, if_neg nonzero, if_neg (Nat.not_lt.mpr header), e₂, List.length_append, hsize]
  simp only [e₃]

/-- All sets that come first are taken off. -/
theorem decodeSetsFrom_run (first : Bool) (serves : ServesUpTo I content f) {bs : List UInt8}
    {sets : List PropertySet}
    (run : Run (IsSet options) bs sets) (hI : I source) (hc : front ++ (bs ++ rest) = content)
    (le : (front ++ bs).length ≤ f) :
    ∃ source', I source' ∧ decodeSetsFrom options content.length first front.length source =
      (decodeSetsFrom options content.length (first && sets.isEmpty) (front ++ bs).length
        source').map (sets ++ ·) := by
  induction run generalizing front first source with
  | nil =>
    refine ⟨source, hI, ?_⟩
    rw [List.isEmpty_nil, Bool.and_true, List.append_nil]
    cases decodeSetsFrom options content.length first front.length source <;> rfl
  | @cons part more s sets isSet _ ih =>
    rw [List.append_assoc] at hc
    rw [← List.append_assoc] at le
    have le' : (front ++ part).length ≤ f := by
      rw [List.length_append] at le
      omega
    obtain ⟨source₁, hI₁, e₁⟩ := decodeSetsFrom_step first serves hI isSet hc le'
    rw [← List.append_assoc] at hc
    obtain ⟨source₂, hI₂, e₂⟩ := ih false hI₁ hc le
    refine ⟨source₂, hI₂, ?_⟩
    rw [e₁, e₂, List.isEmpty_cons, Bool.and_false, Bool.false_and, List.append_assoc]
    cases decodeSetsFrom options content.length false (front ++ (part ++ more)).length source₂ <;>
      rfl

/-- A defect ends the loop with a failure. -/
theorem decodeSetsFrom_of_storeDefect (serves : ServesUpTo I content f) (hI : I source)
    {e : DecodeError}
    (defect : StoreDefect options first front.length rest e) (hc : front ++ rest = content)
    (le : front.length + reach rest ≤ f) :
    decodeSetsFrom options content.length first front.length source = .error e := by
  have hlen : content.length = front.length + rest.length := by rw [← hc, List.length_append]
  cases defect with
  | fragment pos less =>
    obtain ⟨source', -, e⟩ := serves.refuses hI hc less
    have := List.length_pos_iff.mpr pos
    rw [decodeSetsFrom, if_neg (by simp; omega), e]
  | @set _ _ size rest _ pos defect =>
    have := four_le_reach size rest
    obtain ⟨source₁, hI₁, e₁⟩ := decodeSetsFrom_of_size options first serves hI hc (by omega)
    rw [e₁, if_neg pos]
    obtain ⟨less, rfl⟩ | ⟨header, ⟨less, rfl⟩ | ⟨body, more, rfl, length_eq, defect⟩⟩ :=
      defect.of_size
    · exact if_pos less
    · have large : ¬ size.toNat < PropertySet.headerSize := Nat.not_lt.mpr header
      obtain ⟨source₂, -, e₂⟩ := serves.refuses hI₁ hc less
      rw [if_neg large, e₂]
    · have large : ¬ size.toNat < PropertySet.headerSize := Nat.not_lt.mpr header
      rw [reach_whole more header length_eq, ← length_eq, ← List.length_append] at le
      rw [← List.append_assoc (word32 size)] at hc
      obtain ⟨source₂, -, e₂⟩ := serves.gives hI₁ hc le
      rw [length_eq] at e₂
      rw [if_neg large, e₂]
      simp only [PropertySet.decode_buffer_of_bodyDefect header length_eq defect]

/-! ### The whole store -/

/-- A source that serves as far as reading looks is read like its content. -/
theorem decodeSource_of_servesUpTo {input : Array UInt8} {sets : List PropertySet}
    (serves : ServesUpTo I input.toList f) (hI : I source) (run : Run (IsSet options) front sets)
    (hrest : IsEnd sets.isEmpty rest ∨ ∃ e, StoreDefect options sets.isEmpty front.length rest e)
    (hinput : front ++ rest = input.toList) (le : front.length + reach rest ≤ f) :
    decodeSource options source = decode options input := by
  have hsize : ByteSource.size source = input.size := by rw [serves.size_eq hI, Array.length_toList]
  have atStart : [] ++ (front ++ rest) = input.toList := hinput
  have le' : ([] ++ front).length ≤ f := by
    rw [List.nil_append]
    omega
  obtain ⟨source', hI', e⟩ := decodeSetsFrom_run true serves run hI atStart le'
  rw [Bool.true_and, List.nil_append, List.length_nil] at e
  obtain isEnd | ⟨failure, defect⟩ := hrest
  · rw [decodeSetsFrom_of_isEnd serves hI' isEnd hinput le, ok_map, List.append_nil,
      Array.length_toList] at e
    rw [decode_of_isEnd run isEnd hinput, decodeSource, hsize]
    simp only [e, ok_map]
  · rw [decodeSetsFrom_of_storeDefect serves hI' defect hinput le, error_map,
      Array.length_toList] at e
    rw [decode_of_storeDefect run defect hinput, decodeSource, hsize]
    simp only [e, error_map]

/-- **A source that serves is read like its content**, in every outcome. -/
theorem decodeSource_of_serves (options : DecodeOptions) {input : Array UInt8}
    (serves : Serves I input.toList)
    (hI : I source) : decodeSource options source = decode options input := by
  obtain ⟨front, rest, sets, hinput, run, hrest⟩ := sets_then_end_or_defect options input.toList
  exact decodeSource_of_servesUpTo (serves.upTo _) hI run hrest hinput (Nat.le_refl _)

/-- **A store is the same from memory, from a source of bytes, and from a device that works**,
store or failure, whatever portions the device delivers. -/
theorem decodeSource_eq_decode (options : DecodeOptions) (input : Array UInt8) :
    decodeSource options (MemorySource.mk input) = decode options input ∧
      ∀ d : Device, d.Healthy → d.seekFails = false → d.content = input →
        ∃ s, SeekSource.ofDevice d = .ok s ∧ decodeSource options s = decode options input := by
  refine ⟨decodeSource_of_serves options (MemorySource.serves input) rfl, ?_⟩
  rintro d healthy seeks rfl
  obtain ⟨s, e, hs⟩ := SeekSource.ofDevice_of_healthy healthy seeks
  exact ⟨s, e, decodeSource_of_serves options (SeekSource.serves d.content) hs⟩

/-- A device whose portions grow, with a store that is cut off and one that is wrong. -/
theorem decodeSource_growing :
    (∃ s, SeekSource.ofDevice (.growing (bareThen [7, 7])) = .ok s ∧
      decodeSource {} s = .ok ⟨[.bare .zero], 26⟩) ∧
    ∃ s, SeekSource.ofDevice (.growing (bareThen (word32 7))) = .ok s ∧
      decodeSource {} s = .error (.sizeMismatch 24 7 4) := by
  constructor
  · rw [← decode_fragment]
    exact (decodeSource_eq_decode {} _).2 (.growing _) (Device.growing_healthy _) rfl rfl
  · rw [← decode_small]
    exact (decodeSource_eq_decode {} _).2 (.growing _) (Device.growing_healthy _) rfl rfl

end Store

end PropertyStore
