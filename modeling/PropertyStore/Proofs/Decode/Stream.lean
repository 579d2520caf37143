import PropertyStore.Proofs.Decode.Store
import PropertyStore.Proofs.Device
import PropertyStore.Store.Stream

/-!
# Reading a store from a stream

A stream gives the sets of a store one at a time, and takes from the device the size of a
set and then the rest of it. Asked again and again it gives what reading in memory gives
(`results_eq_decode`): the sets of the store and then nothing, or the sets before the defect,
then the failure, then nothing.

The failure is the same in every particular but one. When the size of a set leaves no room
for its header, the stream has taken four bytes and does not know how many are left; so it
says that four were available (`told`).
-/

namespace PropertyStore.Stream

open LittleEndian

/-- What a stream gives, asked `n` times. -/
def results : Nat → Stream → List (Option (Except DecodeError PropertySet))
  | 0, _ => []
  | n + 1, s => s.next.1 :: results n s.next.2

/-- A failure as a stream tells it, of which the failing set starts at `start`. -/
def told (start : Nat) : DecodeError → DecodeError
  | .sizeMismatch offset declared available =>
    if offset = start ∧ declared < PropertySet.headerSize then .sizeMismatch offset declared 4
    else .sizeMismatch offset declared available
  | e => e

/-- The stream goes on at `offset`, and its device works and has yet to deliver `bs`. -/
structure Ready (options : DecodeOptions) (offset : Nat) (bs : List UInt8) (s : Stream) : Prop where
  goes : s.ended = false
  options_eq : s.options = options
  offset_eq : s.offset = offset
  healthy : s.device.Healthy
  undelivered_eq : s.device.undelivered = bs

variable {options : DecodeOptions} {o : Nat} {bs rest : List UInt8} {s : Stream}

/-! ### One set -/

/-- The rest of a set that is there. -/
theorem readBody_append (options_eq : s.options = options) {size : UInt32} {body : List UInt8}
    {device : Device}
    (healthy : device.Healthy) (length_eq : (word32 size ++ body).length = size.toNat)
    (hdevice : device.undelivered = body ++ rest) :
    ∃ device', device'.Healthy ∧ device'.undelivered = rest ∧
      s.readBody (word32 size) device =
        ((PropertySet.decode options (.ofBytes (word32 size ++ body).toArray s.offset)).map
          fun (set, _) => some set, device') := by
  obtain ⟨device', e, healthy', hrest⟩ := Device.fill_append healthy hdevice
  have hlen : size.toNat - 4 = body.length := by
    rw [← length_eq, List.length_append, length_word32, Nat.add_sub_cancel_left]
  refine ⟨device', healthy', hrest, ?_⟩
  simp only [readBody, toNat_word32, hlen, e, if_neg (Nat.lt_irrefl _), options_eq]

/-- The rest of a set that is not. -/
theorem readBody_short {size : UInt32} {device : Device} (healthy : device.Healthy)
    (less : (word32 size ++ device.undelivered).length < size.toNat) :
    ∃ device', s.readBody (word32 size) device =
      (.error (.read (.outOfData s.offset size.toNat (word32 size ++ device.undelivered).length)),
        device') := by
  rw [List.length_append, length_word32] at less
  have less' : device.undelivered.length < size.toNat - 4 := by omega
  obtain ⟨device', e⟩ := Device.fill_short healthy less'
  refine ⟨device', ?_⟩
  simp only [readBody, toNat_word32, e, if_pos less', List.length_append, length_word32,
    Nat.add_comm]

/-- After the size of a set the size decides. -/
theorem readSet_of_size {size : UInt32} (h : s.Ready options o (word32 size ++ rest)) :
    ∃ device, device.Healthy ∧ device.undelivered = rest ∧ s.readSet =
      if size = 0 then (.ok none, device)
      else if size.toNat < PropertySet.headerSize then
        (.error (.sizeMismatch o size.toNat 4), device)
      else s.readBody (word32 size) device := by
  obtain ⟨device, e, healthy, hrest⟩ := Device.fill_append h.healthy h.undelivered_eq
  rw [length_word32] at e
  refine ⟨device, healthy, hrest, ?_⟩
  simp [readSet, e, toNat_eq_zero_iff, h.offset_eq]

/-- Too little for a size. -/
theorem readSet_of_short (h : s.Ready options o bs) (less : bs.length < 4) :
    ∃ device, s.readSet =
      if bs = [] ∨ 0 < s.setsRead then (.ok none, device)
      else (.error (.read (.outOfData o 4 bs.length)), device) := by
  obtain ⟨device, e⟩ := Device.fill_short h.healthy (by rwa [h.undelivered_eq])
  rw [h.undelivered_eq] at e
  refine ⟨device, ?_⟩
  simp [readSet, e, less, h.offset_eq]

/-! ### One request -/

theorem next_of_ended (h : s.ended = true) : s.next = (none, s) := by rw [next, if_pos h]

theorem next_of_some {set : PropertySet} {device : Device} (goes : s.ended = false)
    (e : s.readSet = (.ok (some set), device)) :
    s.next =
      (some (.ok set),
        { s with device, offset := s.offset + set.size.toNat, setsRead := s.setsRead + 1 }) := by
  rw [next, goes, e]
  rfl

theorem next_of_none {device : Device} (goes : s.ended = false)
    (e : s.readSet = (.ok none, device)) :
    s.next = (none, { s with device, ended := true }) := by
  rw [next, goes, e]
  rfl

theorem next_of_error {failure : DecodeError} {device : Device} (goes : s.ended = false)
    (e : s.readSet = (.error failure, device)) :
    s.next = (some (.error failure), { s with device, ended := true }) := by
  rw [next, goes, e]
  rfl

/-- A set is given, and the stream goes on after it. -/
theorem next_of_isSet {set : PropertySet} (isSet : IsSet options bs set)
    (h : s.Ready options o (bs ++ rest)) :
    ∃ s', s.next = (some (.ok set), s') ∧ s'.Ready options (o + bs.length) rest ∧
      s'.setsRead = s.setsRead + 1 := by
  have header := isSet.header_le
  have hsize := isSet.length_eq
  obtain ⟨nonzero, body, rfl⟩ := isSet.starts
  have large : ¬ set.size.toNat < PropertySet.headerSize := Nat.not_lt.mpr (hsize ▸ header)
  rw [List.append_assoc] at h
  obtain ⟨device, healthy, hdevice, e⟩ := readSet_of_size h
  obtain ⟨device', healthy', hrest, e'⟩ :=
    readBody_append (s := s) h.options_eq healthy hsize hdevice
  obtain ⟨d, read⟩ := PropertySet.decode_buffer_of_isSet isSet s.offset
  rw [if_neg nonzero, if_neg large, e', read, ok_map] at e
  refine ⟨_, next_of_some h.goes e, ⟨h.goes, h.options_eq, ?_, healthy', hrest⟩, rfl⟩
  rw [← h.offset_eq, hsize]

/-- An end ends the stream. -/
theorem next_of_isEnd (isEnd : IsEnd (s.setsRead == 0) bs) (h : s.Ready options o bs) :
    ∃ s', s.next = (none, s') ∧ s'.ended = true := by
  suffices hread : ∃ device, s.readSet = (.ok none, device) by
    obtain ⟨device, e⟩ := hread
    exact ⟨_, next_of_none h.goes e, rfl⟩
  generalize hfirst : (s.setsRead == 0) = first at isEnd
  cases isEnd with
  | none =>
    obtain ⟨device, e⟩ := readSet_of_short h (Nat.succ_pos 3)
    exact ⟨device, by rw [e, if_pos (Or.inl rfl)]⟩
  | terminator first rest =>
    obtain ⟨device, -, -, e⟩ := readSet_of_size h
    exact ⟨device, by rw [e, if_pos rfl]⟩
  | fragment pos less =>
    obtain ⟨device, e⟩ := readSet_of_short h less
    have some : 0 < s.setsRead := Nat.pos_of_ne_zero (by simpa using hfirst)
    exact ⟨device, by rw [e, if_pos (Or.inr some)]⟩

theorem told_read (start : Nat) (cause : ReadError) : told start (.read cause) = .read cause := rfl

/-- What is wrong inside a set is told as it is: no size there stands at the start of the set. -/
theorem told_of_bodyDefect {e : DecodeError} (defect : BodyDefect options o bs e) :
    told o e = e := by
  cases defect with
  | signature four unknown rest => rfl
  | @chain _ _ front _ _ _ _ run defect =>
    cases defect with
    | short pos less => rfl
    | @large size rest less =>
      have later : ¬ (o + 24 + front.length = o ∧ size.toNat < PropertySet.headerSize) := by omega
      exact if_neg later
    | record starts pos length_eq defect => cases defect <;> rfl

/-- A defect is told, and ends the stream. -/
theorem next_of_storeDefect {e : DecodeError}
    (defect : StoreDefect options (s.setsRead == 0) o bs e) (h : s.Ready options o bs) :
    ∃ s', s.next = (some (.error (told o e)), s') ∧ s'.ended = true := by
  suffices hread : ∃ device, s.readSet = (.error (told o e), device) by
    obtain ⟨device, e⟩ := hread
    exact ⟨_, next_of_error h.goes e, rfl⟩
  generalize hfirst : (s.setsRead == 0) = first at defect
  cases defect with
  | fragment pos less =>
    obtain ⟨device, e⟩ := readSet_of_short h less
    have nothing : ¬ (bs = [] ∨ 0 < s.setsRead) := by
      rintro (hnil | some)
      · exact pos hnil
      · simp at hfirst
        omega
    exact ⟨device, by rw [e, if_neg nothing, told_read]⟩
  | @set _ _ size rest _ pos defect =>
    obtain ⟨device, healthy, hdevice, e⟩ := readSet_of_size h
    rw [if_neg pos] at e
    obtain ⟨less, rfl⟩ | ⟨header, ⟨less, rfl⟩ | ⟨body, more, rfl, length_eq, defect⟩⟩ :=
      defect.of_size
    · have tiny : size.toNat < PropertySet.headerSize := less
      exact ⟨device, by rw [e, if_pos tiny, told, if_pos ⟨rfl, tiny⟩]⟩
    · have large : ¬ size.toNat < PropertySet.headerSize := Nat.not_lt.mpr header
      obtain ⟨device', e'⟩ := readBody_short (s := s) healthy (hdevice ▸ less)
      exact ⟨device', by rw [e, if_neg large, e', hdevice, told_read, h.offset_eq]⟩
    · have large : ¬ size.toNat < PropertySet.headerSize := Nat.not_lt.mpr header
      obtain ⟨device', -, -, e'⟩ := readBody_append (s := s) h.options_eq healthy length_eq hdevice
      have read := PropertySet.decode_buffer_of_bodyDefect header length_eq defect
      exact ⟨device',
        by rw [e, if_neg large, e', h.offset_eq, read, error_map, told_of_bodyDefect defect]⟩

/-! ### All requests -/

/-- A stream that has ended gives nothing any more. -/
theorem results_of_ended (h : s.ended = true) (n : Nat) : s.results n = List.replicate n none := by
  induction n with
  | zero => rfl
  | succ n ih => rw [results, next_of_ended h, ih, List.replicate_succ]

/-- Fewer requests are answered like the first of more. -/
theorem take_results (s : Stream) (n m : Nat) : (s.results (n + m)).take n = s.results n := by
  induction n generalizing s with
  | zero => rw [List.take_zero, results]
  | succ n ih => rw [Nat.succ_add, results, List.take_succ_cons, ih, results]

/-- A set, as a stream gives it. -/
def given (set : PropertySet) : Option (Except DecodeError PropertySet) := some (.ok set)

/-- The sets that come first are given, one to a request. -/
theorem results_of_run {front : List UInt8} {sets : List PropertySet}
    (run : Run (IsSet options) front sets) (h : s.Ready options o (front ++ rest)) :
    ∃ s' : Stream, s'.Ready options (o + front.length) rest ∧
      s'.setsRead = s.setsRead + sets.length ∧
      ∀ n, s.results (sets.length + n) = sets.map given ++ s'.results n := by
  induction run generalizing o s with
  | nil =>
    exact ⟨s, h, rfl, fun n => by rw [List.length_nil, Nat.zero_add, List.map_nil, List.nil_append]⟩
  | cons isSet _ ih =>
    rw [List.append_assoc] at h
    obtain ⟨s₁, e₁, h₁, count₁⟩ := next_of_isSet isSet h
    obtain ⟨s', h', count, e⟩ := ih h₁
    refine ⟨s', ?_, ?_, fun n => ?_⟩
    · rwa [List.length_append, ← Nat.add_assoc]
    · rw [count, count₁, List.length_cons]
      omega
    · rw [List.length_cons, Nat.succ_add, results, e₁, e n, List.map_cons, List.cons_append, given]

/-- The stream of a device that works and stands at its start. -/
theorem ready_ofDevice (options : DecodeOptions) {d : Device} (healthy : d.Healthy)
    (start : d.position = 0) :
    (ofDevice d options).Ready options 0 d.content.toList :=
  ⟨rfl, rfl, rfl, healthy, by rw [ofDevice, Device.undelivered, start, List.drop_zero]⟩

variable {front : List UInt8} {sets : List PropertySet}

/-- A stream that has given the sets has given none exactly if there are none. -/
theorem isEmpty_eq (count : s.setsRead = sets.length) : sets.isEmpty = (s.setsRead == 0) := by
  rw [count]
  cases sets <;> rfl

/-- After the sets of a store nothing is given any more. -/
theorem results_of_isEnd (run : Run (IsSet options) front sets) (isEnd : IsEnd sets.isEmpty rest)
    (h : s.Ready options 0 (front ++ rest)) (count : s.setsRead = 0) (n : Nat) :
    s.results n = (sets.map given ++ List.replicate n none).take n := by
  obtain ⟨s', h', count', e⟩ := results_of_run run h
  rw [count, Nat.zero_add] at count'
  obtain ⟨s'', e', ended⟩ := next_of_isEnd (isEmpty_eq count' ▸ isEnd) h'
  have quiet : s'.results n = List.replicate n none := by
    cases n with
    | zero => rfl
    | succ n => rw [results, e', results_of_ended ended, List.replicate_succ]
  rw [← quiet, ← e n, Nat.add_comm, take_results]

/-- After the sets before a defect it is told, and then nothing is given any more. -/
theorem results_of_storeDefect {e : DecodeError} (run : Run (IsSet options) front sets)
    (defect : StoreDefect options sets.isEmpty front.length rest e)
    (h : s.Ready options 0 (front ++ rest))
    (count : s.setsRead = 0) (n : Nat) :
    s.results n = (sets.map given ++
      some (Except.error (told front.length e)) :: List.replicate n none).take n := by
  obtain ⟨s', h', count', hres⟩ := results_of_run run h
  rw [count, Nat.zero_add] at count'
  rw [Nat.zero_add] at h'
  obtain ⟨s'', e', ended⟩ := next_of_storeDefect (isEmpty_eq count' ▸ defect) h'
  have quiet :
      s'.results (n + 1) = some (.error (told front.length e)) :: List.replicate n none := by
    rw [results, e', results_of_ended ended]
  rw [← quiet, ← hres (n + 1), Nat.add_left_comm, take_results]

/-- **A stream gives what reading in memory gives.** If there is a store, its sets are given and
then nothing any more. If there is a failure, the sets that can be read before it are given, then
the failure is told, and then nothing is given any more. -/
theorem results_eq_decode (options : DecodeOptions) (d : Device) (healthy : d.Healthy)
    (start : d.position = 0) :
    (∀ store, Store.decode options d.content = .ok store → ∀ n,
      (ofDevice d options).results n = (store.sets.map given ++ List.replicate n none).take n) ∧
    (∀ e, Store.decode options d.content = .error e →
      ∃ sets size, size = PropertySet.totalSize sets ∧
      Store.decode options (d.content.extract 0 size) = .ok ⟨sets, size⟩ ∧ ∀ n,
        (ofDevice d options).results n =
          (sets.map given ++
            some (Except.error (told size e)) :: List.replicate n none).take n) := by
  have ready := ready_ofDevice options healthy start
  constructor
  · intro store hok n
    obtain ⟨⟨front, rest, sets, hcontent, run, isEnd⟩, rfl⟩ :=
      ((Store.decode_settles options d.content).ok_iff _).mp hok
    exact results_of_isEnd run isEnd (hcontent ▸ ready) rfl n
  · intro e herror
    obtain ⟨front, rest, sets, hcontent, run, defect⟩ :=
      ((Store.decode_settles options d.content).error_iff e).mp herror
    refine ⟨sets, front.length, run.length_sets, ?_, ?_⟩
    · exact Store.decode_extract_of_run run hcontent
    · exact results_of_storeDefect run defect (hcontent ▸ ready) rfl

/-- A device whose portions grow, with a store that is cut off and one that is wrong. -/
theorem results_growing :
    results 3 (ofDevice (.growing (Store.bareThen [7, 7])) {}) = [given (.bare .zero), none, none] ∧
      ∃ sets size, size = PropertySet.totalSize sets ∧
        Store.decode {} ((Store.bareThen (word32 7)).extract 0 size) = .ok ⟨sets, size⟩ ∧
        results (sets.length + 2) (ofDevice (.growing (Store.bareThen (word32 7))) {}) =
          sets.map given ++ [some (.error (told size (.sizeMismatch 24 7 4))), none] := by
  constructor
  · exact (results_eq_decode {} (.growing _) (Device.growing_healthy _) rfl).1 _
      Store.decode_fragment 3
  · obtain ⟨sets, size, hsize, hok, hresults⟩ :=
      (results_eq_decode {} (.growing (Store.bareThen (word32 7)))
        (Device.growing_healthy _) rfl).2 _ Store.decode_small
    refine ⟨sets, size, hsize, hok, ?_⟩
    rw [hresults, List.take_append, List.take_of_length_le (by simp), List.length_map,
      Nat.add_sub_cancel_left]
    simp [List.replicate_succ]

end PropertyStore.Stream
