import PropertyStore.Proofs.Device.Fault
import PropertyStore.Proofs.Stream.LifeCycle

/-!
# The stream of a device that fails somewhere

A request asks the device for a size, and then for the set that is declared (`asked`). As long as
no request comes upon the fault, the stream of a device that fails gives what it would give if the
device worked, and stays in step with that stream (`next_failingAt`). The first request that does is
answered with the failure of the device, and ends the stream (`next_of_meets`). So it is enough to
know where the requests of the stream of the device that works are, and what they ask for
(`results_failingAt`).
-/

namespace PropertyStore.Stream

open LittleEndian

/-- The stream, but its device fails from a position on. -/
def failingAt (s : Stream) (f : Nat) : Stream := { s with device := s.device.failingAt f }

/-- How many bytes a request asks for: a size, or the set that is declared, if there is room for
its header. -/
def asked (ahead : List UInt8) : Nat :=
  if PropertySet.headerSize ≤ sizeAhead ahead then sizeAhead ahead else 4

/-- The next request comes upon a fault of the device at `f`. -/
def Meets (s : Stream) (f : Nat) : Prop :=
  s.ended = false ∧ s.device.Meets f (asked s.device.undelivered)

/-- The device works, and its content is not passed. -/
structure Sound (s : Stream) : Prop where
  healthy : s.device.Healthy
  inside : s.device.position ≤ s.device.content.size

variable {s : Stream} {f : Nat}

theorem four_le_asked (ahead : List UInt8) : 4 ≤ asked ahead := by
  rw [asked, PropertySet.headerSize]
  split <;> omega

theorem meets_iff (sound : s.Sound) :
    s.Meets f ↔ s.ended = false ∧ f < s.device.position + asked s.device.undelivered ∧
      f ≤ s.device.content.size := by
  have four := four_le_asked s.device.undelivered
  rw [Meets, Device.meets_iff sound.inside (by omega)]

/-- The bytes are the size of a set, and leave room for its header. -/
def Declares (head : List UInt8) : Prop :=
  4 ≤ head.length ∧ PropertySet.headerSize ≤ toNat head

theorem Declares.four_le {ahead : List UInt8} (h : Declares (ahead.take 4)) : 4 ≤ ahead.length := by
  have four := h.1
  rw [List.length_take] at four
  omega

theorem asked_of_declares {ahead : List UInt8} (h : Declares (ahead.take 4)) :
    asked ahead = toNat (ahead.take 4) := by
  have hsize : sizeAhead ahead = toNat (ahead.take 4) := if_neg (Nat.not_lt.mpr h.four_le)
  rw [asked, hsize, if_pos h.2]

theorem asked_of_not_declares {ahead : List UInt8} (h : ¬ Declares (ahead.take 4)) :
    asked ahead = 4 := by
  refine if_neg fun header => h ?_
  by_cases short : ahead.length < 4
  · rw [sizeAhead, if_pos short] at header
    exact absurd header (by decide)
  · rw [sizeAhead, if_neg short] at header
    exact ⟨by rw [List.length_take]; omega, header⟩

/-! ### One request -/

variable {head : List UInt8} {device : Device}

/-- After a size that a set can have the set is asked for. -/
theorem readSet_of_declares (h : Declares head) (e : s.device.fill 4 = (.ok head, device)) :
    s.readSet = s.readBody head device := by
  obtain ⟨four, header⟩ := h
  rw [PropertySet.headerSize] at header
  rw [readSet, e]
  simp only
  rw [if_neg (by omega), if_neg (by omega), if_neg (by omega),
    if_neg (by rw [PropertySet.headerSize]; omega)]

/-- After anything else nothing is asked for, and the answer does not depend on the device. -/
theorem readSet_of_not_declares (s : Stream) (h : ¬ Declares head) :
    ∃ answer, ∀ (t : Stream) (device : Device), t.offset = s.offset → t.setsRead = s.setsRead →
      t.device.fill 4 = (.ok head, device) → t.readSet = (answer, device) := by
  by_cases ends : head.length = 0 ∨ head.length < 4 ∧ 0 < s.setsRead
  · refine ⟨.ok none, fun t device _ count e => ?_⟩
    rw [readSet, e]
    exact if_pos (count ▸ ends)
  by_cases short : head.length < 4
  · refine ⟨.error (.read (.outOfData s.offset 4 head.length)), fun t device hoffset count e => ?_⟩
    rw [readSet, e, hoffset, count]
    simp only [if_neg ends, if_pos short]
  by_cases zero : toNat head = 0
  · refine ⟨.ok none, fun t device _ count e => ?_⟩
    rw [readSet, e, count]
    simp only [if_neg ends, if_neg short, if_pos zero]
  · have small : toNat head < PropertySet.headerSize :=
      Nat.lt_of_not_le fun header => h ⟨Nat.le_of_not_lt short, header⟩
    refine ⟨.error (.sizeMismatch s.offset (toNat head) 4), fun t device hoffset count e => ?_⟩
    rw [readSet, e, hoffset, count]
    simp only [if_neg ends, if_neg short, if_neg zero, if_pos small]

theorem readBody_snd (s : Stream) (head : List UInt8) (device : Device) :
    (s.readBody head device).2 = (device.fill (toNat head - 4)).2 := by
  rw [readBody]
  cases hfill : device.fill (toNat head - 4) with
  | mk answer device' =>
    cases answer with
    | error e => rfl
    | ok body =>
      simp only
      split <;> rfl

/-- A request for the next set takes what it asks for, or all there is. -/
theorem takes_readSet (healthy : s.device.Healthy) :
    s.device.Takes s.readSet.2 (min (asked s.device.undelivered) s.device.undelivered.length) := by
  obtain ⟨device, e, healthy', takes⟩ := Device.takes_of_healthy healthy 4
  by_cases h : Declares (s.device.undelivered.take 4)
  · have header := h.2
    rw [Nat.min_eq_left h.four_le] at takes
    obtain ⟨device', e', -, takes'⟩ :=
      Device.takes_of_healthy healthy' (toNat (s.device.undelivered.take 4) - 4)
    rw [takes.moves.undelivered_eq, List.length_drop] at takes'
    have all := takes.trans takes'
    have four := h.four_le
    rw [PropertySet.headerSize] at header
    have sum : 4 + min (toNat (s.device.undelivered.take 4) - 4) (s.device.undelivered.length - 4) =
        min (toNat (s.device.undelivered.take 4)) s.device.undelivered.length := by omega
    rw [sum] at all
    rwa [readSet_of_declares h e, readBody_snd, e', asked_of_declares h]
  · obtain ⟨answer, hanswer⟩ := readSet_of_not_declares s h
    rwa [hanswer s device rfl rfl e, asked_of_not_declares h]

theorem readBody_failingAt (sound : device.faultAt = none)
    (inside : device.position ≤ device.content.size)
    (clear : ¬ device.Meets f (toNat head - 4)) :
    (s.failingAt f).readBody head (device.failingAt f) =
      ((s.readBody head device).1, (s.readBody head device).2.failingAt f) := by
  rw [readBody, readBody, Device.fill_failingAt sound inside clear]
  cases hfill : device.fill (toNat head - 4) with
  | mk answer device' =>
    cases answer with
    | error e => rfl
    | ok body =>
      simp only
      split <;> rfl

theorem readBody_of_meets (fault : device.faultAt = some f)
    (portion_pos : ∀ k, 0 < device.portion k) (inside : device.position ≤ device.content.size)
    (meets : device.Meets f (toNat head - 4)) :
    ∃ device', s.readBody head device = (.error (.read device.failure), device') := by
  obtain ⟨device', e⟩ := Device.fill_of_meets fault portion_pos inside meets
  exact ⟨device', by rw [readBody, e]⟩

/-- The size is taken as if there were no fault, if the fault is not come upon there. -/
theorem fill_four_failingAt (sound : s.Sound) (clear : ¬ s.device.Meets f 4) :
    ∃ device, s.device.fill 4 = (.ok (s.device.undelivered.take 4), device) ∧
      (s.failingAt f).device.fill 4 =
        (.ok (s.device.undelivered.take 4), device.failingAt f) ∧
      device.Healthy ∧ s.device.Takes device (min 4 s.device.undelivered.length) := by
  obtain ⟨device, e, healthy, takes⟩ := Device.takes_of_healthy sound.healthy 4
  have e' := Device.fill_failingAt sound.healthy.faultAt_eq sound.inside clear
  rw [e] at e'
  exact ⟨device, e, e', healthy, takes⟩

/-- A request that does not come upon the fault is answered as if there were none. -/
theorem readSet_failingAt (sound : s.Sound)
    (clear : ¬ s.device.Meets f (asked s.device.undelivered)) :
    (s.failingAt f).readSet = (s.readSet.1, s.readSet.2.failingAt f) := by
  obtain ⟨device, e, e', healthy, takes⟩ :=
    fill_four_failingAt sound fun meets => clear (meets.mono (four_le_asked _))
  by_cases h : Declares (s.device.undelivered.take 4)
  · have header := h.2
    rw [PropertySet.headerSize] at header
    rw [Nat.min_eq_left h.four_le] at takes
    rw [asked_of_declares h] at clear
    rw [readSet_of_declares h e, readSet_of_declares h e']
    exact readBody_failingAt healthy.faultAt_eq (takes.inside sound.inside)
      fun meets => clear (takes.meets (by omega) meets)
  · obtain ⟨answer, hanswer⟩ := readSet_of_not_declares s h
    rw [hanswer s _ rfl rfl e, hanswer (s.failingAt f) _ rfl rfl e']

/-- A request that does fails. -/
theorem readSet_of_meets (sound : s.Sound)
    (meets : s.device.Meets f (asked s.device.undelivered)) :
    ∃ device, (s.failingAt f).readSet = (.error (.read s.device.failure), device) := by
  by_cases four : s.device.Meets f 4
  · obtain ⟨device, e⟩ := Device.fill_of_meets (d := (s.failingAt f).device) rfl
      sound.healthy.portion_pos sound.inside four
    exact ⟨device, by rw [readSet, e]; rfl⟩
  · obtain ⟨device, -, e', healthy, takes⟩ := fill_four_failingAt sound four
    have h : Declares (s.device.undelivered.take 4) :=
      Classical.byContradiction fun h => four (asked_of_not_declares h ▸ meets)
    rw [Nat.min_eq_left h.four_le] at takes
    rw [asked_of_declares h] at meets
    have before : s.device.position + 4 ≤ f := by
      have header := h.2
      rw [PropertySet.headerSize] at header
      rw [Device.meets_iff sound.inside (by omega)] at meets four
      omega
    have rest : device.Meets f (toNat (s.device.undelivered.take 4) - 4) :=
      meets.after takes before
    rw [readSet_of_declares h e', ← takes.moves.failure_eq]
    exact readBody_of_meets rfl healthy.portion_pos (takes.inside sound.inside) rest

/-! ### The stream after a request -/

theorem next_device (goes : s.ended = false) : s.next.2.device = s.readSet.2 := by
  rcases hread : s.readSet with ⟨e | _ | set, device⟩
  · rw [next_of_error goes hread]
  · rw [next_of_none goes hread]
  · rw [next_of_some goes hread]

/-- A request takes what it asks for, or all there is. -/
theorem takes_next (healthy : s.device.Healthy) (goes : s.ended = false) :
    s.device.Takes s.next.2.device
      (min (asked s.device.undelivered) s.device.undelivered.length) := by
  rw [next_device goes]
  exact takes_readSet healthy

theorem Sound.next (sound : s.Sound) : s.next.2.Sound := by
  cases goes : s.ended with
  | true =>
    rw [next_of_ended goes]
    exact sound
  | false =>
    have takes := takes_next sound.healthy goes
    exact ⟨takes.moves.healthy sound.healthy, takes.inside sound.inside⟩

/-- **A stream whose device fails stays in step with the stream whose device works**, if the request
does not come upon the fault. -/
theorem next_failingAt (sound : s.Sound) (clear : ¬ s.Meets f) :
    (s.failingAt f).next = (s.next.1, s.next.2.failingAt f) := by
  cases goes : s.ended with
  | true => rw [next_of_ended goes, next_of_ended (s := s.failingAt f) goes]
  | false =>
    have same := readSet_failingAt sound fun meets => clear ⟨goes, meets⟩
    rcases hread : s.readSet with ⟨e | _ | set, device⟩ <;> rw [hread] at same
    · rw [next_of_error goes hread, next_of_error (s := s.failingAt f) goes same]
      rfl
    · rw [next_of_none goes hread, next_of_none (s := s.failingAt f) goes same]
      rfl
    · rw [next_of_some goes hread, next_of_some (s := s.failingAt f) goes same]
      rfl

/-- The request that does is answered with the failure, and ends the stream. -/
theorem next_of_meets (sound : s.Sound) (meets : s.Meets f) :
    ∃ s', (s.failingAt f).next = (failed (.read s.device.failure), s') ∧ s'.ended = true := by
  obtain ⟨goes, meets⟩ := meets
  obtain ⟨device, e⟩ := readSet_of_meets sound meets
  exact ⟨_, next_of_error (s := s.failingAt f) goes e, rfl⟩

/-! ### All requests -/

theorem results_add (s : Stream) (n m : Nat) :
    s.results (n + m) = s.results n ++ (s.after n).results m := by
  induction n generalizing s with
  | zero => rw [Nat.zero_add, results, after, List.nil_append]
  | succ n ih => rw [Nat.succ_add, results, ih, results, after, List.cons_append]

theorem after_add (s : Stream) (n m : Nat) : s.after (n + m) = (s.after n).after m := by
  induction n generalizing s with
  | zero => rw [Nat.zero_add, after]
  | succ n ih => rw [Nat.succ_add, after, ih, after]

theorem Sound.after (sound : s.Sound) (n : Nat) : (s.after n).Sound := by
  induction n generalizing s with
  | zero => exact sound
  | succ n ih => exact ih sound.next

/-- As long as no request comes upon the fault, nothing shows that there is one. -/
theorem run_failingAt (sound : s.Sound) (n : Nat) (clear : ∀ k < n, ¬ (s.after k).Meets f) :
    (s.failingAt f).results n = s.results n ∧
      (s.failingAt f).after n = (s.after n).failingAt f := by
  induction n generalizing s with
  | zero => exact ⟨rfl, rfl⟩
  | succ n ih =>
    have step := next_failingAt sound (clear 0 (Nat.succ_pos n))
    obtain ⟨same, after_eq⟩ :=
      ih sound.next fun k hk => clear (k + 1) (Nat.succ_lt_succ hk)
    rw [results, results, after, after, step]
    exact ⟨congrArg _ same, after_eq⟩

/-- The first request that comes upon the fault is the last that is answered. -/
theorem results_of_meets (sound : s.Sound) {k : Nat} (meets : (s.after k).Meets f)
    (clear : ∀ j < k, ¬ (s.after j).Meets f) (n : Nat) :
    (s.failingAt f).results (k + 1 + n) =
      s.results k ++ failed (.read (s.after k).device.failure) :: List.replicate n none := by
  obtain ⟨same, after_eq⟩ := run_failingAt sound k clear
  obtain ⟨s', e, ended⟩ := next_of_meets (sound.after k) meets
  rw [Nat.add_assoc, results_add, same, after_eq, Nat.add_comm, results, e, results_of_ended ended]

theorem takes_after (healthy : s.device.Healthy) (n : Nat) :
    ∃ m, s.device.Takes (s.after n).device m := by
  induction n generalizing s with
  | zero => exact ⟨0, Device.Takes.refl s.device⟩
  | succ n ih =>
    cases goes : s.ended with
    | true =>
      rw [after_of_ended goes]
      exact ⟨0, Device.Takes.refl s.device⟩
    | false =>
      have takes := takes_next healthy goes
      obtain ⟨m, rest⟩ := ih (takes.moves.healthy healthy)
      exact ⟨_, takes.trans rest⟩

/-! ### Ends that need nothing more -/

/-- The next request ends the stream, though all that it asks for is there: so many bytes. -/
inductive Closes (s : Stream) : Nat → Prop where
  /-- A size of zero ends the store. -/
  | terminator {rest : List UInt8} (ahead : s.device.undelivered = word32 0 ++ rest) : Closes s 4
  /-- The size leaves no room for the header. -/
  | small {size : UInt32} {rest : List UInt8} (ahead : s.device.undelivered = word32 size ++ rest)
    (pos : size ≠ 0) (less : size.toNat < PropertySet.headerSize) : Closes s 4
  /-- The set is there, and reading it fails. -/
  | inside {size : UInt32} {body rest : List UInt8} {e : DecodeError}
    (ahead : s.device.undelivered = word32 size ++ (body ++ rest))
    (header : PropertySet.headerSize ≤ size.toNat)
    (length_eq : (word32 size ++ body).length = size.toNat)
    (failed : PropertySet.decode s.options
      (.ofBytes (word32 size ++ body).toArray s.offset) = .error e) : Closes s size.toNat

theorem asked_word32 (size : UInt32) (rest : List UInt8) :
    asked (word32 size ++ rest) =
      if PropertySet.headerSize ≤ size.toNat then size.toNat else 4 := by
  have htake : (word32 size ++ rest).take 4 = word32 size := List.take_left' (length_word32 size)
  have long : ¬ (word32 size ++ rest).length < 4 := by
    rw [List.length_append, length_word32]
    omega
  rw [asked, sizeAhead, if_neg long, htake, toNat_word32]

/-- What the request asks for is there. -/
theorem Closes.asked_eq {m : Nat} (h : s.Closes m) :
    asked s.device.undelivered = m ∧ m ≤ s.device.undelivered.length := by
  cases h with
  | terminator ahead =>
    rw [ahead, asked_word32, List.length_append, length_word32]
    exact ⟨if_neg (by decide), Nat.le_add_right _ _⟩
  | small ahead pos less =>
    rw [ahead, asked_word32, List.length_append, length_word32]
    exact ⟨if_neg (Nat.not_le.mpr less), Nat.le_add_right _ _⟩
  | inside ahead header length_eq failed =>
    rw [ahead, asked_word32, ← List.append_assoc, List.length_append, length_eq]
    exact ⟨if_pos header, Nat.le_add_right _ _⟩

/-- The request ends the stream. -/
theorem Closes.ended {m : Nat} (h : s.Closes m) (healthy : s.device.Healthy)
    (goes : s.ended = false) : s.next.2.ended = true := by
  cases h with
  | terminator ahead =>
    obtain ⟨s', e, ended⟩ := next_of_isEnd (IsEnd.terminator _ _) ⟨goes, rfl, rfl, healthy, ahead⟩
    rwa [e]
  | small ahead pos less =>
    obtain ⟨s', e, ended⟩ := next_of_storeDefect (StoreDefect.set pos (SetDefect.small _ less))
      ⟨goes, rfl, rfl, healthy, ahead⟩
    rwa [e]
  | @inside size body rest e ahead header length_eq failed =>
    obtain ⟨device, healthy', hdevice, hread⟩ := readSet_of_size ⟨goes, rfl, rfl, healthy, ahead⟩
    obtain ⟨device', -, -, hbody⟩ :=
      readBody_append (s := s) rfl healthy' length_eq hdevice
    have nonzero : size ≠ 0 := by
      rintro rfl
      exact absurd header (by decide)
    rw [if_neg nonzero, if_neg (Nat.not_lt.mpr header), hbody, failed, error_map] at hread
    rw [next_of_error goes hread]

/-- If the stream closes before the fault, no request comes upon it: what was asked for before ends
where the last request starts or sooner, and after it nothing is asked for. -/
theorem not_meets_of_closes (sound : s.Sound) {k m : Nat} (goes : (s.after k).ended = false)
    (closes : (s.after k).Closes m) (before : (s.after k).device.position + m ≤ f) (j : Nat) :
    ¬ (s.after j).Meets f := by
  obtain ⟨asked_eq, there⟩ := closes.asked_eq
  have four := four_le_asked (s.after k).device.undelivered
  rw [asked_eq] at four
  rw [Device.length_undelivered] at there
  rw [meets_iff (sound.after j)]
  rintro ⟨goes', meets⟩
  obtain less | rfl | more := Nat.lt_trichotomy j k
  · obtain ⟨i, rfl⟩ := Nat.exists_eq_add_of_lt less
    have takes := takes_next (sound.after j).healthy goes'
    obtain ⟨n, rest⟩ := takes_after (sound.after j).next.healthy i
    have later : (s.after j).next.2.after i = s.after (j + i + 1) := (after_add s j (i + 1)).symm
    have all := takes.trans rest
    rw [later] at all
    have position_eq := all.moves.position_eq
    rw [all.moves.content_eq] at there
    rw [Device.length_undelivered] at position_eq
    omega
  · omega
  · obtain ⟨i, rfl⟩ := Nat.exists_eq_add_of_lt more
    have later : (s.after k).next.2.after i = s.after (k + i + 1) := (after_add s k (i + 1)).symm
    have ended := closes.ended (sound.after k).healthy goes
    rw [after_of_ended ended] at later
    rw [later, goes'] at ended
    cases ended

theorem sound_ofDevice (options : DecodeOptions) {d : Device} (healthy : d.Healthy)
    (start : d.position = 0) : (ofDevice d options).Sound :=
  ⟨healthy, Nat.le_trans (Nat.le_of_eq start) (Nat.zero_le _)⟩

/-- **The stream of a device that fails.** Up to the first request that comes upon the fault it
gives what it would give if the device worked; that request is answered with the failure of the
device, and after it nothing is given any more. If the device fails only past its end, or if the
stream closes with what comes before the fault, it gives all that it would give if the device
worked. -/
theorem results_failingAt (options : DecodeOptions) {d : Device} (healthy : d.Healthy)
    (start : d.position = 0) (f : Nat) :
    (∀ n, (∀ k < n, ¬ ((ofDevice d options).after k).Meets f) →
      (ofDevice (d.failingAt f) options).results n = (ofDevice d options).results n) ∧
    (∀ k, ((ofDevice d options).after k).Meets f →
      (∀ j < k, ¬ ((ofDevice d options).after j).Meets f) →
      ∃ e : DecodeError, e.kind = .device ∧ e.offset? = none ∧ ∀ n,
        (ofDevice (d.failingAt f) options).results (k + 1 + n) =
          (ofDevice d options).results k ++ failed e :: List.replicate n none) ∧
    (d.content.size < f → ∀ n,
      (ofDevice (d.failingAt f) options).results n = (ofDevice d options).results n) ∧
    ∀ k m, ((ofDevice d options).after k).ended = false →
      ((ofDevice d options).after k).Closes m →
      ((ofDevice d options).after k).device.position + m ≤ f → ∀ n,
        (ofDevice (d.failingAt f) options).results n = (ofDevice d options).results n := by
  have sound := sound_ofDevice options healthy start
  have same (n : Nat) (clear : ∀ k < n, ¬ ((ofDevice d options).after k).Meets f) :
      (ofDevice (d.failingAt f) options).results n = (ofDevice d options).results n :=
    (run_failingAt sound n clear).1
  refine ⟨same, fun k meets clear => ?_, fun past n => same n fun k _ => ?_, ?_⟩
  · exact ⟨_, rfl, rfl, results_of_meets sound meets clear⟩
  · obtain ⟨m, takes⟩ := takes_after sound.healthy k
    have content_eq : ((ofDevice d options).after k).device.content = d.content :=
      takes.moves.content_eq
    rw [meets_iff (sound.after k), content_eq]
    rintro ⟨-, -, le⟩
    exact absurd past (Nat.not_lt.mpr le)
  · intro k m goes closes before n
    exact same n fun j _ => not_meets_of_closes sound goes closes before j

/-- The stream of 26 bytes, a set and two more, of a device that fails at the last of them: the set
is given, and the next request, which has to be told where the bytes end, fails. -/
theorem results_failingAt_fragment :
    ∃ e : DecodeError, e.kind = .device ∧
      results 3 (ofDevice ((Device.growing (Store.bareThen [7, 7])).failingAt 25) {}) =
        [given (.bare .zero), failed e, none] := by
  have healthy := Device.growing_healthy (Store.bareThen [7, 7])
  have ready : (ofDevice (.growing (Store.bareThen [7, 7])) {}).Ready {} 0
      (PropertySet.bareBytes .zero ++ [7, 7]) := ready_ofDevice {} healthy rfl
  obtain ⟨s, hnext, ready', -⟩ := next_of_isSet (isSet_bare {} .zero) ready
  have after_eq : (ofDevice (.growing (Store.bareThen [7, 7])) {}).after 1 = s := by
    rw [after, after, hnext]
  obtain ⟨m, takes⟩ := takes_after ready.healthy 1
  rw [after_eq] at takes
  have size_eq : s.device.content.size = 26 := by
    rw [takes.moves.content_eq]
    rfl
  have left := s.device.length_undelivered
  rw [ready'.undelivered_eq, List.length_cons, List.length_cons, List.length_nil] at left
  have meets : s.Meets 25 := by
    refine ⟨ready'.goes, Or.inr ⟨?_, by omega⟩⟩
    have := four_le_asked s.device.undelivered
    omega
  have clear : ∀ j < 1, ¬ ((ofDevice (.growing (Store.bareThen [7, 7])) {}).after j).Meets 25 := by
    intro j hj
    obtain rfl : j = 0 := by omega
    intro hmeets
    rw [after, meets_iff (sound_ofDevice {} healthy rfl)] at hmeets
    exact absurd hmeets.2.1 (by decide)
  obtain ⟨e, kind, -, hresults⟩ := (results_failingAt {} healthy rfl 25).2.1 1
    (after_eq ▸ meets) clear
  refine ⟨e, kind, (hresults 1).trans ?_⟩
  rw [results, results, hnext]
  rfl

end PropertyStore.Stream
