import PropertyStore.Proofs.Device

/-!
# Devices that fail somewhere

A device may deliver what comes before some position and fail from there on (`failingAt`). What
is asked of it as a whole either comes upon the fault or does not (`Meets`): it does if a byte is
wanted that is there and is not delivered, or if more is wanted than there is and the device fails
where it should tell so. Otherwise nothing shows that the device has a fault
(`fill_failingAt`); and what does come upon it fails, whatever was delivered before
(`fill_of_meets`).
-/

namespace PropertyStore.Device

/-- The device, but it fails from a position on. -/
def failingAt (d : Device) (f : Nat) : Device := { d with faultAt := some f }

@[simp] theorem position_failingAt (d : Device) (f : Nat) : (d.failingAt f).position = d.position :=
  rfl

/-- Whoever asks for the next `n` bytes comes upon a fault at `f`: one of them is there, but not
before the fault, or there are fewer, and the end of the content is not before the fault either. -/
def Meets (d : Device) (f n : Nat) : Prop :=
  (∃ p < d.content.size, d.position ≤ p ∧ p < d.position + n ∧ f ≤ p) ∨
    d.content.size < d.position + n ∧ f ≤ d.content.size

variable {d d' : Device} {f n : Nat}

theorem meets_iff (inside : d.position ≤ d.content.size) (pos : 0 < n) :
    d.Meets f n ↔ f < d.position + n ∧ f ≤ d.content.size := by
  constructor
  · rintro (⟨p, there, -, wanted, le⟩ | ⟨more, le⟩)
    · exact ⟨by omega, by omega⟩
    · exact ⟨by omega, le⟩
  · rintro ⟨wanted, le⟩
    by_cases more : d.content.size < d.position + n
    · exact Or.inr ⟨more, le⟩
    · exact Or.inl ⟨max f d.position, by omega, by omega, by omega, by omega⟩

theorem not_meets_zero (inside : d.position ≤ d.content.size) : ¬ d.Meets f 0 := by
  rintro (⟨p, -, from_position, wanted, -⟩ | ⟨more, -⟩) <;> omega

theorem Meets.mono {m : Nat} (meets : d.Meets f n) (le : n ≤ m) : d.Meets f m := by
  obtain ⟨p, there, from_position, wanted, hp⟩ | ⟨more, hf⟩ := meets
  · exact Or.inl ⟨p, there, from_position, by omega, hp⟩
  · exact Or.inr ⟨by omega, hf⟩

/-- What comes upon the fault after some bytes were taken does so with them. -/
theorem Takes.meets {m : Nat} (h : d.Takes d' m) (le : m ≤ n) (meets : d'.Meets f (n - m)) :
    d.Meets f n := by
  simp only [Meets, h.moves.position_eq, h.moves.content_eq] at meets
  obtain ⟨p, there, from_position, wanted, le⟩ | ⟨more, le⟩ := meets
  · exact Or.inl ⟨p, there, by omega, by omega, le⟩
  · exact Or.inr ⟨by omega, le⟩

/-- The bytes before the fault can be taken before it is come upon. -/
theorem Meets.after {m : Nat} (meets : d.Meets f n) (h : d.Takes d' m) (le : d.position + m ≤ f) :
    d'.Meets f (n - m) := by
  simp only [Meets, h.moves.position_eq, h.moves.content_eq]
  obtain ⟨p, there, from_position, wanted, le⟩ | ⟨more, le⟩ := meets
  · exact Or.inl ⟨p, there, by omega, by omega, le⟩
  · exact Or.inr ⟨by omega, le⟩

theorem Moves.failure_eq {position : Nat} (h : d.Moves d' position) : d'.failure = d.failure := by
  obtain ⟨reads, rfl⟩ := h
  rfl

theorem Takes.inside {m : Nat} (h : d.Takes d' m) (inside : d.position ≤ d.content.size) :
    d'.position ≤ d'.content.size := by
  have le := h.le
  rw [length_undelivered] at le
  rw [h.moves.position_eq, h.moves.content_eq]
  omega

/-! ### Requests that do not come upon the fault -/

theorem read_failingAt (sound : d.faultAt = none) (inside : d.position ≤ d.content.size)
    (clear : ¬ d.Meets f n) :
    (d.failingAt f).read n = (d.read n).map fun (bs, d') => (bs, d'.failingAt f) := by
  by_cases hn : n = 0
  · rw [read, read, if_pos hn, if_pos hn]
    rfl
  rw [meets_iff inside (Nat.pos_of_ne_zero hn)] at clear
  have works : ¬ (d.failingAt f).faulty = true := by
    show ¬ decide (f ≤ d.position) = true
    rw [decide_eq_true_eq]
    omega
  have works' : ¬ d.faulty = true := by simp [faulty, sound]
  have same : min (min n (d.portion d.reads)) ((d.failingAt f).deliverable - d.position) =
      min (min n (d.portion d.reads)) (d.deliverable - d.position) := by
    simp only [deliverable, failingAt, sound, Option.getD_some, Option.getD_none]
    omega
  rw [read, read, if_neg hn, if_neg hn, if_neg works, if_neg works', ok_map, position_failingAt]
  exact same ▸ rfl

/-- **What does not come upon the fault is answered as if there were none.** -/
theorem fill_failingAt (sound : d.faultAt = none) (inside : d.position ≤ d.content.size)
    (clear : ¬ d.Meets f n) :
    (d.failingAt f).fill n = ((d.fill n).1, (d.fill n).2.failingAt f) := by
  induction d, n using fill.induct with
  | case1 d =>
    rw [fill, fill, if_pos rfl, if_pos rfl]
  | case2 d n hn e hread =>
    rw [fill, fill, if_neg hn, if_neg hn, read_failingAt sound inside clear, hread]
    rfl
  | case3 d n hn d' hread =>
    rw [fill, fill, if_neg hn, if_neg hn, read_failingAt sound inside clear, hread]
    rfl
  | case4 d n hn b bs d' hread more d'' _ ih =>
    -- What is still wanted after a portion is part of what was wanted, so it is clear too.
    obtain ⟨hlen, takes, -⟩ := takes_of_read hread
    have rest : ¬ d'.Meets f (n - (b :: bs).length) := fun meets =>
      clear (takes.meets (by omega) meets)
    obtain ⟨reads, rfl⟩ := takes.moves
    rw [fill, fill, if_neg hn, if_neg hn, read_failingAt sound inside clear, hread]
    simp only [ok_map, ih sound (takes.inside inside) rest]

/-- To take no less than is wanted is to take what there is. -/
theorem readExact_snd (d : Device) (n : Nat) : (d.readExact n).2 = (d.fill n).2 := by
  rw [readExact]
  cases hfill : d.fill n with
  | mk answer d' => cases answer <;> rfl

theorem readExact_failingAt (sound : d.faultAt = none) (inside : d.position ≤ d.content.size)
    (clear : ¬ d.Meets f n) :
    (d.failingAt f).readExact n = ((d.readExact n).1, (d.readExact n).2.failingAt f) := by
  rw [readExact, readExact, fill_failingAt sound inside clear]
  cases hfill : d.fill n with
  | mk answer d' => cases answer <;> rfl

/-! ### Requests that do -/

theorem error_of_read {e : ReadError} (h : d.read n = .error e) : e = d.failure := by
  rw [read] at h
  split at h
  · cases h
  · split at h
    · exact (Except.error.inj h).symm
    · cases h

/-- A read that succeeds starts before the fault, and does not go past it. -/
theorem before_of_read {bs : List UInt8} (fault : d.faultAt = some f) (hn : n ≠ 0)
    (h : d.read n = .ok (bs, d')) : d.position < f ∧ d.position + bs.length ≤ f := by
  obtain ⟨hlen, -⟩ := takes_of_read h
  have works : ¬ d.faulty = true := by
    intro faulty
    rw [read, if_neg hn, if_pos faulty] at h
    cases h
  rw [faulty, fault] at works
  have before : ¬ f ≤ d.position := fun le => works (decide_eq_true le)
  rw [deliverable, fault, Option.getD_some] at hlen
  omega

/-- **What comes upon the fault fails**, and what was delivered before it is gone. -/
theorem fill_of_meets (fault : d.faultAt = some f) (portion_pos : ∀ k, 0 < d.portion k)
    (inside : d.position ≤ d.content.size) (meets : d.Meets f n) :
    ∃ d', d.fill n = (.error d.failure, d') := by
  induction d, n using fill.induct with
  | case1 d => exact absurd meets (not_meets_zero inside)
  | case2 d n hn e hread => exact ⟨d, by rw [fill, if_neg hn, hread, error_of_read hread]⟩
  | case3 d n hn d' hread =>
    -- A read delivers nothing only where the content ends, and there the device fails.
    obtain ⟨hlen, -⟩ := takes_of_read hread
    obtain ⟨before, -⟩ := before_of_read fault hn hread
    have pos := portion_pos d.reads
    rw [meets_iff inside (Nat.pos_of_ne_zero hn)] at meets
    rw [List.length_nil, deliverable, fault, Option.getD_some] at hlen
    omega
  | case4 d n hn b bs d' hread more d'' _ ih =>
    obtain ⟨hlen, takes, -⟩ := takes_of_read hread
    obtain ⟨-, before⟩ := before_of_read fault hn hread
    have rest : d'.Meets f (n - (b :: bs).length) := meets.after takes before
    obtain ⟨reads, rfl⟩ := takes.moves
    obtain ⟨last, e⟩ := ih fault portion_pos (takes.inside inside) rest
    refine ⟨last, ?_⟩
    rw [fill, if_neg hn, hread]
    simp only [e, error_map]
    rfl

theorem readExact_of_meets (fault : d.faultAt = some f) (portion_pos : ∀ k, 0 < d.portion k)
    (inside : d.position ≤ d.content.size) (meets : d.Meets f n) :
    ∃ d', d.readExact n = (.error d.failure, d') := by
  obtain ⟨d', e⟩ := fill_of_meets fault portion_pos inside meets
  exact ⟨d', by rw [readExact, e]⟩

end PropertyStore.Device
