import PropertyStore.Proofs.Cursor
import PropertyStore.Source.Device

/-!
# What devices deliver

Whatever a device does, a request takes the next bytes of its content, no more of them than
were asked for, and what is delivered is what was taken (`fill_takes`).

A device is healthy when it never fails and every read of it delivers something. How much a
read delivers is its own affair and may change from read to read. What is asked of it as a
whole does not depend on that: `fill` gives as many bytes as were asked for, or all there
are, and moves past them (`fill_of_healthy`).
-/

namespace PropertyStore.Device

/-- The device never fails to read, and every read of it delivers something. -/
structure Healthy (d : Device) : Prop where
  faultAt_eq : d.faultAt = none
  portion_pos (k : Nat) : 0 < d.portion k

/-- Only the position and the count of reads are another device's. -/
def Moves (d d' : Device) (position : Nat) : Prop := ∃ reads, d' = { d with position, reads }

variable {d d' : Device}

theorem Moves.content_eq {position : Nat} (h : d.Moves d' position) : d'.content = d.content := by
  obtain ⟨reads, rfl⟩ := h
  rfl

theorem Moves.position_eq {position : Nat} (h : d.Moves d' position) : d'.position = position := by
  obtain ⟨reads, rfl⟩ := h
  rfl

theorem Moves.healthy {position : Nat} (h : d.Moves d' position) (hd : d.Healthy) : d'.Healthy := by
  obtain ⟨reads, rfl⟩ := h
  exact ⟨hd.faultAt_eq, hd.portion_pos⟩

theorem Moves.trans {p q : Nat} {d'' : Device} (h : d.Moves d' p) (h' : d'.Moves d'' q) :
    d.Moves d'' q := by
  obtain ⟨reads, rfl⟩ := h
  obtain ⟨reads', rfl⟩ := h'
  exact ⟨reads', rfl⟩

/-- What a device has yet to deliver. -/
def undelivered (d : Device) : List UInt8 := d.content.toList.drop d.position

theorem Moves.undelivered_eq {n : Nat} (h : d.Moves d' (d.position + n)) :
    d'.undelivered = d.undelivered.drop n := by
  rw [undelivered, undelivered, h.content_eq, h.position_eq, List.drop_drop]

/-! ### What any device delivers -/

/-- Exactly the next `m` bytes have been taken from the device, and it had them. -/
structure Takes (d d' : Device) (m : Nat) : Prop where
  moves : d.Moves d' (d.position + m)
  le : m ≤ d.undelivered.length

theorem Takes.refl (d : Device) : d.Takes d 0 := ⟨⟨d.reads, rfl⟩, Nat.zero_le _⟩

theorem Takes.trans {d'' : Device} {m n : Nat} (h : d.Takes d' m) (h' : d'.Takes d'' n) :
    d.Takes d'' (m + n) := by
  have moves := h'.moves
  have le := h'.le
  have hm := h.le
  rw [h.moves.position_eq, Nat.add_assoc] at moves
  rw [h.moves.undelivered_eq, List.length_drop] at le
  exact ⟨h.moves.trans moves, by omega⟩

theorem length_undelivered (d : Device) : d.undelivered.length = d.content.size - d.position := by
  rw [undelivered, List.length_drop, Array.length_toList]

/-- A read that succeeds takes what it delivers: a portion, but no more than was asked for, and
no more than there is. -/
theorem takes_of_read {n : Nat} {bs : List UInt8} (h : d.read n = .ok (bs, d')) :
    bs.length = min (min n (d.portion d.reads)) (d.deliverable - d.position) ∧
      d.Takes d' bs.length ∧ bs = d.undelivered.take bs.length := by
  rw [read] at h
  split at h
  · next zero =>
    obtain ⟨rfl, rfl⟩ := Prod.mk.inj (Except.ok.inj h)
    exact ⟨by simp [zero], Takes.refl d, rfl⟩
  · split at h
    · cases h
    · obtain ⟨k, hk⟩ :
          ∃ k, k = min (min n (d.portion d.reads)) (d.deliverable - d.position) := ⟨_, rfl⟩
      have inside : d.deliverable ≤ d.content.size := Nat.min_le_left _ _
      have left := d.length_undelivered
      have hbs : (d.content.extract d.position (d.position + k)).toList = d.undelivered.take k := by
        rw [Array.toList_extract, List.extract_eq_take_drop, Nat.add_sub_cancel_left, undelivered]
      have hlen : (d.undelivered.take k).length = k := by
        rw [List.length_take]
        omega
      simp only [← hk, hbs] at h
      obtain ⟨rfl, rfl⟩ := Prod.mk.inj (Except.ok.inj h)
      rw [hlen]
      exact ⟨hk, ⟨⟨_, rfl⟩, by omega⟩, rfl⟩

/-- However a device fares, at most what was asked for is taken from it; and if it does not fail,
what is taken is what it delivers. -/
theorem fill_takes (d : Device) (n : Nat) :
    ∃ m, m ≤ n ∧ d.Takes (d.fill n).2 m ∧
      ∀ bs, (d.fill n).1 = .ok bs → bs = d.undelivered.take m := by
  induction n using Nat.strongRecOn generalizing d with
  | ind n ih =>
    by_cases hn : n = 0
    · subst hn
      refine ⟨0, Nat.le_refl 0, ?_, ?_⟩
      · rw [fill, if_pos rfl]
        exact Takes.refl d
      · intro bs h
        rw [fill, if_pos rfl, Except.ok.injEq] at h
        rw [← h, List.take_zero]
    rw [fill, if_neg hn]
    cases hread : d.read n with
    | error e => exact ⟨0, Nat.zero_le n, Takes.refl d, fun bs h => by cases h⟩
    | ok answer =>
      obtain ⟨front, d₁⟩ := answer
      obtain ⟨hlen, takes₁, hfront⟩ := takes_of_read hread
      have hle : front.length ≤ n := by omega
      cases front with
      | nil => exact ⟨0, Nat.zero_le n, takes₁, fun bs h => by cases h; rfl⟩
      | cons b bs =>
        have shorter : n - (b :: bs).length < n := by
          rw [List.length_cons]
          omega
        obtain ⟨m, hm, takes₂, hmore⟩ := ih _ shorter d₁
        refine ⟨(b :: bs).length + m, by omega, takes₁.trans takes₂, fun all h => ?_⟩
        cases hrest : (d₁.fill (n - (b :: bs).length)).1 with
        | error e =>
          simp only [hrest, error_map] at h
          cases h
        | ok more =>
          simp only [hrest, ok_map, Except.ok.injEq] at h
          rw [← h, List.take_add, ← hfront, hmore more hrest, takes₁.moves.undelivered_eq]

/-- What is delivered is taken, and it is no more than was asked for. -/
theorem takes_of_fill {n : Nat} {bs : List UInt8} (h : d.fill n = (.ok bs, d')) :
    bs.length ≤ n ∧ d.Takes d' bs.length := by
  obtain ⟨m, le, takes, given⟩ := d.fill_takes n
  rw [h] at takes given
  have length_eq : bs.length = m := by
    rw [given bs rfl, List.length_take, Nat.min_eq_left takes.le]
  rw [length_eq]
  exact ⟨le, takes⟩

/-- What is delivered exactly is no less either. -/
theorem length_of_readExact {n : Nat} {bs : List UInt8} (h : (d.readExact n).1 = .ok bs) :
    bs.length = n := by
  rw [readExact] at h
  cases filled : d.fill n with
  | mk answer after =>
    rw [filled] at h
    cases answer with
    | error e => cases h
    | ok given =>
      have le := (takes_of_fill filled).1
      by_cases short : given.length < n
      · simp only [if_pos short] at h
        cases h
      · simp only [if_neg short] at h
        cases h
        omega

/-! ### What a healthy device delivers -/

/-- A read delivers first bytes, and at least one if there is one. -/
theorem read_of_healthy (h : d.Healthy) {n : Nat} (hn : n ≠ 0) :
    ∃ front d', d.read n = .ok (front, d') ∧ d.undelivered = front ++ d'.undelivered ∧
      d.Moves d' (d.position + front.length) ∧ front.length ≤ n ∧
        (front = [] → d.undelivered = []) := by
  have works : ¬ d.faulty = true := by simp [faulty, h.faultAt_eq]
  have all : d.deliverable = d.content.size := by simp [deliverable, h.faultAt_eq]
  obtain ⟨front, d', e⟩ : ∃ front d', d.read n = .ok (front, d') :=
    ⟨_, _, by rw [read, if_neg hn, if_neg works]⟩
  obtain ⟨hlen, takes, hfront⟩ := takes_of_read e
  refine ⟨front, d', e, ?_, takes.moves, by omega, ?_⟩
  · calc
      d.undelivered = d.undelivered.take front.length ++ d.undelivered.drop front.length :=
        (List.take_append_drop ..).symm
      _ = front ++ d'.undelivered := by rw [← hfront, takes.moves.undelivered_eq]
  · rintro rfl
    have left := d.length_undelivered
    have := h.portion_pos d.reads
    rw [List.length_nil] at hlen
    exact List.length_eq_zero_iff.mp (by omega)

/-- Asked for `n` bytes, a healthy device gives them, or all it has. -/
theorem fill_of_healthy (h : d.Healthy) (n : Nat) :
    ∃ d', d.fill n = (.ok (d.undelivered.take n), d') ∧
      d.Moves d' (d.position + (d.undelivered.take n).length) := by
  induction n using Nat.strongRecOn generalizing d with
  | ind n ih =>
    by_cases hn : n = 0
    · subst hn
      exact ⟨d, by rw [fill, if_pos rfl, List.take_zero], d.reads, rfl⟩
    obtain ⟨front, d₁, e₁, split, moves₁, hle, hnil⟩ := read_of_healthy h hn
    rw [fill, if_neg hn, e₁]
    cases front with
    | nil =>
      rw [hnil rfl, List.take_nil]
      exact ⟨d₁, rfl, moves₁⟩
    | cons b bs =>
      obtain ⟨d₂, e₂, moves₂⟩ :=
        ih (n - (b :: bs).length) (by simp at hle ⊢; omega) (moves₁.healthy h)
      have htake :
          d.undelivered.take n = (b :: bs) ++ d₁.undelivered.take (n - (b :: bs).length) := by
        rw [split, List.take_append, List.take_of_length_le hle]
      refine ⟨d₂, by simp only [e₂, ok_map, htake], ?_⟩
      rw [htake, List.length_append, ← Nat.add_assoc]
      rw [moves₁.position_eq] at moves₂
      exact moves₁.trans moves₂

/-- Asked for `n` bytes, a healthy device gives them, or all it has, and nothing else is taken. -/
theorem takes_of_healthy (h : d.Healthy) (n : Nat) :
    ∃ d', d.fill n = (.ok (d.undelivered.take n), d') ∧ d'.Healthy ∧
      d.Takes d' (min n d.undelivered.length) := by
  obtain ⟨d', e, moves⟩ := fill_of_healthy h n
  have healthy := moves.healthy h
  rw [List.length_take] at moves
  exact ⟨d', e, healthy, moves, Nat.min_le_right _ _⟩

/-- Asked for no more than it has, a healthy device gives what it was asked for. -/
theorem fill_append (h : d.Healthy) {front rest : List UInt8} (hd : d.undelivered = front ++ rest) :
    ∃ d', d.fill front.length = (.ok front, d') ∧ d'.Healthy ∧ d'.undelivered = rest := by
  obtain ⟨d', e, moves⟩ := fill_of_healthy h front.length
  rw [hd, List.take_left] at e moves
  exact ⟨d', e, moves.healthy h, by rw [moves.undelivered_eq, hd, List.drop_left]⟩

/-- Asked for more than it has, a healthy device gives all it has. -/
theorem fill_short (h : d.Healthy) {n : Nat} (less : d.undelivered.length < n) :
    ∃ d', d.fill n = (.ok d.undelivered, d') := by
  obtain ⟨d', e, -⟩ := fill_of_healthy h n
  rw [List.take_of_length_le (Nat.le_of_lt less)] at e
  exact ⟨d', e⟩

/-! ### A device whose portions grow -/

/-- A device at its start that delivers one byte, then two, then three, and so on. -/
def growing (content : Array UInt8) : Device where
  content := content
  position := 0
  portion := fun k => k + 1
  faultAt := none
  seekFails := false
  faultText := ""

theorem growing_healthy (content : Array UInt8) : (growing content).Healthy :=
  ⟨rfl, fun k => Nat.succ_pos k⟩

end PropertyStore.Device
