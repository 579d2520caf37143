import PropertyStore.Proofs.Decode.Source

/-!
# What sources answer

A source is asked for a range of its bytes. The one right answer does not depend on what has been
asked before: the range, if it is there; else that the source is out of data, with the offset that
was asked for and the bytes that are left from it (`RangeAnswer`).

Both kinds of source give that answer wherever the offset lies inside the bytes or at their end.
Past the end they part, from it and from each other: bytes in memory tell their own end as the
offset, and a device gives the range of no bytes as if it were there (`read_after_iff`).
-/

namespace PropertyStore.ByteSource

/-- The right answer of a source of `content` to the question for the `n` bytes from `offset` on. -/
inductive RangeAnswer (content : List UInt8) (offset n : Nat) :
    Except ReadError (List UInt8) → Prop where
  /-- The range is there. -/
  | range {front bs rest : List UInt8} (content_eq : content = front ++ (bs ++ rest))
    (offset_eq : front.length = offset) (length_eq : bs.length = n) :
    RangeAnswer content offset n (.ok bs)
  /-- The range runs past the end. -/
  | past (more : content.length < offset + n) :
    RangeAnswer content offset n
      (.error (.outOfData offset n (content.length - min offset content.length)))

/-- A source after some reads. Each is of a range: an offset, and how many bytes from there on. -/
def after {σ : Type} [ByteSource σ] (s : σ) (reads : List (Nat × Nat)) : σ :=
  reads.foldl (fun s range => (read s range.1 range.2).2) s

variable {content : Array UInt8} {offset n : Nat} {answer : Except ReadError (List UInt8)}

/-! ### The right answer -/

/-- Past the end there is one right answer at most. -/
theorem RangeAnswer.eq_of_past (h : RangeAnswer content.toList offset n answer)
    (more : content.size < offset + n) :
    answer = .error (.outOfData offset n (content.size - min offset content.size)) := by
  cases h with
  | range content_eq offset_eq length_eq =>
    have := congrArg List.length content_eq
    rw [List.length_append, List.length_append, Array.length_toList] at this
    omega
  | past => rw [Array.length_toList]

theorem rangeAnswer_of_fits (fits : offset + n ≤ content.size) :
    RangeAnswer content.toList offset n (.ok ((content.toList.drop offset).take n)) := by
  have length_drop : (content.toList.drop offset).length = content.size - offset := by
    rw [List.length_drop, Array.length_toList]
  have split : content.toList = content.toList.take offset ++
      ((content.toList.drop offset).take n ++ (content.toList.drop offset).drop n) := by
    rw [List.take_append_drop, List.take_append_drop]
  refine RangeAnswer.range split ?_ ?_
  · rw [List.length_take, Array.length_toList]
    omega
  · rw [List.length_take, length_drop]
    omega

theorem rangeAnswer_of_past (more : content.size < offset + n) :
    RangeAnswer content.toList offset n
      (.error (.outOfData offset n (content.size - min offset content.size))) := by
  have past : content.toList.length < offset + n := by rwa [Array.length_toList]
  have answers := RangeAnswer.past past
  rwa [Array.length_toList] at answers

/-! ### Bytes in memory -/

/-- Bytes in memory are as they were after any reads. -/
theorem after_memory (s : MemorySource) (reads : List (Nat × Nat)) : after s reads = s := by
  induction reads with
  | nil => rfl
  | cons r reads ih => exact ih

/-- Bytes in memory give the right answer at the offsets up to their end, and at no other. -/
theorem rangeAnswer_memory_iff :
    RangeAnswer content.toList offset n ((MemorySource.mk content).read offset n) ↔
      offset ≤ content.size := by
  rw [MemorySource.read]
  by_cases fits : offset + n ≤ content.size
  · have hbs :
        (content.extract offset (offset + n)).toList = (content.toList.drop offset).take n := by
      rw [Array.toList_extract, List.extract_eq_take_drop, Nat.add_sub_cancel_left]
    rw [if_pos fits, hbs]
    exact ⟨fun _ => by omega, fun _ => rangeAnswer_of_fits fits⟩
  · have more : content.size < offset + n := Nat.lt_of_not_le fits
    rw [if_neg fits]
    constructor
    · intro answers
      -- The offset of the failure is never past the end, that of the right answer may be.
      have told := answers.eq_of_past more
      simp only [Except.error.injEq, ReadError.outOfData.injEq] at told
      omega
    · intro inside
      have answers := rangeAnswer_of_past more
      rwa [Nat.min_eq_left inside] at answers ⊢

/-! ### Devices -/

/-- A device that works still works after any reads. -/
theorem healthy_after {s : SeekSource} (h : s.Healthy content) (reads : List (Nat × Nat)) :
    SeekSource.Healthy content (after s reads) := by
  induction reads generalizing s with
  | nil => exact h
  | cons r reads ih =>
    obtain ⟨s', h', e⟩ := SeekSource.read_of_healthy h r.1 r.2
    have next : SeekSource.Healthy content (s.read r.1 r.2).2 := by rwa [e]
    exact ih next

/-- A device that works gives the right answer unless no bytes past the end are asked for. -/
theorem rangeAnswer_device_iff {s : SeekSource} (h : s.Healthy content) :
    RangeAnswer content.toList offset n (s.read offset n).1 ↔ offset ≤ content.size ∨ 0 < n := by
  obtain ⟨s', -, e⟩ := SeekSource.read_of_healthy h offset n
  rw [e]
  by_cases less : content.size - offset < n
  · have left : content.size - min offset content.size = content.size - offset := by omega
    have answers := rangeAnswer_of_past (show content.size < offset + n by omega)
    rw [left] at answers
    rw [if_pos less]
    exact ⟨fun _ => Or.inr (by omega), fun _ => answers⟩
  · rw [if_neg less]
    by_cases fits : offset + n ≤ content.size
    · exact ⟨fun _ => Or.inl (by omega), fun _ => rangeAnswer_of_fits fits⟩
    · constructor
      · intro answers
        have told := answers.eq_of_past (Nat.lt_of_not_le fits)
        cases told
      · intro inside
        omega

/-! ### Both -/

/-- **Sources answer for the range they are asked for.** After any reads, wherever the offset is not
past the end, bytes in memory and a device that works give the right answer, however it cuts its
deliveries. Past the end the device still does unless it is asked for no bytes, which it gives;
bytes in memory tell their end in place of the offset. -/
theorem read_after_iff (content : Array UInt8) (reads : List (Nat × Nat)) (offset n : Nat) :
    (RangeAnswer content.toList offset n (read (after (MemorySource.mk content) reads) offset n).1 ↔
        offset ≤ content.size) ∧
      (content.size < offset → (read (after (MemorySource.mk content) reads) offset n).1 =
        .error (.outOfData content.size n 0)) ∧
      ∀ d : Device, d.Healthy → d.seekFails = false → d.content = content →
        ∃ s, SeekSource.ofDevice d = .ok s ∧
          (RangeAnswer content.toList offset n (read (after s reads) offset n).1 ↔
            offset ≤ content.size ∨ 0 < n) ∧
          (content.size < offset → (read (after s reads) offset 0).1 = .ok []) := by
  rw [after_memory]
  refine ⟨rangeAnswer_memory_iff, fun beyond => ?_, ?_⟩
  · have clamped : min offset content.size = content.size := Nat.min_eq_right (Nat.le_of_lt beyond)
    have misses : ¬ offset + n ≤ content.size := by omega
    calc
      (MemorySource.mk content).read offset n =
          .error (.outOfData (min offset content.size) n
            (content.size - min offset content.size)) := if_neg misses
      _ = .error (.outOfData content.size n 0) := by rw [clamped, Nat.sub_self]
  · rintro d healthy seeks rfl
    obtain ⟨s, e, hs⟩ := SeekSource.ofDevice_of_healthy healthy seeks
    have works := healthy_after hs reads
    refine ⟨s, e, rangeAnswer_device_iff works, fun _ => ?_⟩
    obtain ⟨s', -, e'⟩ := SeekSource.read_of_healthy works offset 0
    rw [if_neg (Nat.not_lt_zero _), List.take_zero] at e'
    show ((after s reads).read offset 0).1 = _
    rw [e']

/-- Five bytes, after a read that was refused, are asked for the last two, and for three. -/
theorem read_after_growing :
    RangeAnswer [1, 2, 3, 4, 5] 3 2
        (read (after (MemorySource.mk #[1, 2, 3, 4, 5]) [(9, 1)]) 3 2).1 ∧
      ∃ s, SeekSource.ofDevice (.growing #[1, 2, 3, 4, 5]) = .ok s ∧
        RangeAnswer [1, 2, 3, 4, 5] 3 3 (read (after s [(9, 1)]) 3 3).1 := by
  constructor
  · exact (read_after_iff #[1, 2, 3, 4, 5] [(9, 1)] 3 2).1.mpr (by decide)
  · obtain ⟨s, e, answers, -⟩ := (read_after_iff #[1, 2, 3, 4, 5] [(9, 1)] 3 3).2.2
      (.growing _) (Device.growing_healthy _) rfl rfl
    exact ⟨s, e, answers.mpr (Or.inl (by decide))⟩

/-- Asked for a byte at offset nine, five bytes in memory say that they are out of data at offset
five. -/
theorem read_memory_past_end :
    (read (MemorySource.mk #[1, 2, 3, 4, 5]) 9 1).1 = .error (.outOfData 5 1 0) ∧
      ¬ RangeAnswer [1, 2, 3, 4, 5] 9 1 (read (MemorySource.mk #[1, 2, 3, 4, 5]) 9 1).1 := by
  have told : (read (MemorySource.mk #[1, 2, 3, 4, 5]) 9 1).1 = .error (.outOfData 5 1 0) := rfl
  refine ⟨told, ?_⟩
  rw [told]
  intro answers
  have past : (#[1, 2, 3, 4, 5] : Array UInt8).size < 9 + 1 := by decide
  have right := RangeAnswer.eq_of_past answers past
  simp only [Except.error.injEq, ReadError.outOfData.injEq] at right
  exact absurd right.1 (by decide)

end PropertyStore.ByteSource
