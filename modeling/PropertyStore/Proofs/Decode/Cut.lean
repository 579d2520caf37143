import PropertyStore.Proofs.Decode.Store

/-!
# A store that is cut off

What is left of a store when only its first bytes are there depends on where the cut is, and
on nothing else. After a set, or up to three bytes later, it is a store with the sets before
the cut; so it is when nothing is left, and when the four bytes that end the store are still
there (`EndsAfter`). Everywhere else the bytes have run out, and the failure tells where the
set that is cut off starts, how long it would have been, and how much of it is left
(`decode_cut`). Only where not even the first size is left there is no set to speak of, and
four bytes are what was wanted (`Wanted`).
-/

namespace PropertyStore

open LittleEndian

namespace PropertySet

/-- Where the first `i` sets of a store end. -/
def boundary (sets : List PropertySet) (i : Nat) : Nat := totalSize (sets.take i)

theorem totalSize_append (sets more : List PropertySet) :
    totalSize (sets ++ more) = totalSize sets + totalSize more := by
  induction sets with
  | nil => simp [totalSize]
  | cons s sets ih => simp only [List.cons_append, totalSize, ih, Nat.add_assoc]

@[simp] theorem boundary_zero (sets : List PropertySet) : boundary sets 0 = 0 := rfl

theorem boundary_succ {sets : List PropertySet} {i : Nat} {s : PropertySet}
    (h : sets[i]? = some s) : boundary sets (i + 1) = boundary sets i + s.size.toNat := by
  rw [boundary, List.take_add_one, h, totalSize_append]
  rfl

end PropertySet

namespace Store

open PropertySet

/-! ### Where a cut may be -/

/-- A store with these sets, cut off after `n` bytes, ends after its first `i` sets. -/
inductive EndsAfter (sets : List PropertySet) (n : Nat) : Nat → Prop where
  /-- Nothing is left. -/
  | nothing (zero : n = 0) : EndsAfter sets n 0
  /-- The cut is at the end of a set, or leaves a fragment of what follows it. -/
  | fragment {i : Nat} (pos : 0 < i) (le : i ≤ sets.length) (lower : boundary sets i ≤ n)
    (upper : n ≤ boundary sets i + 3) : EndsAfter sets n i
  /-- The four bytes that end the store are left. -/
  | terminator (lower : boundary sets sets.length + 4 ≤ n) : EndsAfter sets n sets.length

/-- The `i`-th boundary is the last one below `n`. -/
structure LastBelow (sets : List PropertySet) (n i : Nat) : Prop where
  le : i ≤ sets.length
  below : boundary sets i < n
  last (j : Nat) (hj : j ≤ sets.length) (hn : boundary sets j < n) : j ≤ i

/-- How many bytes are wanted from the `i`-th boundary on, and are not there. -/
inductive Wanted (sets : List PropertySet) (n : Nat) : Nat → Nat → Prop where
  /-- Not even the size of the first set is left. -/
  | size (less : n < 4) : Wanted sets n 0 4
  /-- A set is cut off. -/
  | set {i : Nat} {s : PropertySet} (next : sets[i]? = some s) (long : i = 0 → 4 ≤ n) :
    Wanted sets n i s.size.toNat

theorem exists_lastBelow (sets : List PropertySet) {n : Nat} (hn : 0 < n) :
    ∃ i, LastBelow sets n i := by
  suffices h : ∀ k, ∃ i ≤ k, boundary sets i < n ∧ ∀ j ≤ k, boundary sets j < n → j ≤ i by
    obtain ⟨i, le, below, last⟩ := h sets.length
    exact ⟨i, le, below, last⟩
  intro k
  induction k with
  | zero => exact ⟨0, Nat.le_refl 0, hn, fun j hj _ => hj⟩
  | succ k ih =>
    by_cases h : boundary sets (k + 1) < n
    · exact ⟨k + 1, Nat.le_refl _, h, fun j hj _ => hj⟩
    · obtain ⟨i, le, below, last⟩ := ih
      refine ⟨i, Nat.le_succ_of_le le, below, fun j hj hlt => ?_⟩
      obtain hj | rfl := Nat.le_succ_iff.mp hj
      · exact last j hj hlt
      · exact absurd hlt h

/-- Not even the first size is left, or the set after the `i`-th boundary is cut off with its size
still there. -/
def CutOff (sets : List PropertySet) (n i : Nat) : Prop :=
  i = 0 ∧ n < 4 ∨ i < sets.length ∧ boundary sets i + 4 ≤ n ∧ n < boundary sets (i + 1)

/-- Past a fragment that would be passed over, a set is cut off. -/
theorem cutOff_of_past {sets : List PropertySet} {n i : Nat} (hi : i < sets.length)
    (upper : n < boundary sets (i + 1)) (past : i = 0 ∨ boundary sets i + 3 < n) :
    CutOff sets n i := by
  have zero := boundary_zero sets
  unfold CutOff
  obtain rfl | past := past <;> omega

/-- If the store does not end with the last boundary below the cut, something is cut off there. -/
theorem LastBelow.cutOff {sets : List PropertySet} {n i : Nat} (h : LastBelow sets n i)
    (inner : ∀ j, ¬ EndsAfter sets n j) : CutOff sets n i := by
  by_cases short : i = 0 ∧ n < 4
  · exact Or.inl short
  have below := h.below
  have size_there : boundary sets i + 4 ≤ n := by
    obtain rfl | pos := Nat.eq_zero_or_pos i
    · rw [boundary_zero]
      omega
    · have outside : ¬ n ≤ boundary sets i + 3 := fun upper =>
        inner i (EndsAfter.fragment pos h.le (Nat.le_of_lt below) upper)
      omega
  have notLast : i < sets.length := by
    refine Nat.lt_of_le_of_ne h.le ?_
    rintro rfl
    exact inner _ (EndsAfter.terminator size_there)
  refine Or.inr ⟨notLast, size_there, Nat.lt_of_not_le fun passed => ?_⟩
  obtain less | equal := Nat.lt_or_eq_of_le passed
  · have := h.last (i + 1) notLast less
    omega
  · exact inner (i + 1) (EndsAfter.fragment (Nat.succ_pos i) notLast (by omega) (by omega))

/-! ### What is left -/

variable {options : DecodeOptions} {input : Array UInt8} {front rest : List UInt8}
  {sets : List PropertySet} {n i : Nat}

/-- A cut after a boundary leaves the sets before it whole, and some of what follows them. -/
theorem cut_after_boundary (run : Run (IsSet options) front sets)
    (hinput : front ++ rest = input.toList) (hn : boundary sets i ≤ n) :
    ∃ head back, Run (IsSet options) head (sets.take i) ∧ Run (IsSet options) back (sets.drop i) ∧
      head.length = boundary sets i ∧
      head ++ (back ++ rest).take (n - boundary sets i) = (input.extract 0 n).toList := by
  obtain ⟨head, back, rfl, hhead, hback⟩ := run.split i
  have hlen : head.length = boundary sets i := hhead.length_sets
  refine ⟨head, back, hhead, hback, hlen, ?_⟩
  have whole : head.take n = head := List.take_of_length_le (hlen ▸ hn)
  have cut : (head ++ (back ++ rest)).take n =
      head.take n ++ (back ++ rest).take (n - head.length) := List.take_append
  rw [toList_extract_zero, ← hinput, List.append_assoc, cut, whole, hlen]

/-- A store that is cut off after some sets is a store with those sets. -/
theorem decode_of_endsAfter (run : Run (IsSet options) front sets) (isEnd : IsEnd sets.isEmpty rest)
    (hinput : front ++ rest = input.toList) (hn : n ≤ input.size) (ends : EndsAfter sets n i) :
    decode options (input.extract 0 n) = .ok ⟨sets.take i, n⟩ := by
  have hsize : (input.extract 0 n).size = n := by rw [Array.size_extract]; omega
  suffices h : ∃ head left, Run (IsSet options) head (sets.take i) ∧
      IsEnd (sets.take i).isEmpty left ∧ head ++ left = (input.extract 0 n).toList by
    obtain ⟨head, left, hhead, hleft, heq⟩ := h
    rw [decode_of_isEnd hhead hleft heq, hsize]
  cases ends with
  | nothing zero =>
    subst zero
    exact ⟨[], [], Run.nil, IsEnd.none _, by simp⟩
  | fragment pos le lower upper =>
    obtain ⟨head, back, hhead, -, -, heq⟩ := cut_after_boundary run hinput lower
    refine ⟨head, _, hhead, ?_, heq⟩
    have some : (sets.take i).isEmpty = false := by
      cases sets with
      | nil => simp at le; omega
      | cons s sets =>
        cases i with
        | zero => omega
        | succ i => rfl
    rw [some]
    have few : ((back ++ rest).take (n - boundary sets i)).length < 4 := by
      rw [List.length_take]
      omega
    by_cases hnil : (back ++ rest).take (n - boundary sets i) = []
    · rw [hnil]
      exact IsEnd.none false
    · exact IsEnd.fragment hnil few
  | terminator lower =>
    have hlower : boundary sets sets.length ≤ n := by omega
    obtain ⟨head, back, hhead, hback, hlen, heq⟩ := cut_after_boundary run hinput hlower
    refine ⟨head, _, hhead, ?_, heq⟩
    rw [List.drop_length] at hback
    cases hback
    have long : 4 ≤ rest.length := by
      have := run.length_sets
      rw [← Array.length_toList, ← hinput, List.length_append] at hn
      rw [boundary, List.take_length] at lower
      omega
    rw [List.take_length]
    generalize sets.isEmpty = first at isEnd
    cases isEnd with
    | none => simp at long
    | fragment _ less => omega
    | terminator _ more =>
      have word : (word32 0).length ≤ n - boundary sets sets.length := by
        rw [length_word32]
        omega
      rw [List.nil_append, List.take_append, List.take_of_length_le word]
      exact IsEnd.terminator _ _

/-- A store that is cut off before the first size is there. -/
theorem decode_of_first_size_short (hn : n ≤ input.size) (pos : 0 < n) (less : n < 4) :
    decode options (input.extract 0 n) = .error (.read (.outOfData 0 4 n)) := by
  have hlen : (input.extract 0 n).toList.length = n := by
    rw [toList_extract_zero, List.length_take, Array.length_toList, Nat.min_eq_left hn]
  have defect : StoreDefect options true 0 (input.extract 0 n).toList
      (.read (.outOfData 0 4 (input.extract 0 n).toList.length)) :=
    StoreDefect.fragment (List.length_pos_iff.mp (by omega)) (by omega)
  rw [hlen] at defect
  exact decode_of_storeDefect Run.nil defect rfl

/-- The first bytes of a set, its size among them, are not enough. -/
theorem storeDefect_of_take {bs : List UInt8} {s : PropertySet} {m : Nat} (first : Bool)
    (start : Nat) (isSet : IsSet options bs s) (lower : 4 ≤ m) (upper : m < bs.length) :
    StoreDefect options first start (bs.take m)
      (.read (.outOfData start s.size.toNat m)) := by
  have hsize := isSet.length_eq
  have header := isSet.header_le
  obtain ⟨nonzero, body, rfl⟩ := isSet.starts
  have left : (word32 s.size ++ body).take m = word32 s.size ++ body.take (m - 4) := by
    rw [List.take_append, List.take_of_length_le (by rwa [length_word32]), length_word32]
  have hleft : (word32 s.size ++ body.take (m - 4)).length = m := by
    rw [← left, List.length_take, Nat.min_eq_left (Nat.le_of_lt upper)]
  have defect : SetDefect options start (word32 s.size ++ body.take (m - 4))
      (.read (.outOfData start s.size.toNat (word32 s.size ++ body.take (m - 4)).length)) :=
    SetDefect.short (hsize ▸ header) (by omega)
  rw [hleft] at defect
  rw [left]
  exact StoreDefect.set nonzero defect

/-- A store that is cut off inside a set of which the size is there. -/
theorem decode_of_set_short {s : PropertySet} (run : Run (IsSet options) front sets)
    (hinput : front ++ rest = input.toList) (next : sets[i]? = some s)
    (lower : boundary sets i + 4 ≤ n) (upper : n < boundary sets (i + 1)) :
    decode options (input.extract 0 n) =
      .error (.read (.outOfData (boundary sets i) s.size.toNat (n - boundary sets i))) := by
  obtain ⟨head, back, hhead, hback, hlen, heq⟩ :=
    cut_after_boundary run hinput (by omega : boundary sets i ≤ n)
  obtain ⟨hi, hs⟩ := List.getElem?_eq_some_iff.mp next
  rw [List.drop_eq_getElem_cons hi, hs] at hback
  cases hback with
  | @cons part more _ _ isSet _ =>
    have hpart := isSet.length_eq
    have less : n - boundary sets i < part.length := by
      rw [boundary_succ next] at upper
      omega
    rw [List.append_assoc, List.take_append_of_le_length (Nat.le_of_lt less)] at heq
    have defect := storeDefect_of_take (sets.take i).isEmpty head.length isSet (by omega) less
    rw [hlen] at defect
    exact decode_of_storeDefect hhead (hlen ▸ defect) heq

/-- Where something is cut off, the bytes have run out. -/
theorem decode_of_cutOff (run : Run (IsSet options) front sets)
    (hinput : front ++ rest = input.toList) (hn : n ≤ input.size) (below : boundary sets i < n)
    (cut : CutOff sets n i) :
    ∃ wanted, Wanted sets n i wanted ∧ decode options (input.extract 0 n) =
      .error (.read (.outOfData (boundary sets i) wanted (n - boundary sets i))) := by
  obtain ⟨rfl, less⟩ | ⟨hi, size_there, upper⟩ := cut
  · exact ⟨4, Wanted.size less, decode_of_first_size_short hn below less⟩
  · have next : sets[i]? = some sets[i] := List.getElem?_eq_getElem hi
    have long : i = 0 → 4 ≤ n := fun _ => Nat.le_trans (Nat.le_add_left 4 _) size_there
    exact ⟨_, Wanted.set next long, decode_of_set_short run hinput next size_there upper⟩

/-- **What is left of a store that is cut off.** Where it ends after some of its sets it is the
store of those sets. Everywhere else the bytes have run out: the failure tells the last boundary
below the cut, what was wanted there, and how much is left of it. So a cut inside a set, past any
fragment that would be passed over, is never accepted and never told as anything else. -/
theorem decode_cut (options : DecodeOptions) {input : Array UInt8} {store : Store}
    (hok : decode options input = .ok store) {n : Nat} (hn : n ≤ input.size) :
    (∀ i, EndsAfter store.sets n i →
      decode options (input.extract 0 n) = .ok ⟨store.sets.take i, n⟩) ∧
    ((∀ i, ¬ EndsAfter store.sets n i) →
      ∃ i wanted, LastBelow store.sets n i ∧ Wanted store.sets n i wanted ∧
        decode options (input.extract 0 n) =
          .error (.read (.outOfData (boundary store.sets i) wanted
            (n - boundary store.sets i)))) ∧
    ∀ i < store.sets.length, boundary store.sets i < n → n < boundary store.sets (i + 1) →
      (i = 0 ∨ boundary store.sets i + 3 < n) →
      ∃ wanted, decode options (input.extract 0 n) =
        .error (.read (.outOfData (boundary store.sets i) wanted (n - boundary store.sets i))) := by
  obtain ⟨⟨front, rest, sets, hinput, run, isEnd⟩, rfl⟩ :=
    ((decode_settles options input).ok_iff store).mp hok
  refine ⟨fun i => decode_of_endsAfter run isEnd hinput hn, fun inner => ?_, ?_⟩
  · have pos : 0 < n := Nat.pos_of_ne_zero fun zero => inner 0 (EndsAfter.nothing zero)
    obtain ⟨i, last⟩ := exists_lastBelow sets pos
    obtain ⟨wanted, hwanted, e⟩ :=
      decode_of_cutOff run hinput hn last.below (last.cutOff inner)
    exact ⟨i, wanted, last, hwanted, e⟩
  · intro i hi lower upper past
    obtain ⟨wanted, -, e⟩ :=
      decode_of_cutOff run hinput hn lower (cutOff_of_past hi upper past)
    exact ⟨wanted, e⟩

/-- Two sets without records, and the end of the store. -/
def twoBare : Array UInt8 := bareThen (PropertySet.bareBytes .zero ++ word32 0)

/-- Cut off two bytes into its second set the store has one set; cut off in the middle of it, the
bytes have run out there. -/
theorem decode_cut_twoBare :
    decode {} twoBare = .ok ⟨[.bare .zero, .bare .zero], 52⟩ ∧ 26 ≤ twoBare.size ∧
      40 ≤ twoBare.size ∧ decode {} (twoBare.extract 0 26) = .ok ⟨[.bare .zero], 26⟩ ∧
      decode {} (twoBare.extract 0 40) = .error (.read (.outOfData 24 24 16)) := by
  have hok : decode {} twoBare = .ok ⟨[.bare .zero, .bare .zero], 52⟩ :=
    decode_of_isEnd (Run.cons (isSet_bare {} .zero) (Run.cons (isSet_bare {} .zero) Run.nil))
      (IsEnd.terminator false []) rfl
  have h26 : 26 ≤ twoBare.size := by decide
  have h40 : 40 ≤ twoBare.size := by decide
  refine ⟨hok, h26, h40, ?_, ?_⟩
  · exact (decode_cut {} hok h26).1 1
      (EndsAfter.fragment (by decide) (by decide) (by decide) (by decide))
  · have inner : ∀ i, ¬ EndsAfter [PropertySet.bare .zero, .bare .zero] 40 i := by
      rintro i (zero | ⟨pos, le, lower, upper⟩ | lower)
      · cases zero
      · obtain rfl | rfl : i = 1 ∨ i = 2 := by
          simp only [List.length_cons, List.length_nil] at le
          omega
        · exact absurd upper (by decide)
        · exact absurd lower (by decide)
      · exact absurd lower (by decide)
    obtain ⟨i, wanted, last, hwanted, e⟩ := (decode_cut {} hok h40).2.1 inner
    have atLeast : 1 ≤ i := last.last 1 (by decide) (by decide)
    have atMost : i ≤ 2 := last.le
    have notTwo : i ≠ 2 := by
      rintro rfl
      exact absurd last.below (by decide)
    obtain rfl : i = 1 := by omega
    cases hwanted with
    | set next _ =>
      cases next
      exact e

end Store

end PropertyStore
