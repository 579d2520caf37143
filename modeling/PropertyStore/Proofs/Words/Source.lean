import PropertyStore.Proofs.Device
import PropertyStore.Proofs.Words.Store
import PropertyStore.Store.FromSource

/-!
# Reading stores from sources in words

A source is read in words if its length, the offset and the length of a range, and whatever is
worked out from them are words. Both sources there are give in words what they give in numbers
(`Faithful`), whatever range is asked for, as long as their length has room in a word. Where a set
starts and stops lies within that length, so the loop over the sets has room too.
-/

namespace PropertyStore

/-- A source whose reads are computed in words. -/
class WordSource (σ : Type) where
  /-- How many bytes there are. -/
  size : σ → UInt64
  /-- The `n` bytes from an offset on, and the source after the read. -/
  read : σ → (offset n : UInt64) → Checked ReadError (Array UInt8) × σ

/-- The refusal of a range, where the bytes from `start` on are too few. -/
def MemorySource.refuse (s : MemorySource) (start n : UInt64) :
    Checked ReadError (Array UInt8) := do
  throw (.outOfData start.toNat n.toNat (← Word.sub (Word.count s.bytes) start).toNat)

/-- The range of bytes in memory. The sum of offset and length need not have room in a word. -/
def MemorySource.readInWords (s : MemorySource) (offset n : UInt64) :
    Checked ReadError (Array UInt8) :=
  let total := Word.count s.bytes
  let start := min offset total
  match (Word.add start n).filter fun stop => stop ≤ total ∧ offset ≤ total with
  | some stop => Word.slice s.bytes start stop
  | none => s.refuse start n

instance : WordSource MemorySource where
  size s := Word.count s.bytes
  read s offset n := (s.readInWords offset n, s)

/-- How many bytes of a device are left from an offset on: none past its end. -/
def SeekSource.leftInWords (s : SeekSource) (offset : UInt64) : UInt64 :=
  (Word.sub (.ofNat s.length) offset).getD 0

/-- The range of bytes from the device. -/
def SeekSource.readInWords (s : SeekSource) (offset n : UInt64) :
    Checked ReadError (Array UInt8) × SeekSource :=
  if s.leftInWords offset < n then
    (throw (.outOfData offset.toNat n.toNat (s.leftInWords offset).toNat), s)
  else
    match s.device.seek offset.toNat with
    | .error e => (throw e, s)
    | .ok device =>
      let (bytes, device) := device.readExact n.toNat
      (.ofExcept (bytes.map List.toArray), { s with device })

instance : WordSource SeekSource where
  size s := .ofNat s.length
  read s offset n := s.readInWords offset n

/-- The word of four bytes, each taken by its place. -/
def Word.ofFour (bytes : Array UInt8) : Option UInt32 := do
  let a ← bytes[0]?
  let b ← bytes[1]?
  let c ← bytes[2]?
  let d ← bytes[3]?
  return .ofNat (LittleEndian.toNat [a, b, c, d])

namespace Store

/-- The sets from an offset on, of a source with `length` bytes; `first` says that none came before
it. -/
def readSetsFrom {σ : Type} [WordSource σ] (options : WordOptions) (length : UInt64) (first : Bool)
    (offset : UInt64) (source : σ) : Checked DecodeError (List PropertySet) := do
  if length ≤ offset then
    return []
  else
    let left ← Word.sub length offset
    if left < 4 ∧ first = false then
      return []
    else
      let head := WordSource.read source offset 4
      let size ← Word.ofFour (← head.1)
      if size = 0 then
        return []
      else if size.toUInt64 < 24 then
        throw (.sizeMismatch offset.toNat size.toNat (← Word.sub length offset).toNat)
      else
        let whole := WordSource.read head.2 offset size.toUInt64
        let (set, _) ← (WordCursor.ofBytes (← whole.1) offset).readSet options
        let ⟨next, _⟩ ← (Word.add offset size.toUInt64).attach
        (set :: ·) <$> readSetsFrom options length false next whole.2
termination_by length.toNat - offset.toNat
decreasing_by
  have next_eq := Word.toNat_of_add ‹Word.add offset size.toUInt64 = some next›
  have past : ¬length ≤ offset := ‹_›
  rw [UInt64.le_iff_toNat_le] at past
  have header : 24 ≤ size.toUInt64.toNat := Word.le_of_not_lt ‹¬size.toUInt64 < 24›
  omega

/-- The store that a source holds, read in words. -/
def readSourceInWords {σ : Type} [WordSource σ] (options : WordOptions) (source : σ) :
    Checked DecodeError Store :=
  let length := WordSource.size source
  (⟨·, length.toNat⟩) <$> readSetsFrom options length true 0 source

end Store

open Checked

/-- What is read in words is what is read in numbers, and the source goes on as it does there. -/
structure Faithful (σ : Type) [ByteSource σ] [WordSource σ] : Prop where
  size_eq {s : σ} : ByteSource.size s < UInt64.size →
    (WordSource.size s).toNat = ByteSource.size s
  agrees {s : σ} : ByteSource.size s < UInt64.size → ∀ offset n,
    Agrees (fun bytes bs => bytes.toList = bs ∧ bytes.size = n.toNat ∧
        n.toNat ≤ ByteSource.size s - offset.toNat)
      (WordSource.read s offset n).1 (ByteSource.read s offset.toNat n.toNat).1
  after_eq {s : σ} : ByteSource.size s < UInt64.size → ∀ offset n,
    (WordSource.read s offset n).2 = (ByteSource.read s offset.toNat n.toNat).2
  size_after (s : σ) (offset n : Nat) :
    ByteSource.size (ByteSource.read s offset n).2 = ByteSource.size s

/-- A cursor on the bytes of a range stands as one in numbers does: the range lies inside the
source, so the offset of its end has room. -/
theorem Faithful.agrees_cursor {σ : Type} [ByteSource σ] [WordSource σ] (faithful : Faithful σ)
    {s : σ} {offset : UInt64} (room : ByteSource.size s < UInt64.size)
    (inside : offset.toNat ≤ ByteSource.size s) (n : UInt64) :
    Agrees (fun bytes bs => (WordCursor.ofBytes bytes offset).Stands
          (.ofBytes bs.toArray offset.toNat) ∧
        offset.toNat + n.toNat ≤ ByteSource.size s)
      (WordSource.read s offset n).1 (ByteSource.read s offset.toNat n.toNat).1 := by
  refine (faithful.agrees room offset n).mono ?_
  rintro bytes _ ⟨rfl, size_eq, le⟩
  exact ⟨WordCursor.stands_ofBytes (by omega), by omega⟩

/-! ### The sources are read as they are -/

section

variable {s : MemorySource} {offset n : UInt64}

theorem MemorySource.readInWords_of_le (room : s.bytes.size < UInt64.size)
    (fits : offset.toNat + n.toNat ≤ s.bytes.size) :
    s.readInWords offset n =
      pure (s.bytes.extract offset.toNat (offset.toNat + n.toNat)) := by
  have total_eq := Word.toNat_count room
  rw [readInWords]
  generalize Word.count s.bytes = total at total_eq ⊢
  have inside : offset ≤ total := UInt64.le_iff_toNat_le.mpr (by omega)
  obtain ⟨stop, stop_eq, hstop⟩ :=
    Word.exists_add (a := offset) (b := n) (Nat.lt_of_le_of_lt fits room)
  have stop_le : stop ≤ total := UInt64.le_iff_toNat_le.mpr (by omega)
  have ordered : offset ≤ stop := UInt64.le_iff_toNat_le.mpr (by omega)
  have start_eq : min offset total = offset := if_pos inside
  have range : (some stop).filter (fun stop => stop ≤ total ∧ offset ≤ total) = some stop :=
    if_pos (decide_eq_true ⟨stop_le, inside⟩)
  have slice : Word.slice s.bytes offset stop =
      some (s.bytes.extract offset.toNat stop.toNat) := if_pos ⟨ordered, by omega⟩
  rw [start_eq, stop_eq, range, ← hstop]
  dsimp only
  rw [slice, liftM_some]

/-- An offset past the end counts as the end, and then the sum is too large, or has no room. -/
theorem MemorySource.readInWords_of_not_le (room : s.bytes.size < UInt64.size)
    (past : ¬offset.toNat + n.toNat ≤ s.bytes.size) :
    s.readInWords offset n = throw (.outOfData (min offset.toNat s.bytes.size) n.toNat
      (s.bytes.size - min offset.toNat s.bytes.size)) := by
  have total_eq := Word.toNat_count room
  rw [readInWords]
  have start_eq := Word.toNat_min offset (Word.count s.bytes)
  have none : (Word.add (min offset (Word.count s.bytes)) n).filter
      (fun stop => stop ≤ Word.count s.bytes ∧ offset ≤ Word.count s.bytes) = none := by
    refine Option.filter_eq_none_iff.mpr fun stop sum within => past ?_
    obtain ⟨stop_le, inside⟩ := of_decide_eq_true within
    have stop_eq := Word.toNat_of_add sum
    rw [UInt64.le_iff_toNat_le] at stop_le inside
    omega
  obtain ⟨left, left_eq, hleft⟩ :=
    Word.exists_sub (a := Word.count s.bytes) (b := min offset (Word.count s.bytes)) (by omega)
  rw [none, refuse, left_eq, ← total_eq, ← start_eq, ← hleft]
  rfl

end

theorem MemorySource.faithful : Faithful MemorySource where
  size_eq room := Word.toNat_count room
  after_eq _ _ _ := rfl
  size_after _ _ _ := rfl
  agrees {s} room offset n := by
    have size_eq : ByteSource.size s = s.bytes.size := rfl
    show Agrees _ (s.readInWords offset n) (s.read offset.toNat n.toNat)
    rw [read]
    by_cases fits : offset.toNat + n.toNat ≤ s.bytes.size
    · rw [readInWords_of_le room fits, if_pos fits]
      exact .ok ⟨rfl, by rw [Array.size_extract]; omega, by omega⟩
    · rw [readInWords_of_not_le room fits, if_neg fits]
      exact .error _

section

variable {s : SeekSource} {offset n : UInt64}

theorem SeekSource.toNat_leftInWords (room : s.length < UInt64.size) :
    (s.leftInWords offset).toNat = s.length - offset.toNat := by
  have length_eq : (UInt64.ofNat s.length).toNat = s.length := UInt64.toNat_ofNat_of_lt' room
  rw [leftInWords]
  by_cases le : offset.toNat ≤ s.length
  · rw [← length_eq] at le
    obtain ⟨left, left_eq, hleft⟩ := Word.exists_sub le
    rw [left_eq, Option.getD_some, hleft, length_eq]
  · have lt := Nat.lt_of_not_le le
    rw [Nat.sub_eq_zero_of_le (Nat.le_of_lt lt)]
    rw [← length_eq] at lt
    rw [Word.sub_eq_none lt]
    rfl

theorem SeekSource.readInWords_eq (room : s.length < UInt64.size) :
    s.readInWords offset n = (.ofExcept ((s.read offset.toNat n.toNat).1.map List.toArray),
      (s.read offset.toNat n.toNat).2) := by
  have left_eq : (s.leftInWords offset).toNat = s.length - offset.toNat := toNat_leftInWords room
  rw [readInWords, read, ← left_eq]
  by_cases short : s.leftInWords offset < n
  · rw [if_pos short, if_pos (UInt64.lt_iff_toNat_lt.mp short)]
    rfl
  · rw [if_neg short, if_neg fun lt => short (UInt64.lt_iff_toNat_lt.mpr lt)]
    cases s.device.seek offset.toNat <;> rfl

/-- A range that is given is as long as it should be, and inside the device. -/
theorem SeekSource.length_of_read {offset n : Nat} {bs : List UInt8}
    (h : (s.read offset n).1 = .ok bs) : bs.length = n ∧ n ≤ s.length - offset := by
  rw [read] at h
  split at h
  · cases h
  · next fits =>
    cases sought : s.device.seek offset with
    | error e =>
      rw [sought] at h
      cases h
    | ok device =>
      rw [sought] at h
      exact ⟨device.length_of_readExact h, Nat.le_of_not_lt fits⟩

end

theorem SeekSource.faithful : Faithful SeekSource where
  size_eq room := UInt64.toNat_ofNat_of_lt' room
  after_eq {s} room offset n := by
    show (s.readInWords offset n).2 = (s.read offset.toNat n.toNat).2
    rw [readInWords_eq room]
  size_after s offset n := by
    show (s.read offset n).2.length = s.length
    rw [read]
    split
    · rfl
    · cases s.device.seek offset <;> rfl
  agrees {s} room offset n := by
    show Agrees _ (s.readInWords offset n).1 (s.read offset.toNat n.toNat).1
    rw [readInWords_eq room]
    cases given : (s.read offset.toNat n.toNat).1 with
    | error e => exact .error e
    | ok bs =>
      obtain ⟨length_eq, le⟩ := length_of_read given
      exact .ok ⟨List.toList_toArray .., length_eq, le⟩

/-! ### The loop -/

theorem Word.ofFour_eq {bytes : Array UInt8} (four : bytes.size = 4) :
    ∃ w, ofFour bytes = some w ∧ w.toNat = LittleEndian.toNat bytes.toList := by
  rcases bytes with ⟨_ | ⟨a, _ | ⟨b, _ | ⟨c, _ | ⟨d, _ | _⟩⟩⟩⟩⟩ <;> cases four
  exact ⟨_, rfl, UInt32.toNat_ofNat_of_lt' (LittleEndian.toNat_lt [a, b, c, d])⟩

namespace Store

variable {σ : Type} [ByteSource σ] {source : σ} {first : Bool}

/-- The sets from an offset on at which there is more, read step by step. -/
theorem decodeSetsFrom_of_goesOn {options : DecodeOptions} {length offset : Nat}
    (goesOn : ¬(length ≤ offset ∨ length - offset < 4 ∧ first = false)) :
    decodeSetsFrom options length first offset source = (do
      let head := ByteSource.read source offset 4
      let size := LittleEndian.toNat (← head.1)
      if size = 0 then
        return []
      else if size < PropertySet.headerSize then
        .error (.sizeMismatch offset size (length - offset))
      else
        let whole := ByteSource.read head.2 offset size
        let (set, _) ← PropertySet.decode options (.ofBytes (← whole.1).toArray offset)
        (decodeSetsFrom options length false (offset + size) whole.2).map (set :: ·)) := by
  rw [decodeSetsFrom, if_neg goesOn]
  cases ByteSource.read source offset 4 with
  | mk head after =>
    cases head with
    | error e => rfl
    | ok head =>
      dsimp only
      show _ = if LittleEndian.toNat head = 0 then _ else _
      congr 1
      congr 1
      cases ByteSource.read after offset (LittleEndian.toNat head) with
      | mk bytes after =>
        cases bytes with
        | error e => rfl
        | ok bytes =>
          dsimp only
          rw [DecodeError.liftM_ok, ok_bind]
          cases PropertySet.decode options (.ofBytes bytes.toArray offset) <;> rfl

/-- In words the sets of a source are read as they are in numbers. -/
theorem agrees_readSetsFrom [WordSource σ] (faithful : Faithful σ) (options : WordOptions)
    {length : UInt64} (size_eq : ByteSource.size source = length.toNat) (offset : UInt64) :
    Agrees Eq (readSetsFrom options length first offset source)
      (decodeSetsFrom options.inNumbers length.toNat first offset.toNat source) := by
  -- On the bytes past the offset: a set takes its header from them at least. That the source is as
  -- long as before is what carries the room from one set to the next.
  induction left : length.toNat - offset.toNat using Nat.strongRecOn
    generalizing first offset source with
  | ind n ih =>
    subst left
    rw [readSetsFrom]
    by_cases past : length ≤ offset
    · rw [if_pos past, decodeSetsFrom, if_pos (Or.inl (UInt64.le_iff_toNat_le.mp past))]
      exact .ok rfl
    have inside : offset.toNat < length.toNat :=
      Nat.lt_of_not_le fun le => past (UInt64.le_iff_toNat_le.mpr le)
    obtain ⟨left, left_eq, hleft⟩ := Word.exists_sub (Nat.le_of_lt inside)
    have short_iff : left < 4 ↔ length.toNat - offset.toNat < 4 := Word.lt_iff hleft rfl
    simp only [if_neg past, left_eq, liftM_some, pure_bind, short_iff]
    by_cases fragment : length.toNat - offset.toNat < 4 ∧ first = false
    · rw [if_pos fragment, decodeSetsFrom, if_pos (Or.inr fragment)]
      exact .ok rfl
    rw [if_neg fragment,
      decodeSetsFrom_of_goesOn (not_or.mpr ⟨Nat.not_le.mpr inside, fragment⟩)]
    have room : ByteSource.size source < UInt64.size := size_eq ▸ length.toNat_lt
    refine (faithful.agrees room offset 4).lift.bind ?_
    rintro head _ ⟨rfl, four, -⟩
    obtain ⟨size, known, hsize⟩ := Word.ofFour_eq four
    rw [known, ← hsize, faithful.after_eq room, liftM_some, pure_bind]
    have zero_iff : size = 0 ↔ size.toNat = 0 := UInt32.toNat_inj.symm
    have value := UInt32.toNat_toUInt64 size
    have small_iff : size.toUInt64 < 24 ↔ size.toNat < PropertySet.headerSize :=
      Word.lt_iff value rfl
    by_cases zero : size.toNat = 0
    · rw [if_pos (zero_iff.mpr zero), if_pos zero]
      exact .ok rfl
    rw [if_neg fun none => zero (zero_iff.mp none), if_neg zero]
    by_cases small : size.toNat < PropertySet.headerSize
    · rw [if_pos (small_iff.mpr small), if_pos small, hleft]
      exact .error _
    rw [if_neg fun lt => small (small_iff.mp lt), if_neg small]
    obtain ⟨source', next_eq⟩ : ∃ s, s = (ByteSource.read source offset.toNat 4).2 := ⟨_, rfl⟩
    have size_eq' : ByteSource.size source' = length.toNat := by
      rw [next_eq, faithful.size_after, size_eq]
    have room' : ByteSource.size source' < UInt64.size := size_eq' ▸ length.toNat_lt
    have whole := faithful.agrees_cursor room' (size_eq' ▸ Nat.le_of_lt inside) size.toUInt64
    have after_eq := faithful.after_eq room' offset size.toUInt64
    rw [value] at whole after_eq
    rw [show UInt64.toNat 4 = 4 from rfl, ← next_eq, after_eq]
    refine whole.lift.bind fun bytes bs ⟨stands, fits⟩ => ?_
    refine (stands.readSet options).bind ?_
    rintro ⟨set, _⟩ ⟨_, _⟩ ⟨rfl, -⟩
    -- The whole set is there, so the offset past it has room where the length has.
    obtain ⟨next, known, hnext⟩ := Word.exists_add (a := offset) (b := size.toUInt64) (by omega)
    rw [value] at hnext
    dsimp only
    rw [Option.attach_eq_some _ ⟨next, known⟩, ← hnext]
    have last : ByteSource.size (ByteSource.read source' offset.toNat size.toNat).2 =
        length.toNat := by
      rw [faithful.size_after, size_eq']
    exact (ih _ (by omega) last next rfl).map fun _ _ same => congrArg (set :: ·) same

/-- In words a store is read from a source as it is in numbers. -/
theorem agrees_readSourceInWords [WordSource σ] (faithful : Faithful σ) (options : WordOptions)
    (room : ByteSource.size source < UInt64.size) :
    Agrees Eq (readSourceInWords options source) (decodeSource options.inNumbers source) := by
  have size_eq := faithful.size_eq room
  rw [readSourceInWords, decodeSource, ← size_eq]
  exact (agrees_readSetsFrom faithful options size_eq.symm 0).map fun _ _ same =>
    congrArg (Store.mk · (WordSource.size source).toNat) same

end Store

end PropertyStore
