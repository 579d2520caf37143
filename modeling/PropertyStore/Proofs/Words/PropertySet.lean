import PropertyStore.PropertySet.Decode
import PropertyStore.Proofs.Words.Record

/-!
# Reading sets in words

The chain of records is read for as long as there are bytes left. A record takes at least one of
them, in words as in numbers, so the chain ends, and at the same record: the induction is on the
bytes that are left.
-/

namespace PropertyStore.WordCursor

open Checked

/-- The chain of records at a cursor, and the cursor past its end. -/
def readRecords (layout : RecordLayout) (options : WordOptions) (m : WordCursor) :
    Checked DecodeError (List Record × WordCursor) := do
  if (← m.remaining) = 0 then
    return ([], m)
  else
    let offset ← m.offset
    let size ← m.peekU32
    if size = 0 then
      let m ← m.skip 4
      return ([], m)
    else if (← m.remaining) < size.toUInt64 then
      throw (.sizeMismatch offset.toNat size.toNat (← m.remaining).toNat)
    else
      let ⟨(window, after), _⟩ ← MonadAttach.attach (m.split size.toUInt64)
      let record ← window.readRecord layout options
      let (records, m) ← readRecords layout options after
      return (record :: records, m)
termination_by m.left
decreasing_by
  have some : size.toNat ≠ 0 := fun none => ‹¬size = 0› (UInt32.toNat_inj.mp none)
  have less := left_of_split ‹MonadAttach.CanReturn (m.split size.toUInt64) (window, after)›
  rw [UInt32.toNat_toUInt64] at less
  omega

/-- The next sixteen bytes, as an identifier. -/
def readIdentifier (m : WordCursor) : Checked ReadError (Guid × WordCursor) := do
  let (bytes, m) ← m.take 16
  let identifier ← Guid.ofBytes? bytes.toList
  return (identifier, m)

/-- The set that fills a window, given the size it declares. -/
def readBody (options : WordOptions) (size : UInt32) (m : WordCursor) :
    Checked DecodeError PropertySet := do
  let m ← m.skip 4
  let offset ← m.offset
  let (found, m) ← m.take 4
  match Signature.ofBytes? found.toList with
  | none => throw (.invalidSignature offset.toNat found.toList)
  | some signature =>
    let (identifier, m) ← m.readIdentifier
    let (records, m) ← m.readRecords (.ofIdentifier identifier) options
    let trailing ← m.remaining
    m.logPlace
    return { size, signature, identifier, records, trailingBytes := trailing.toNat }

/-- The set at a cursor, and the cursor past it. -/
def readSet (options : WordOptions) (m : WordCursor) :
    Checked DecodeError (PropertySet × WordCursor) := do
  let offset ← m.offset
  let size ← m.peekU32
  if size.toUInt64 < 24 then
    throw (.sizeMismatch offset.toNat size.toNat (← m.remaining).toNat)
  else
    let (window, m) ← m.split size.toUInt64
    (·, m) <$> window.readBody options size

/-- A set takes up at least its header. -/
theorem left_of_readSet {options : WordOptions} {m after : WordCursor} {set : PropertySet}
    (h : m.readSet options = pure (set, after)) :
    after.left + PropertySet.headerSize ≤ m.left := by
  obtain ⟨_, -, h⟩ := exists_of_bind_eq_pure h
  obtain ⟨size, -, h⟩ := exists_of_bind_eq_pure h
  by_cases small : size.toUInt64 < 24
  · rw [if_pos small] at h
    obtain ⟨_, -, h⟩ := exists_of_bind_eq_pure h
    cases h
  rw [if_neg small] at h
  obtain ⟨⟨window, _⟩, taken, h⟩ := exists_of_bind_eq_pure h
  obtain ⟨_, -, h⟩ := exists_of_bind_eq_pure h
  cases h
  rw [← left_of_split (eq_pure_of_liftM taken)]
  exact Nat.add_le_add_left (Word.le_of_not_lt small) _

/-! ### Sets agree -/

variable {m : WordCursor} {c : Cursor}

namespace Stands

/-- The chain at a cursor that has bytes left, read step by step. -/
theorem decodeRecords_of_pos {layout : RecordLayout} {options : DecodeOptions}
    (pos : c.remaining ≠ 0) :
    PropertySet.decodeRecords layout options c = (do
      let size ← c.peekU32
      if size = 0 then do
        let c ← c.skip 4
        return ([], c)
      else if h : size.toNat ≤ c.remaining then do
        let record ← Record.decode layout options (c.window size.toNat h)
        let (records, c) ← PropertySet.decodeRecords layout options (c.advance size.toNat h)
        return (record :: records, c)
      else
        .error (.sizeMismatch c.offset size.toNat c.remaining)) := by
  rw [PropertySet.decodeRecords, if_neg pos]
  cases c.peekU32 <;> rfl

theorem readRecords (h : m.Stands c) (layout : RecordLayout) (options : WordOptions) :
    Agrees (Gives Eq) (m.readRecords layout options)
      (PropertySet.decodeRecords layout options.inNumbers c) := by
  induction left : c.remaining using Nat.strongRecOn generalizing m c with
  | ind n ih =>
    subst left
    obtain ⟨remaining, remaining_eq, hremaining⟩ := h.remaining
    obtain ⟨offset, offset_eq, hoffset⟩ := h.offset
    rw [WordCursor.readRecords]
    simp only [remaining_eq, offset_eq, liftM_some, pure_bind]
    have empty_iff : remaining = 0 ↔ c.remaining = 0 := Word.eq_zero_iff hremaining
    by_cases empty : c.remaining = 0
    · rw [if_pos (empty_iff.mpr empty), PropertySet.decodeRecords, if_pos empty]
      exact .ok ⟨rfl, h⟩
    rw [if_neg fun zero => empty (empty_iff.mp zero), decodeRecords_of_pos empty]
    refine h.peekU32.lift.bind ?_
    rintro size _ rfl
    by_cases zero : size = 0
    · rw [if_pos zero, if_pos zero]
      exact (h.skip 4).lift.bind fun _ _ stands => .ok ⟨rfl, stands⟩
    rw [if_neg zero, if_neg zero]
    have short_iff : remaining < size.toUInt64 ↔ c.remaining < size.toNat :=
      Word.lt_iff hremaining (UInt32.toNat_toUInt64 size)
    by_cases le : size.toNat ≤ c.remaining
    · obtain ⟨window, rest, split_eq, inside, after⟩ :=
        h.split_of_le (UInt32.toNat_toUInt64 size) le
      rw [if_neg fun short => Nat.not_le.mpr (short_iff.mp short) le, dif_pos le,
        attach_of_eq split_eq]
      refine (inside.readRecord layout options).bind ?_
      rintro record _ rfl
      have shorter : (c.advance size.toNat le).remaining < c.remaining := by
        have some : size.toNat ≠ 0 := fun none => zero (UInt32.toNat_inj.mp none)
        rw [Cursor.remaining_advance]
        omega
      refine (ih _ shorter after rfl).bind ?_
      rintro ⟨records, m⟩ ⟨_, c⟩ ⟨rfl, h⟩
      exact .ok ⟨rfl, h⟩
    · rw [if_pos (short_iff.mpr (Nat.lt_of_not_le le)), dif_neg le, ← hoffset, ← hremaining]
      exact .error _

theorem readIdentifier (h : m.Stands c) :
    Agrees (Gives Eq) m.readIdentifier (PropertySet.decodeIdentifier c) := by
  have agrees := h.take 16
  rw [WordCursor.readIdentifier, PropertySet.decodeIdentifier]
  by_cases le : 16 ≤ c.remaining
  · rw [Cursor.take, dif_pos (show (16 : UInt64).toNat ≤ c.remaining from le)] at agrees
    obtain ⟨⟨bytes, rest⟩, take_eq, ⟨same, -⟩, stands⟩ := agrees.exists_of_ok
    obtain ⟨length_eq, known⟩ : ∃ length_eq, Guid.ofBytes? bytes.toList =
        some ⟨(c.window 16 le).unread, length_eq⟩ := by
      rw [same]
      exact ⟨by simp, dif_pos (by simp)⟩
    rw [take_eq, pure_bind, dif_pos le]
    dsimp only
    rw [known]
    exact .ok ⟨rfl, stands⟩
  · rw [Cursor.take_of_lt c _ (show c.remaining < (16 : UInt64).toNat from Nat.lt_of_not_le le)]
      at agrees
    rw [dif_neg le]
    exact agrees.failed _

theorem readBody (h : m.Stands c) (options : WordOptions) (size : UInt32) :
    Agrees Eq (m.readBody options size) (PropertySet.decodeWindow options.inNumbers size c) := by
  refine (h.skip 4).lift.bind fun m c h => ?_
  obtain ⟨offset, offset_eq, hoffset⟩ := h.offset
  rw [offset_eq, ← hoffset]
  refine (h.take 4).lift.bind ?_
  rintro ⟨found, m⟩ ⟨_, c⟩ ⟨⟨rfl, -⟩, h⟩
  dsimp only
  cases Signature.ofBytes? found.toList with
  | none => exact .error _
  | some signature =>
    refine h.readIdentifier.lift.bind ?_
    rintro ⟨identifier, m⟩ ⟨_, c⟩ ⟨rfl, h⟩
    refine (h.readRecords (.ofIdentifier identifier) options).bind ?_
    rintro ⟨records, m⟩ ⟨_, c⟩ ⟨rfl, h⟩
    obtain ⟨remaining, remaining_eq, hremaining⟩ := h.remaining
    dsimp only
    rw [remaining_eq, h.logPlace, ← hremaining]
    exact .ok rfl

/-- The set at a cursor, read step by step. -/
theorem decode_eq (options : DecodeOptions) (c : Cursor) :
    PropertySet.decode options c = (do
      let size ← c.peekU32
      if size.toNat < PropertySet.headerSize then
        .error (.sizeMismatch c.offset size.toNat c.remaining)
      else if h : size.toNat ≤ c.remaining then
        (PropertySet.decodeWindow options size (c.window size.toNat h)).map
          (·, c.advance size.toNat h)
      else
        .error (.read (c.outOfData size.toNat))) := by
  rw [PropertySet.decode]
  cases c.peekU32 <;> rfl

theorem readSet (h : m.Stands c) (options : WordOptions) :
    Agrees (Gives Eq) (m.readSet options) (PropertySet.decode options.inNumbers c) := by
  obtain ⟨remaining, remaining_eq, hremaining⟩ := h.remaining
  obtain ⟨offset, offset_eq, hoffset⟩ := h.offset
  rw [WordCursor.readSet, decode_eq]
  simp only [remaining_eq, offset_eq, liftM_some, pure_bind]
  refine h.peekU32.lift.bind ?_
  rintro size _ rfl
  have value := UInt32.toNat_toUInt64 size
  have small_iff : size.toUInt64 < 24 ↔ size.toNat < PropertySet.headerSize := Word.lt_iff value rfl
  by_cases small : size.toNat < PropertySet.headerSize
  · rw [if_pos (small_iff.mpr small), if_pos small, ← hoffset, ← hremaining]
    exact .error _
  rw [if_neg fun lt => small (small_iff.mp lt), if_neg small]
  by_cases le : size.toNat ≤ c.remaining
  · obtain ⟨window, rest, split_eq, inside, after⟩ := h.split_of_le value le
    rw [dif_pos le, split_eq]
    exact (inside.readBody options size).map fun _ _ same => ⟨same, after⟩
  · have agrees := (h.split size.toUInt64).lift (y := c.split size.toUInt64.toNat)
    rw [value, Cursor.split, dif_neg le] at agrees
    rw [dif_neg le]
    exact agrees.failed _

end Stands

end PropertyStore.WordCursor
