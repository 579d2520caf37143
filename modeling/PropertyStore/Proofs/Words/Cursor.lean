import PropertyStore.Proofs.Words.Checked

/-!
# Cursors in words

A cursor in words holds the bytes of its window alone, a position in them and the offset of the
first of them, both words. Whatever is read is checked, and so is whatever is told of where the
cursor stands.

Such a cursor stands where a cursor in numbers stands if both are at the same place of the same
window (`WordCursor.Stands`). Where the offset of the window's end has room in a word, it does so
after every read and every move, and none of them comes to nothing.
-/

namespace PropertyStore

open LittleEndian

/-- A window of an input together with a reading position in it, in words. -/
structure WordCursor where
  /-- The bytes of the window. -/
  bytes : Array UInt8
  /-- How many of them have been passed. -/
  position : UInt64
  /-- The offset of the first of them. -/
  base : UInt64

namespace WordCursor

/-- A cursor at the start of `bytes`, of which the first is at offset `base`. -/
def ofBytes (bytes : Array UInt8) (base : UInt64) : WordCursor := ⟨bytes, 0, base⟩

/-! ### Where a cursor is -/

/-- How many bytes the window has. -/
def length (m : WordCursor) : UInt64 := Word.count m.bytes

/-- The offset of the next byte to be read. -/
def offset (m : WordCursor) : Option UInt64 := Word.add m.base m.position

/-- The offset just past the window's last byte. -/
def windowEnd (m : WordCursor) : Option UInt64 := Word.add m.base m.length

/-- How many bytes are left to read. -/
def remaining (m : WordCursor) : Option UInt64 := Word.sub m.length m.position

/-! ### Reading -/

/-- The failure of a read of `n` bytes here. -/
def outOfData {α : Type} (m : WordCursor) (n : UInt64) : Checked ReadError α := do
  throw (.outOfData (← m.offset).toNat n.toNat (← m.remaining).toNat)

/-- The next `n` bytes, and the cursor past them. -/
def take (m : WordCursor) (n : UInt64) : Checked ReadError (Array UInt8 × WordCursor) := do
  if (← m.remaining) < n then
    m.outOfData n
  else
    let stop ← Word.add m.position n
    let taken ← Word.slice m.bytes m.position stop
    return (taken, { m with position := stop })

/-- The cursor past the next `n` bytes, whatever they are. -/
def skip (m : WordCursor) (n : UInt64) : Checked ReadError WordCursor := do
  let (_, m) ← m.take n
  return m

/-- The next byte. -/
def u8 (m : WordCursor) : Checked ReadError (UInt8 × WordCursor) := do
  let (bytes, m) ← m.take 1
  let byte ← (bytes[0]? : Option UInt8)
  return (byte, m)

/-- The next word of two bytes. -/
def u16 (m : WordCursor) : Checked ReadError (UInt16 × WordCursor) := do
  let (bytes, m) ← m.take 2
  return (.ofNat (toNat bytes.toList), m)

/-- The next word of four bytes. -/
def u32 (m : WordCursor) : Checked ReadError (UInt32 × WordCursor) := do
  let (bytes, m) ← m.take 4
  return (.ofNat (toNat bytes.toList), m)

/-- The next word of eight bytes. -/
def u64 (m : WordCursor) : Checked ReadError (UInt64 × WordCursor) := do
  let (bytes, m) ← m.take 8
  return (.ofNat (toNat bytes.toList), m)

/-- The next word of four bytes, without moving. -/
def peekU32 (m : WordCursor) : Checked ReadError UInt32 := do
  let (word, _) ← m.u32
  return word

/-- A cursor on the next `n` bytes, and the cursor past them. -/
def split (m : WordCursor) (n : UInt64) : Checked ReadError (WordCursor × WordCursor) := do
  let base ← m.offset
  let (taken, m) ← m.take n
  return (ofBytes taken base, m)

/-- The failure of a move to `target`. -/
def seekOutOfRange {α : Type} (m : WordCursor) (target : UInt64) : Checked ReadError α := do
  throw (.seekOutOfRange target.toNat (← m.windowEnd).toNat)

/-- The cursor at offset `target`, which may be anywhere in the window or at its end. -/
def seek (m : WordCursor) (target : UInt64) : Checked ReadError WordCursor :=
  match Word.sub target m.base with
  | some position =>
    if position ≤ m.length then pure { m with position } else m.seekOutOfRange target
  | none => m.seekOutOfRange target

/-! ### What is left to read -/

section

open Checked

variable {m after window : WordCursor} {n : UInt64} {taken : Array UInt8}

/-- How many bytes of the window have not been passed. -/
def left (m : WordCursor) : Nat := m.bytes.size - m.position.toNat

theorem left_of_take (h : m.take n = pure (taken, after)) : after.left + n.toNat = m.left := by
  obtain ⟨remaining, -, h⟩ := exists_of_bind_eq_pure h
  by_cases short : remaining < n
  · rw [if_pos short] at h
    obtain ⟨_, -, h⟩ := exists_of_bind_eq_pure h
    obtain ⟨_, -, h⟩ := exists_of_bind_eq_pure h
    cases h
  rw [if_neg short] at h
  obtain ⟨stop, sum, h⟩ := exists_of_bind_eq_pure h
  obtain ⟨_, slice, h⟩ := exists_of_bind_eq_pure h
  cases h
  have stop_eq := Word.toNat_of_add (eq_some_of_liftM sum)
  have stop_le := Word.le_size_of_slice (eq_some_of_liftM slice)
  show m.bytes.size - stop.toNat + n.toNat = m.bytes.size - m.position.toNat
  omega

/-- What a window takes is no longer left. -/
theorem left_of_split (h : m.split n = pure (window, after)) : after.left + n.toNat = m.left := by
  obtain ⟨_, -, h⟩ := exists_of_bind_eq_pure h
  obtain ⟨_, taken, h⟩ := exists_of_bind_eq_pure h
  cases h
  exact left_of_take taken

end

/-! ### Cursors in words and in numbers -/

/-- Both cursors have passed as many bytes of the same window, at the same offset, and the offset of
its end has room in a word. -/
structure Stands (m : WordCursor) (c : Cursor) : Prop where
  contents_eq : c.contents = m.bytes.toList
  start_eq : c.windowStart = m.base.toNat
  position_eq : c.position = m.position.toNat
  room : c.windowEnd < UInt64.size

variable {m : WordCursor} {c : Cursor} {n : UInt64}

theorem stands_ofBytes {bytes : Array UInt8} {base : UInt64}
    (room : base.toNat + bytes.size < UInt64.size) :
    (ofBytes bytes base).Stands (.ofBytes bytes base.toNat) where
  contents_eq := Cursor.contents_ofBytes bytes base.toNat
  start_eq := rfl
  position_eq := rfl
  room := room

namespace Stands

theorem size_eq (h : m.Stands c) : m.bytes.size = c.length := by
  rw [← Cursor.length_contents, h.contents_eq, Array.length_toList]

theorem length_eq (h : m.Stands c) : m.length.toNat = c.length := by
  rw [← h.size_eq]
  refine Word.toNat_count (Nat.lt_of_le_of_lt ?_ h.room)
  rw [h.size_eq, Cursor.windowEnd_eq]
  exact Nat.le_add_left _ _

theorem offset (h : m.Stands c) : ∃ w, m.offset = some w ∧ w.toNat = c.offset := by
  rw [Cursor.offset_eq, h.start_eq, h.position_eq]
  refine Word.exists_add (Nat.lt_of_le_of_lt ?_ h.room)
  rw [Cursor.windowEnd_eq, h.start_eq, ← h.position_eq]
  exact Nat.add_le_add_left c.position_le_length _

theorem windowEnd (h : m.Stands c) : ∃ w, m.windowEnd = some w ∧ w.toNat = c.windowEnd := by
  have room := h.room
  rw [Cursor.windowEnd_eq, h.start_eq, ← h.length_eq] at room ⊢
  exact Word.exists_add room

theorem remaining (h : m.Stands c) : ∃ w, m.remaining = some w ∧ w.toNat = c.remaining := by
  have inside := c.position_le_length
  rw [Cursor.remaining_eq, h.position_eq, ← h.length_eq]
  rw [h.position_eq, ← h.length_eq] at inside
  exact Word.exists_sub inside

/-- The cursor has as many bytes left as its window has past its position. -/
theorem position_add_remaining (h : m.Stands c) :
    m.position.toNat + c.remaining = m.bytes.size := by
  rw [h.size_eq, ← h.position_eq, Cursor.remaining_eq, Nat.add_sub_cancel' c.position_le_length]

/-- A move inside the window leads both cursors to the same place. -/
theorem moved {stop : UInt64} {d : Cursor} (h : m.Stands c) (contents_eq : d.contents = c.contents)
    (start_eq : d.windowStart = c.windowStart) (position_eq : d.position = stop.toNat) :
    Stands { m with position := stop } d where
  contents_eq := contents_eq.trans h.contents_eq
  start_eq := start_eq.trans h.start_eq
  position_eq := position_eq
  room := by
    have room := h.room
    rwa [Cursor.windowEnd_eq, ← Cursor.length_contents, ← contents_eq, Cursor.length_contents,
      ← start_eq, ← Cursor.windowEnd_eq] at room

/-- Past the next bytes both stand at the same place again. -/
theorem advance {stop : UInt64} (h : m.Stands c) (stop_eq : stop.toNat = m.position.toNat + n.toNat)
    (le : n.toNat ≤ c.remaining) :
    Stands { m with position := stop } (c.advance n.toNat le) := by
  refine h.moved rfl rfl ?_
  rw [stop_eq, ← h.position_eq]
  exact Nat.sub_add_comm c.first_le_next

theorem toList_extract {stop : UInt64} (h : m.Stands c)
    (stop_eq : stop.toNat = m.position.toNat + n.toNat) :
    (m.bytes.extract m.position.toNat stop.toNat).toList = c.unread.take n.toNat := by
  have taken : stop.toNat - m.position.toNat = n.toNat := by omega
  rw [Cursor.unread_eq_drop, h.contents_eq, h.position_eq, Array.toList_extract,
    List.extract_eq_take_drop, taken]

/-- A window on the next bytes is the same for both. -/
theorem window {stop base : UInt64} (h : m.Stands c)
    (stop_eq : stop.toNat = m.position.toNat + n.toNat) (base_eq : base.toNat = c.offset)
    (le : n.toNat ≤ c.remaining) :
    Stands (ofBytes (m.bytes.extract m.position.toNat stop.toNat) base) (c.window n.toNat le) where
  contents_eq := by rw [Cursor.contents_window, ← h.toList_extract stop_eq]; rfl
  start_eq := base_eq.symm
  position_eq := Nat.sub_self _
  room := by
    refine Nat.lt_of_le_of_lt (Nat.add_le_add_left ?_ c.base) h.room
    have inside := c.next_le_stop
    have le : n.toNat ≤ c.stop - c.next := le
    show c.next + n.toNat ≤ c.stop
    omega

end Stands

/-! ### Failures agree -/

namespace Stands

theorem outOfData {α : Type} (h : m.Stands c) (n : UInt64) :
    (m.outOfData n : Checked ReadError α) = throw (c.outOfData n.toNat) := by
  obtain ⟨offset, offset_eq, hoffset⟩ := h.offset
  obtain ⟨remaining, remaining_eq, hremaining⟩ := h.remaining
  rw [WordCursor.outOfData, offset_eq, remaining_eq, Cursor.outOfData, ← hoffset, ← hremaining]
  rfl

theorem seekOutOfRange {α : Type} (h : m.Stands c) (target : UInt64) :
    (m.seekOutOfRange target : Checked ReadError α) =
      throw (.seekOutOfRange target.toNat c.windowEnd) := by
  obtain ⟨stop, stop_eq, hstop⟩ := h.windowEnd
  rw [WordCursor.seekOutOfRange, stop_eq, ← hstop]
  rfl

end Stands

/-! ### Reads agree -/

open Checked

/-- The results are as `R` says, and both cursors stand at the same place after them. -/
def Gives {α β : Type} (R : α → β → Prop) (a : α × WordCursor) (b : β × Cursor) : Prop :=
  R a.1 b.1 ∧ a.2.Stands b.2

namespace Stands

/-- What a read of bytes comes to. -/
theorem take_cases (h : m.Stands c) (n : UInt64) :
    (∃ stop, stop.toNat = m.position.toNat + n.toNat ∧ n.toNat ≤ c.remaining ∧
      m.take n = pure (m.bytes.extract m.position.toNat stop.toNat,
        { m with position := stop })) ∨
    c.remaining < n.toNat ∧ m.take n = throw (c.outOfData n.toNat) := by
  obtain ⟨remaining, remaining_eq, hremaining⟩ := h.remaining
  have left := h.position_add_remaining
  have fits : m.bytes.size < UInt64.size := by
    rw [h.size_eq, ← h.length_eq]
    exact m.length.toNat_lt
  by_cases short : remaining < n
  · refine Or.inr ⟨(Word.lt_iff hremaining rfl).mp short, ?_⟩
    rw [WordCursor.take, remaining_eq, h.outOfData]
    simp [short]
  · have le : n.toNat ≤ c.remaining := hremaining ▸ Word.le_of_not_lt short
    obtain ⟨stop, stop_eq, hstop⟩ := Word.exists_add (a := m.position) (b := n) (by omega)
    have range : m.position ≤ stop ∧ stop.toNat ≤ m.bytes.size := by
      rw [UInt64.le_iff_toNat_le]
      omega
    refine Or.inl ⟨stop, hstop, le, ?_⟩
    rw [WordCursor.take, remaining_eq]
    simp [short, stop_eq, Word.slice, range]

theorem take (h : m.Stands c) (n : UInt64) :
    Agrees (Gives fun bytes bs => bytes.toList = bs ∧ bytes.size = n.toNat) (m.take n)
      (c.take n.toNat) := by
  obtain ⟨stop, stop_eq, le, taken⟩ | ⟨short, failed⟩ := h.take_cases n
  · have bytes_eq := h.toList_extract stop_eq
    have size_eq : (m.bytes.extract m.position.toNat stop.toNat).size = n.toNat := by
      rw [← Array.length_toList, bytes_eq, List.length_take, Cursor.length_unread]
      exact Nat.min_eq_left le
    rw [taken, Cursor.take_of_le c n.toNat le]
    exact .ok ⟨⟨bytes_eq, size_eq⟩, h.advance stop_eq le⟩
  · rw [failed, Cursor.take_of_lt c n.toNat short]
    exact .error _

theorem skip (h : m.Stands c) (n : UInt64) : Agrees Stands (m.skip n) (c.skip n.toNat) := by
  rw [Cursor.skip_eq]
  exact (h.take n).bind fun _ _ hab => .ok hab.2

theorem u8 (h : m.Stands c) : Agrees (Gives Eq) m.u8 c.u8 := by
  refine (h.take 1).bind ?_
  rintro ⟨bytes, m⟩ ⟨bs, c⟩ ⟨⟨rfl, one⟩, h⟩
  obtain ⟨b, hb⟩ := List.length_eq_one_iff.mp (show bytes.toList.length = 1 from one)
  obtain rfl : bytes = #[b] := Array.toList_inj.mp hb
  exact .ok ⟨by simp [LittleEndian.toNat], h⟩

theorem u16 (h : m.Stands c) : Agrees (Gives Eq) m.u16 c.u16 := by
  refine (h.take 2).bind ?_
  rintro ⟨bytes, m⟩ ⟨bs, c⟩ ⟨⟨rfl, -⟩, h⟩
  exact .ok ⟨rfl, h⟩

theorem u32 (h : m.Stands c) : Agrees (Gives Eq) m.u32 c.u32 := by
  refine (h.take 4).bind ?_
  rintro ⟨bytes, m⟩ ⟨bs, c⟩ ⟨⟨rfl, -⟩, h⟩
  exact .ok ⟨rfl, h⟩

theorem u64 (h : m.Stands c) : Agrees (Gives Eq) m.u64 c.u64 := by
  refine (h.take 8).bind ?_
  rintro ⟨bytes, m⟩ ⟨bs, c⟩ ⟨⟨rfl, -⟩, h⟩
  exact .ok ⟨rfl, h⟩

theorem peekU32 (h : m.Stands c) : Agrees Eq m.peekU32 c.peekU32 :=
  h.u32.bind fun _ _ hab => .ok hab.1

theorem split (h : m.Stands c) (n : UInt64) :
    Agrees (Gives Stands) (m.split n) (c.split n.toNat) := by
  obtain ⟨base, base_eq, hbase⟩ := h.offset
  rw [WordCursor.split, base_eq]
  obtain ⟨stop, stop_eq, le, taken⟩ | ⟨short, failed⟩ := h.take_cases n
  · rw [taken, Cursor.split, dif_pos le]
    exact .ok ⟨h.window stop_eq hbase le, h.advance stop_eq le⟩
  · rw [failed, Cursor.split, dif_neg (Nat.not_le.mpr short)]
    exact .error _

/-- A window on bytes that are there is made. -/
theorem split_of_le {k : Nat} (h : m.Stands c) (value : n.toNat = k) (le : k ≤ c.remaining) :
    ∃ window rest, m.split n = pure (window, rest) ∧ window.Stands (c.window k le) ∧
      rest.Stands (c.advance k le) := by
  subst value
  have agrees := h.split n
  rw [Cursor.split, dif_pos le] at agrees
  obtain ⟨⟨window, rest⟩, split_eq, stands⟩ := agrees.exists_of_ok
  exact ⟨window, rest, split_eq, stands⟩

theorem seek (h : m.Stands c) (target : UInt64) :
    Agrees Stands (m.seek target) (c.seek target.toNat) := by
  have stop_eq := c.windowEnd_eq
  by_cases after : m.base.toNat ≤ target.toNat
  · obtain ⟨position, position_eq, hposition⟩ := Word.exists_sub after
    rw [← h.start_eq] at hposition after
    rw [WordCursor.seek, position_eq]
    dsimp only
    by_cases inside : position.toNat ≤ m.length.toNat
    · rw [if_pos (UInt64.le_iff_toNat_le.mpr inside)]
      rw [h.length_eq] at inside
      rw [Cursor.seek, dif_pos ⟨after, by omega⟩]
      refine .ok (h.moved rfl rfl ?_)
      rw [hposition]
      exact Nat.sub_sub _ _ _
    · rw [if_neg fun le => inside (UInt64.le_iff_toNat_le.mp le)]
      rw [h.length_eq] at inside
      rw [Cursor.seek, dif_neg (by omega), h.seekOutOfRange]
      exact .error _
  · have before := Word.sub_eq_none (Nat.lt_of_not_le after)
    rw [WordCursor.seek, before, Cursor.seek, dif_neg (by rw [h.start_eq]; omega)]
    dsimp only
    rw [h.seekOutOfRange]
    exact .error _

end Stands

end WordCursor

end PropertyStore
