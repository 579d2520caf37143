import PropertyStore.LittleEndian
import PropertyStore.ReadError

/-!
# Cursors

A cursor is a window of an input together with a reading position in it. It knows
the offset of the input's first byte, so whatever it reports is an offset into the
whole input, however deep the window lies.

A read gives all the bytes it was asked for and moves past them, or it fails and
the cursor stays as it was. What a cursor has yet to read is `unread`; every read
is described by what it does to it: `take_of_le` and `unread_advance`.
-/

namespace PropertyStore

/-- The part of `input` from index `first` to index `stop`, read as far as `next`;
the input's first byte is at offset `base`. -/
structure Cursor where
  /-- The bytes that hold the window. -/
  input : Array UInt8
  /-- The offset of the input's first byte. -/
  base : Nat
  /-- The index at which the window starts. -/
  first : Nat
  /-- The index of the next byte to be read. -/
  next : Nat
  /-- The index at which the window stops. -/
  stop : Nat
  first_le_next : first ≤ next
  next_le_stop : next ≤ stop
  stop_le_size : stop ≤ input.size

namespace Cursor

/-- A cursor at the start of `input`, whose first byte is at offset `base`. -/
def ofBytes (input : Array UInt8) (base : Nat) : Cursor where
  input := input
  base := base
  first := 0
  next := 0
  stop := input.size
  first_le_next := Nat.le_refl 0
  next_le_stop := Nat.zero_le _
  stop_le_size := Nat.le_refl _

/-! ### Where a cursor is -/

/-- The offset of the window's first byte. -/
def windowStart (c : Cursor) : Nat := c.base + c.first

/-- The offset of the next byte to be read. -/
def offset (c : Cursor) : Nat := c.base + c.next

/-- The offset just past the window's last byte. -/
def windowEnd (c : Cursor) : Nat := c.base + c.stop

/-- How many bytes of the window have been passed. -/
def position (c : Cursor) : Nat := c.next - c.first

/-- How many bytes the window has. -/
def length (c : Cursor) : Nat := c.stop - c.first

/-- How many bytes are left to read. -/
def remaining (c : Cursor) : Nat := c.stop - c.next

/-- Whether the window has no bytes at all. -/
def isEmpty (c : Cursor) : Bool := c.length == 0

/-- The bytes left to read. -/
def unread (c : Cursor) : List UInt8 := (c.input.extract c.next c.stop).toList

theorem unread_eq (c : Cursor) : c.unread = (c.input.toList.drop c.next).take c.remaining := by
  simp [unread, remaining]

@[simp] theorem length_unread (c : Cursor) : c.unread.length = c.remaining := by
  have := c.stop_le_size
  simp only [unread, remaining, Array.length_toList, Array.size_extract]
  omega

@[simp] theorem unread_ofBytes (input : Array UInt8) (base : Nat) :
    (ofBytes input base).unread = input.toList := by
  simp [unread, ofBytes]

@[simp] theorem offset_ofBytes (input : Array UInt8) (base : Nat) :
    (ofBytes input base).offset = base := rfl

@[simp] theorem remaining_ofBytes (input : Array UInt8) (base : Nat) :
    (ofBytes input base).remaining = input.size := rfl

/-! ### Moving -/

/-- The cursor past the next `n` bytes. -/
def advance (c : Cursor) (n : Nat) (h : n ≤ c.remaining) : Cursor :=
  { c with
    next := c.next + n
    first_le_next := Nat.le_trans c.first_le_next (Nat.le_add_right _ _)
    next_le_stop := by
      have := c.next_le_stop
      simp only [remaining] at h
      omega }

/-- A cursor on the next `n` bytes alone. -/
def window (c : Cursor) (n : Nat) (h : n ≤ c.remaining) : Cursor :=
  { c with
    first := c.next
    stop := c.next + n
    first_le_next := Nat.le_refl _
    next_le_stop := Nat.le_add_right _ _
    stop_le_size := by
      have := c.next_le_stop
      have := c.stop_le_size
      simp only [remaining] at h
      omega }

@[simp] theorem offset_advance (c : Cursor) (n : Nat) (h : n ≤ c.remaining) :
    (c.advance n h).offset = c.offset + n := by
  simp [advance, offset, Nat.add_assoc]

@[simp] theorem remaining_advance (c : Cursor) (n : Nat) (h : n ≤ c.remaining) :
    (c.advance n h).remaining = c.remaining - n := by
  simp [advance, remaining, Nat.sub_sub]

@[simp] theorem offset_window (c : Cursor) (n : Nat) (h : n ≤ c.remaining) :
    (c.window n h).offset = c.offset := rfl

@[simp] theorem remaining_window (c : Cursor) (n : Nat) (h : n ≤ c.remaining) :
    (c.window n h).remaining = n := by
  simp [window, remaining]

theorem unread_advance (c : Cursor) (n : Nat) (h : n ≤ c.remaining) :
    (c.advance n h).unread = c.unread.drop n := by
  rw [unread_eq, unread_eq, remaining_advance, List.drop_take, List.drop_drop]
  rfl

theorem unread_window (c : Cursor) (n : Nat) (h : n ≤ c.remaining) :
    (c.window n h).unread = c.unread.take n := by
  rw [unread_eq, unread_eq, remaining_window, List.take_take, Nat.min_eq_left h]
  rfl

/-! ### Reading -/

/-- The failure of a read of `n` bytes here. -/
def outOfData (c : Cursor) (n : Nat) : ReadError := .outOfData c.offset n c.remaining

/-- The next `n` bytes, and the cursor past them. -/
def take (c : Cursor) (n : Nat) : Except ReadError (List UInt8 × Cursor) :=
  if h : n ≤ c.remaining then .ok ((c.window n h).unread, c.advance n h)
  else .error (c.outOfData n)

theorem take_of_le (c : Cursor) (n : Nat) (h : n ≤ c.remaining) :
    c.take n = .ok (c.unread.take n, c.advance n h) := by
  rw [← unread_window c n h, take, dif_pos h]

theorem take_of_lt (c : Cursor) (n : Nat) (h : c.remaining < n) :
    c.take n = .error (c.outOfData n) := by
  simp [take, Nat.not_le.mpr h]

/-- The cursor past the next `n` bytes, whatever they are. -/
def skip (c : Cursor) (n : Nat) : Except ReadError Cursor :=
  if h : n ≤ c.remaining then .ok (c.advance n h) else .error (c.outOfData n)

/-- The next byte. -/
def u8 (c : Cursor) : Except ReadError (UInt8 × Cursor) := do
  let (bs, c) ← c.take 1
  return (UInt8.ofNat (LittleEndian.toNat bs), c)

/-- The next word of two bytes. -/
def u16 (c : Cursor) : Except ReadError (UInt16 × Cursor) := do
  let (bs, c) ← c.take 2
  return (UInt16.ofNat (LittleEndian.toNat bs), c)

/-- The next word of four bytes. -/
def u32 (c : Cursor) : Except ReadError (UInt32 × Cursor) := do
  let (bs, c) ← c.take 4
  return (UInt32.ofNat (LittleEndian.toNat bs), c)

/-- The next word of eight bytes. -/
def u64 (c : Cursor) : Except ReadError (UInt64 × Cursor) := do
  let (bs, c) ← c.take 8
  return (UInt64.ofNat (LittleEndian.toNat bs), c)

/-- The next word of four bytes, without moving. -/
def peekU32 (c : Cursor) : Except ReadError UInt32 := do
  let (word, _) ← c.u32
  return word

/-- A cursor on the next `n` bytes, and the cursor past them. -/
def split (c : Cursor) (n : Nat) : Except ReadError (Cursor × Cursor) :=
  if h : n ≤ c.remaining then .ok (c.window n h, c.advance n h) else .error (c.outOfData n)

/-- The cursor at offset `target`, which may be anywhere in the window or at its end. -/
def seek (c : Cursor) (target : Nat) : Except ReadError Cursor :=
  if h : c.windowStart ≤ target ∧ target ≤ c.windowEnd then
    .ok { c with
      next := target - c.base
      first_le_next := by
        simp only [windowStart] at h
        omega
      next_le_stop := by
        simp only [windowEnd] at h
        omega }
  else
    .error (.seekOutOfRange target c.windowEnd)

theorem skip_eq (c : Cursor) (n : Nat) : c.skip n = (c.take n).map Prod.snd := by
  unfold skip take
  split <;> rfl

end Cursor

end PropertyStore
