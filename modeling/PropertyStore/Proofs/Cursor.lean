import PropertyStore.Cursor
import PropertyStore.DecodeError

/-!
# Where a cursor stands

What a read gives depends on two things alone: the offset at which the cursor stands, and
the bytes that it has yet to read. `At c o bs` says both. Each read has two laws over it:
from bytes that are long enough it gives the first of them and leaves a cursor at what
follows; from bytes that are too short it fails and says by how much.

The laws are stated for bytes that are written as an append, the part to be read before
the rest. So a run of reads over a run of fields is a run of rewrites, and no index is
ever computed.

Where a cursor is in its window is said apart, by the bytes of the window and how many of
them have been passed (`contents`, `position`).
-/

namespace PropertyStore

/-! ### Success and failure in sequence -/

section

variable {ε α β : Type}

@[simp] theorem ok_bind (a : α) (f : α → Except ε β) : (Except.ok a >>= f) = f a := rfl

@[simp] theorem error_bind (e : ε) (f : α → Except ε β) :
    (Except.error e >>= f) = Except.error e := rfl

@[simp] theorem pure_eq_ok (a : α) : (pure a : Except ε α) = .ok a := rfl

@[simp] theorem ok_map (a : α) (f : α → β) : (Except.ok a : Except ε α).map f = .ok (f a) := rfl

@[simp] theorem error_map (e : ε) (f : α → β) :
    (Except.error e : Except ε α).map f = .error e := rfl

end

namespace Cursor

open LittleEndian

/-! ### Windows -/

/-- The bytes of the window, read or not. -/
def contents (c : Cursor) : List UInt8 := (c.input.extract c.first c.stop).toList

theorem offset_eq (c : Cursor) : c.offset = c.windowStart + c.position := by
  have := c.first_le_next
  unfold offset windowStart position
  omega

theorem windowEnd_eq (c : Cursor) : c.windowEnd = c.windowStart + c.length := by
  have := c.first_le_next
  have := c.next_le_stop
  unfold windowEnd windowStart length
  omega

theorem remaining_eq (c : Cursor) : c.remaining = c.length - c.position := by
  have := c.first_le_next
  unfold remaining length position
  omega

theorem position_le_length (c : Cursor) : c.position ≤ c.length :=
  Nat.sub_le_sub_right c.next_le_stop _

@[simp] theorem length_contents (c : Cursor) : c.contents.length = c.length := by
  rw [contents, Array.length_toList, Array.size_extract, Nat.min_eq_left c.stop_le_size]
  rfl

theorem contents_ofBytes (input : Array UInt8) (base : Nat) :
    (ofBytes input base).contents = input.toList := by
  simp [contents, ofBytes]

theorem contents_window (c : Cursor) (n : Nat) (h : n ≤ c.remaining) :
    (c.window n h).contents = c.unread.take n := unread_window c n h

/-- What is left to read is the window less what has been passed of it. -/
theorem unread_eq_drop (c : Cursor) : c.unread = c.contents.drop c.position := by
  have next_eq : c.first + c.position = c.next := Nat.add_sub_cancel' c.first_le_next
  have left : c.stop - c.next = c.stop - c.first - c.position := by
    unfold position
    have := c.first_le_next
    omega
  simp only [unread, contents, Array.toList_extract, List.extract_eq_take_drop, List.drop_take,
    List.drop_drop, next_eq, left]

/-! ### Places -/

/-- The cursor `c` stands at `offset`, and `bs` are the bytes that it has yet to read. -/
structure At (c : Cursor) (offset : Nat) (bs : List UInt8) : Prop where
  offset_eq : c.offset = offset
  unread_eq : c.unread = bs

theorem At.ofBytes (input : Array UInt8) (base : Nat) : (ofBytes input base).At base input.toList :=
  ⟨rfl, unread_ofBytes input base⟩

variable {c : Cursor} {o n : Nat} {a b bs : List UInt8}

theorem At.remaining_eq (h : c.At o bs) : c.remaining = bs.length := by
  rw [← length_unread, h.unread_eq]

theorem At.length_le (h : c.At o (a ++ b)) : a.length ≤ c.remaining := by
  rw [h.remaining_eq, List.length_append]
  exact Nat.le_add_right _ _

theorem At.congr {o' : Nat} (h : c.At o bs) (ho : o = o') : c.At o' bs := ho ▸ h

/-- Past the first bytes the others are left. -/
theorem At.advance (h : c.At o (a ++ b)) (ha : a.length = n) (hn : n ≤ c.remaining) :
    (c.advance n hn).At (o + n) b := by
  subst ha
  refine ⟨by rw [offset_advance, h.offset_eq], ?_⟩
  rw [unread_advance, h.unread_eq, List.drop_left]

/-- A window on the first bytes has them and no others. -/
theorem At.window (h : c.At o (a ++ b)) (ha : a.length = n) (hn : n ≤ c.remaining) :
    (c.window n hn).At o a := by
  subst ha
  refine ⟨by rw [offset_window, h.offset_eq], ?_⟩
  rw [unread_window, h.unread_eq, List.take_left]

/-! ### Reads that have their bytes -/

theorem At.take (h : c.At o (a ++ b)) (ha : a.length = n) :
    ∃ d, c.take n = .ok (a, d) ∧ d.At (o + n) b := by
  subst ha
  refine ⟨c.advance a.length h.length_le, ?_, h.advance rfl h.length_le⟩
  rw [take_of_le c a.length h.length_le, h.unread_eq, List.take_left]

theorem At.skip (h : c.At o (a ++ b)) (ha : a.length = n) :
    ∃ d, c.skip n = .ok d ∧ d.At (o + n) b := by
  obtain ⟨d, hd, hat⟩ := h.take ha
  exact ⟨d, by rw [skip_eq, hd, ok_map], hat⟩

theorem At.u16 {w : UInt16} (h : c.At o (word16 w ++ b)) :
    ∃ d, c.u16 = .ok (w, d) ∧ d.At (o + 2) b := by
  obtain ⟨d, hd, hat⟩ := h.take (length_word16 w)
  refine ⟨d, ?_, hat⟩
  simp only [Cursor.u16, hd, ok_bind, pure_eq_ok, toNat_word16, UInt16.ofNat_toNat]

theorem At.u32 {w : UInt32} (h : c.At o (word32 w ++ b)) :
    ∃ d, c.u32 = .ok (w, d) ∧ d.At (o + 4) b := by
  obtain ⟨d, hd, hat⟩ := h.take (length_word32 w)
  refine ⟨d, ?_, hat⟩
  simp only [Cursor.u32, hd, ok_bind, pure_eq_ok, toNat_word32, UInt32.ofNat_toNat]

theorem At.peekU32 {w : UInt32} (h : c.At o (word32 w ++ b)) : c.peekU32 = .ok w := by
  obtain ⟨d, hd, -⟩ := h.u32
  simp only [Cursor.peekU32, hd, ok_bind, pure_eq_ok]

/-! ### Reads that have not -/

theorem At.take_short (h : c.At o bs) (hn : bs.length < n) :
    c.take n = .error (.outOfData o n bs.length) := by
  rw [take_of_lt c n (h.remaining_eq ▸ hn), outOfData, h.offset_eq, h.remaining_eq]

theorem At.skip_short (h : c.At o bs) (hn : bs.length < n) :
    c.skip n = .error (.outOfData o n bs.length) := by
  rw [skip_eq, h.take_short hn, error_map]

theorem At.u16_short (h : c.At o bs) (hn : bs.length < 2) :
    c.u16 = .error (.outOfData o 2 bs.length) := by
  rw [Cursor.u16, h.take_short hn, error_bind]

theorem At.u32_short (h : c.At o bs) (hn : bs.length < 4) :
    c.u32 = .error (.outOfData o 4 bs.length) := by
  rw [Cursor.u32, h.take_short hn, error_bind]

theorem At.peekU32_short (h : c.At o bs) (hn : bs.length < 4) :
    c.peekU32 = .error (.outOfData o 4 bs.length) := by
  rw [Cursor.peekU32, h.u32_short hn, error_bind]

end Cursor

end PropertyStore
