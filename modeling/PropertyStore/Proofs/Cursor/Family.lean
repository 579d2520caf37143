import PropertyStore.Cursor.Family
import PropertyStore.Proofs.Cursor

/-!
# Runs of a family of cursors

A family that starts with one cursor on an input is asked again and again. Whatever was asked of
whom, every member is a window of that input and stands inside it (`Within`), and the next request
gets from its member what the input has at the member's offset (`Answered`). The member moves by
what it read and by no more, a request that fails leaves it as it was, and no other member notices.

One thing carries all of this: the members differ in their indices alone, and share the input and
the offset of its first byte (`Shares`).
-/

namespace PropertyStore.Cursor

open LittleEndian

/-- The answers to a run of requests, each to one member of a family, and the family after it.
There are none if a request is to no member. -/
def run : List Cursor → List (Nat × Request) →
    Option (List (Except ReadError Answer) × List Cursor)
  | family, [] => some ([], family)
  | family, (i, request) :: requests => do
    let (reply, family) ← step family i request
    let (answers, family) ← run family requests
    return (reply.answer :: answers, family)

/-! ### What a request is about -/

namespace Request

/-- How many of the next bytes a request is about, if it is about them. -/
def width? : Request → Option Nat
  | .u8 => some 1
  | .u16 => some 2
  | .u32 | .peekU32 => some 4
  | .u64 => some 8
  | .take n | .skip n | .split n => some n
  | .seek _ | .copy => none

/-- The answer to a request that is about these bytes. -/
def answer (bs : List UInt8) : Request → Answer
  | .u8 | .u16 | .u32 | .u64 | .peekU32 => .number (toNat bs)
  | .take _ => .bytes bs
  | .skip _ | .split _ | .seek _ | .copy => .done

/-- By how much a request about `n` bytes moves its cursor. -/
def passes (n : Nat) : Request → Nat
  | .peekU32 => 0
  | _ => n

/-- Whether a request makes a cursor on the bytes that it is about. -/
def splits : Request → Bool
  | .split _ => true
  | _ => false

theorem passes_le (n : Nat) (request : Request) : request.passes n ≤ n := by
  cases request <;> first | exact Nat.zero_le n | exact Nat.le_refl n

/-- A request is about the next bytes, or it moves the cursor, or copies it. -/
theorem width_or (request : Request) :
    (∃ n, request.width? = some n) ∨ (∃ target, request = .seek target) ∨ request = .copy := by
  cases request with
  | seek target => exact .inr (.inl ⟨target, rfl⟩)
  | copy => exact .inr (.inr rfl)
  | _ => exact .inl ⟨_, rfl⟩

end Request

/-! ### Where a member is -/

/-- The offsets at which a window starts and stops, and the one at which a cursor stands in it. -/
structure Place where
  /-- The offset of the window's first byte. -/
  start : Nat
  /-- The offset of the next byte to be read. -/
  offset : Nat
  /-- The offset just past the window's last byte. -/
  stop : Nat

/-- Where a cursor is. -/
def place (c : Cursor) : Place := ⟨c.windowStart, c.offset, c.windowEnd⟩

/-- The `n` bytes from an offset on, of an input whose first byte is at offset `base`. -/
def bytesAt (input : Array UInt8) (base offset n : Nat) : List UInt8 :=
  (input.toList.drop (offset - base)).take n

/-- The cursor is a window of the input, whose first byte is at offset `base`, and stands inside
it. -/
structure Within (c : Cursor) (input : Array UInt8) (base : Nat) : Prop where
  base_le_start : base ≤ c.windowStart
  start_le_offset : c.windowStart ≤ c.offset
  offset_le_end : c.offset ≤ c.windowEnd
  end_le_size : c.windowEnd ≤ base + input.size
  position_le_length : c.position ≤ c.length
  offset_eq : c.offset = c.windowStart + c.position
  end_eq : c.windowEnd = c.windowStart + c.length
  remaining_eq : c.remaining = c.windowEnd - c.offset
  contents_eq : c.contents = bytesAt input base c.windowStart c.length

/-- The reply is the one that a cursor of the input gives to the request. -/
structure Answered (c : Cursor) (input : Array UInt8) (base : Nat) (request : Request)
    (reply : Reply) : Prop where
  /-- Too few bytes are left. -/
  short : ∀ n, request.width? = some n → c.remaining < n →
    reply = ⟨.error (.outOfData c.offset n c.remaining), c, none⟩
  /-- The bytes are there. -/
  enough : ∀ n, request.width? = some n → n ≤ c.remaining →
    reply.answer = .ok (request.answer (bytesAt input base c.offset n)) ∧
    reply.cursor.place = { c.place with offset := c.offset + request.passes n } ∧
    reply.child.map place =
      if request.splits then some ⟨c.offset, c.offset, c.offset + n⟩ else none
  /-- A move leads past the window, or before it. -/
  outside : ∀ target, request = .seek target → ¬(c.windowStart ≤ target ∧ target ≤ c.windowEnd) →
    reply = ⟨.error (.seekOutOfRange target c.windowEnd), c, none⟩
  /-- A move stays inside the window. -/
  inside : ∀ target, request = .seek target → c.windowStart ≤ target ∧ target ≤ c.windowEnd →
    reply.answer = .ok .done ∧ reply.cursor.place = { c.place with offset := target } ∧
    reply.child = none
  /-- A copy stands where the cursor does. -/
  copied : request = .copy → reply = ⟨.ok .done, c, some c⟩

/-! ### One request -/

variable {c d : Cursor} {input : Array UInt8} {base n : Nat} {request : Request}

/-- What a request comes to: an answer, the cursor after it, and the cursor that it made. -/
def ask (c : Cursor) : Request → Except ReadError (Answer × Cursor × Option Cursor)
  | .u8 => c.u8.map fun (word, after) => (.number word.toNat, after, none)
  | .u16 => c.u16.map fun (word, after) => (.number word.toNat, after, none)
  | .u32 => c.u32.map fun (word, after) => (.number word.toNat, after, none)
  | .u64 => c.u64.map fun (word, after) => (.number word.toNat, after, none)
  | .peekU32 => c.peekU32.map fun word => (.number word.toNat, c, none)
  | .take n => (c.take n).map fun (bs, after) => (.bytes bs, after, none)
  | .skip n => (c.skip n).map fun after => (.done, after, none)
  | .seek target => (c.seek target).map fun after => (.done, after, none)
  | .split n => (c.split n).map fun (child, after) => (.done, after, some child)
  | .copy => .ok (.done, c, some c)

/-- A request that fails leaves its cursor as it was, and makes none. -/
theorem reply_eq (c : Cursor) (request : Request) :
    c.reply request = match c.ask request with
      | .ok (answer, after, child) => ⟨.ok answer, after, child⟩
      | .error e => ⟨.error e, c, none⟩ := by
  cases request with
  | copy => rfl
  | u8 => rw [reply, ask]; cases c.u8 <;> rfl
  | u16 => rw [reply, ask]; cases c.u16 <;> rfl
  | u32 => rw [reply, ask]; cases c.u32 <;> rfl
  | u64 => rw [reply, ask]; cases c.u64 <;> rfl
  | peekU32 => rw [reply, ask]; cases c.peekU32 <;> rfl
  | take n => rw [reply, ask]; cases c.take n <;> rfl
  | skip n => rw [reply, ask]; cases c.skip n <;> rfl
  | seek target => rw [reply, ask]; cases c.seek target <;> rfl
  | split n => rw [reply, ask]; cases c.split n <;> rfl

theorem ask_of_lt (h : request.width? = some n) (lt : c.remaining < n) :
    c.ask request = .error (c.outOfData n) := by
  cases request <;> cases h <;>
    simp only [ask, u8, u16, u32, u64, peekU32, take_of_lt c _ lt, skip_eq, split,
      dif_neg (Nat.not_le.mpr lt), error_bind, error_map]

theorem ask_of_le (h : request.width? = some n) (le : n ≤ c.remaining) :
    c.ask request = .ok (request.answer (c.unread.take n),
      c.advance (request.passes n) (Nat.le_trans (request.passes_le n) le),
      if request.splits then some (c.window n le) else none) := by
  have fits : toNat (c.unread.take n) < capacity n := by
    have width : (c.unread.take n).length = n := by
      rw [List.length_take, length_unread, Nat.min_eq_left le]
    simpa only [width] using toNat_lt (c.unread.take n)
  cases request <;> cases h <;>
    simp only [ask, u8, u16, u32, u64, peekU32, take_of_le c _ le, skip_eq, split, dif_pos le,
      ok_bind, pure_eq_ok, ok_map, Request.answer, Request.passes, Request.splits]
  case u8 => rw [UInt8.toNat_ofNat_of_lt' fits]; rfl
  case u16 => rw [UInt16.toNat_ofNat_of_lt' fits]; rfl
  case u32 => rw [UInt32.toNat_ofNat_of_lt' fits]; rfl
  case u64 => rw [UInt64.toNat_ofNat_of_lt' fits]; rfl
  case peekU32 => rw [UInt32.toNat_ofNat_of_lt' fits]; rfl
  all_goals rfl

theorem reply_of_lt (h : request.width? = some n) (lt : c.remaining < n) :
    c.reply request = ⟨.error (c.outOfData n), c, none⟩ := by
  rw [reply_eq, ask_of_lt h lt]

theorem reply_of_le (h : request.width? = some n) (le : n ≤ c.remaining) :
    c.reply request = ⟨.ok (request.answer (c.unread.take n)),
      c.advance (request.passes n) (Nat.le_trans (request.passes_le n) le),
      if request.splits then some (c.window n le) else none⟩ := by
  rw [reply_eq, ask_of_le h le]

theorem reply_seek_of_not {target : Nat} (h : ¬(c.windowStart ≤ target ∧ target ≤ c.windowEnd)) :
    c.reply (.seek target) = ⟨.error (.seekOutOfRange target c.windowEnd), c, none⟩ := by
  rw [reply, seek, dif_neg h, replyMoved]

theorem reply_seek {target : Nat} (h : c.windowStart ≤ target ∧ target ≤ c.windowEnd) :
    ∃ d, c.reply (.seek target) = ⟨.ok .done, d, none⟩ ∧ d.input = c.input ∧ d.base = c.base ∧
      d.place = { c.place with offset := target } := by
  have base_le : c.base ≤ target := Nat.le_trans (Nat.le_add_right _ _) h.1
  obtain ⟨d, moved, input_eq, base_eq, place_eq⟩ : ∃ d, c.seek target = .ok d ∧
      d.input = c.input ∧ d.base = c.base ∧
      d.place = ⟨c.windowStart, c.base + (target - c.base), c.windowEnd⟩ :=
    ⟨_, dif_pos h, rfl, rfl, rfl⟩
  rw [Nat.add_sub_cancel' base_le] at place_eq
  exact ⟨d, by rw [reply, moved, replyMoved], input_eq, base_eq, place_eq⟩

/-! ### Members of one family -/

/-- The cursor is on the input, whose first byte is at offset `base`. -/
structure Shares (c : Cursor) (input : Array UInt8) (base : Nat) : Prop where
  input_eq : c.input = input
  base_eq : c.base = base

theorem shares_ofBytes (input : Array UInt8) (base : Nat) :
    (ofBytes input base).Shares input base :=
  ⟨rfl, rfl⟩

namespace Shares

theorem within (h : c.Shares input base) : c.Within input base := by
  obtain ⟨rfl, rfl⟩ := h
  have first_le := c.first_le_next
  have next_le := c.next_le_stop
  exact {
    base_le_start := Nat.le_add_right _ _
    start_le_offset := Nat.add_le_add_left first_le _
    offset_le_end := Nat.add_le_add_left next_le _
    end_le_size := Nat.add_le_add_left c.stop_le_size _
    position_le_length := c.position_le_length
    offset_eq := c.offset_eq
    end_eq := c.windowEnd_eq
    remaining_eq := (Nat.add_sub_add_left _ _ _).symm
    contents_eq := by
      rw [contents, bytesAt, windowStart, Nat.add_sub_cancel_left, Array.toList_extract,
        List.extract_eq_take_drop]
      rfl }

/-- The bytes that a cursor has yet to read are those of its input at its offset. -/
theorem take_unread (h : c.Shares input base) (le : n ≤ c.remaining) :
    c.unread.take n = bytesAt input base c.offset n := by
  obtain ⟨rfl, rfl⟩ := h
  rw [unread_eq, List.take_take, Nat.min_eq_left le, bytesAt, offset, Nat.add_sub_cancel_left]

theorem answered (h : c.Shares input base) (request : Request) :
    c.Answered input base request (c.reply request) where
  short n hn lt := reply_of_lt hn lt
  enough n hn le := by
    rw [reply_of_le hn le, h.take_unread le]
    refine ⟨rfl, ?_, ?_⟩
    · have passed := offset_advance c (request.passes n) (Nat.le_trans (request.passes_le n) le)
      exact congrArg (Place.mk c.windowStart · c.windowEnd) passed
    · have child_eq : (c.window n le).place = ⟨c.offset, c.offset, c.offset + n⟩ :=
        congrArg (Place.mk c.offset c.offset) (Nat.add_assoc _ _ _).symm
      rw [← child_eq]
      cases request.splits <;> rfl
  outside target seeks out := seeks ▸ reply_seek_of_not out
  inside target seeks stays := by
    obtain ⟨d, reply_eq, -, -, place_eq⟩ := reply_seek stays
    rw [seeks, reply_eq]
    exact ⟨rfl, place_eq, rfl⟩
  copied copies := copies ▸ rfl

/-- The cursor after a request is on the same input. -/
theorem after (h : c.Shares input base) (request : Request) :
    (c.reply request).cursor.Shares input base := by
  obtain ⟨rfl, rfl⟩ := h
  obtain ⟨n, about⟩ | ⟨target, rfl⟩ | rfl := request.width_or
  · by_cases le : n ≤ c.remaining
    · exact reply_of_le about le ▸ ⟨rfl, rfl⟩
    · exact reply_of_lt about (Nat.lt_of_not_le le) ▸ ⟨rfl, rfl⟩
  · by_cases stays : c.windowStart ≤ target ∧ target ≤ c.windowEnd
    · obtain ⟨d, reply_eq, input_eq, base_eq, -⟩ := reply_seek stays
      exact reply_eq ▸ ⟨input_eq, base_eq⟩
    · exact reply_seek_of_not stays ▸ ⟨rfl, rfl⟩
  · exact ⟨rfl, rfl⟩

/-- So is the cursor that a request made. -/
theorem child (h : c.Shares input base) (request : Request) :
    ∀ d ∈ (c.reply request).child, d.Shares input base := by
  obtain ⟨rfl, rfl⟩ := h
  obtain ⟨n, about⟩ | ⟨target, rfl⟩ | rfl := request.width_or
  · by_cases le : n ≤ c.remaining
    · rw [reply_of_le about le]
      cases request.splits with
      | true => rintro _ ⟨⟩; exact ⟨rfl, rfl⟩
      | false => exact nofun
    · exact reply_of_lt about (Nat.lt_of_not_le le) ▸ nofun
  · by_cases stays : c.windowStart ≤ target ∧ target ≤ c.windowEnd
    · obtain ⟨d, reply_eq, -⟩ := reply_seek stays
      exact reply_eq ▸ nofun
    · exact reply_seek_of_not stays ▸ nofun
  · rintro _ ⟨⟩
    exact ⟨rfl, rfl⟩

end Shares

/-! ### A step and a run -/

variable {family after : List Cursor} {reply : Reply} {i : Nat}

/-- What a step does: its member answers, and the family is as it was but for that member and the
one that it made. -/
theorem step_eq_some_iff : step family i request = some (reply, after) ↔
    ∃ c, family[i]? = some c ∧ reply = c.reply request ∧
      after = family.set i reply.cursor ++ reply.child.toList := by
  simp only [step, Option.map_eq_some_iff, Prod.mk.injEq]
  constructor
  · rintro ⟨c, hc, rfl, rfl⟩
    exact ⟨c, hc, rfl, rfl⟩
  · rintro ⟨c, hc, rfl, rfl⟩
    exact ⟨c, hc, rfl, rfl⟩

/-- Every request to a member is answered, and no other member is changed by it. -/
theorem exists_step (h : family[i]? = some c) (request : Request) :
    ∃ after, step family i request = some (c.reply request, after) ∧
      after[i]? = some (c.reply request).cursor ∧
      (∀ j < family.length, j ≠ i → after[j]? = family[j]?) ∧
      after.drop family.length = (c.reply request).child.toList := by
  obtain ⟨inside, -⟩ := List.getElem?_eq_some_iff.mp h
  have length_eq : (family.set i (c.reply request).cursor).length = family.length :=
    List.length_set
  refine ⟨_, step_eq_some_iff.mpr ⟨c, h, rfl, rfl⟩, ?_, fun j hj other => ?_, ?_⟩
  · rw [List.getElem?_append_left (length_eq ▸ inside), List.getElem?_set_self inside]
  · rw [List.getElem?_append_left (length_eq ▸ hj), List.getElem?_set_ne other.symm]
  · rw [List.drop_left' length_eq]

theorem shares_step (h : ∀ c ∈ family, c.Shares input base)
    (hstep : step family i request = some (reply, after)) : ∀ c ∈ after, c.Shares input base := by
  obtain ⟨c, hc, rfl, rfl⟩ := step_eq_some_iff.mp hstep
  have shares := h c (List.mem_of_getElem? hc)
  intro d hd
  rcases List.mem_append.mp hd with old | made
  · rcases List.mem_or_eq_of_mem_set old with kept | rfl
    · exact h d kept
    · exact shares.after request
  · exact shares.child request d (Option.mem_toList.mp made)

theorem shares_run {requests : List (Nat × Request)} {answers : List (Except ReadError Answer)}
    (h : ∀ c ∈ family, c.Shares input base) (hrun : run family requests = some (answers, after)) :
    ∀ c ∈ after, c.Shares input base := by
  induction requests generalizing family answers with
  | nil =>
    cases hrun
    exact h
  | cons asked requests ih =>
    obtain ⟨i, request⟩ := asked
    simp only [run, Option.bind_eq_bind, Option.bind_eq_some_iff] at hrun
    obtain ⟨⟨reply, next⟩, hstep, ⟨rest, last⟩, hrest, hrun⟩ := hrun
    cases hrun
    exact ih (shares_step h hstep) hrest

end PropertyStore.Cursor
