import PropertyStore.Cursor

/-!
# Families of cursors

A family starts with one cursor and grows: splitting a cursor adds its child, and a
cursor may be copied. Each step asks one thing of one member. A step that fails
leaves its cursor where it was, and no step moves any other member.
-/

namespace PropertyStore.Cursor

/-- What can be asked of a cursor. -/
inductive Request where
  /-- Read a byte. -/
  | u8
  /-- Read a word of two bytes. -/
  | u16
  /-- Read a word of four bytes. -/
  | u32
  /-- Read a word of eight bytes. -/
  | u64
  /-- Read a word of four bytes without moving. -/
  | peekU32
  /-- Read `n` bytes. -/
  | take (n : Nat)
  /-- Pass `n` bytes. -/
  | skip (n : Nat)
  /-- Move to an offset. -/
  | seek (target : Nat)
  /-- Make a cursor on the next `n` bytes and pass them. -/
  | split (n : Nat)
  /-- Make a cursor that stands where this one does. -/
  | copy
  deriving DecidableEq, Repr

/-- What a cursor answers. -/
inductive Answer where
  /-- A word, as a number. -/
  | number (n : Nat)
  /-- Bytes, as they are. -/
  | bytes (bs : List UInt8)
  /-- Nothing but that it was done. -/
  | done
  deriving DecidableEq, Repr

/-- One request answered. -/
structure Reply where
  /-- The answer, or why there is none. -/
  answer : Except ReadError Answer
  /-- The cursor after the request. -/
  cursor : Cursor
  /-- The cursor that the request made. -/
  child : Option Cursor

/-- The reply of a cursor that read a word. -/
def replyNumber {α : Type} (c : Cursor) (value : α → Nat) :
    Except ReadError (α × Cursor) → Reply
  | .ok (word, after) => ⟨.ok (.number (value word)), after, none⟩
  | .error e => ⟨.error e, c, none⟩

/-- The reply of a cursor that moved. -/
def replyMoved (c : Cursor) : Except ReadError Cursor → Reply
  | .ok after => ⟨.ok .done, after, none⟩
  | .error e => ⟨.error e, c, none⟩

/-- What a cursor replies to a request. -/
def reply (c : Cursor) : Request → Reply
  | .u8 => c.replyNumber UInt8.toNat c.u8
  | .u16 => c.replyNumber UInt16.toNat c.u16
  | .u32 => c.replyNumber UInt32.toNat c.u32
  | .u64 => c.replyNumber UInt64.toNat c.u64
  | .peekU32 => c.replyNumber UInt32.toNat (c.peekU32.map fun word => (word, c))
  | .take n =>
    match c.take n with
    | .ok (bs, after) => ⟨.ok (.bytes bs), after, none⟩
    | .error e => ⟨.error e, c, none⟩
  | .skip n => c.replyMoved (c.skip n)
  | .seek target => c.replyMoved (c.seek target)
  | .split n =>
    match c.split n with
    | .ok (child, after) => ⟨.ok .done, after, some child⟩
    | .error e => ⟨.error e, c, none⟩
  | .copy => ⟨.ok .done, c, some c⟩

/-- One request to member `i` of a family: the reply, and the family after it. There is
none if the family has no such member. -/
def step (family : List Cursor) (i : Nat) (request : Request) : Option (Reply × List Cursor) :=
  family[i]?.map fun c =>
    let reply := c.reply request
    (reply, family.set i reply.cursor ++ reply.child.toList)

end PropertyStore.Cursor
