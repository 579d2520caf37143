import PropertyStore.ReadError
import PropertyStore.Text.Numeral

/-!
# Malformed stores

Reading a store stops at the first thing that is wrong with it. Each cause is told with
the offset in the store at which it was found; only the failure of a device has none.
-/

namespace PropertyStore

/-- Why a store could not be read. -/
inductive DecodeError where
  /-- The bytes ran out, or could not be had. -/
  | read (cause : ReadError)
  /-- The bytes where a set has its signature are no signature that is known. -/
  | invalidSignature (offset : Nat) (found : List UInt8)
  /-- The size that a set or a record declares does not fit where it stands. -/
  | sizeMismatch (offset declared available : Nat)
  /-- The code of a value's kind is not known. -/
  | unsupportedValueType (offset : Nat) (code : UInt16)
  /-- A value is longer than the reader of the store allows. -/
  | valueTooLarge (offset size limit : Nat)
  deriving DecidableEq, Repr

namespace DecodeError

/-- A failure of a read is a failure to read the store. -/
instance : MonadLift (Except ReadError) (Except DecodeError) where
  monadLift
    | .ok a => .ok a
    | .error e => .error (.read e)

@[simp] theorem liftM_ok {α : Type} (a : α) :
    (liftM (Except.ok a : Except ReadError α) : Except DecodeError α) = .ok a := rfl

@[simp] theorem liftM_error {α : Type} (e : ReadError) :
    (liftM (Except.error e : Except ReadError α) : Except DecodeError α) = .error (.read e) := rfl

/-- What a failure is, without its particulars. -/
inductive Kind where
  /-- The bytes ran out. -/
  | outOfData
  /-- A signature is not known. -/
  | invalidSignature
  /-- A size does not fit. -/
  | sizeMismatch
  /-- A kind of value is not known. -/
  | unsupportedValueType
  /-- A value is too long. -/
  | valueTooLarge
  /-- A device failed. -/
  | device
  deriving DecidableEq, Repr

/-- What a failure is. -/
def kind : DecodeError → Kind
  | .read (.device _) => .device
  | .read (.outOfData _ _ _) | .read (.seekOutOfRange _ _) => .outOfData
  | .invalidSignature _ _ => .invalidSignature
  | .sizeMismatch _ _ _ => .sizeMismatch
  | .unsupportedValueType _ _ => .unsupportedValueType
  | .valueTooLarge _ _ _ => .valueTooLarge

/-- The offset in the store at which a failure was found. -/
def offset? : DecodeError → Option Nat
  | .read cause => cause.offset?
  | .invalidSignature offset _ => some offset
  | .sizeMismatch offset _ _ => some offset
  | .unsupportedValueType offset _ => some offset
  | .valueTooLarge offset _ _ => some offset

/-- Bytes in writing: in brackets, with commas between them. -/
def byteList (bs : List UInt8) : String :=
  "[" ++ ", ".intercalate (bs.map fun b => Text.Numeral.lowerHex 2 b.toNat) ++ "]"

/-- The failure in words. -/
def message : DecodeError → String
  | .read cause => cause.message
  | .invalidSignature offset found =>
    "invalid set signature " ++ byteList found ++ s!" at offset {offset}"
  | .sizeMismatch offset declared available =>
    s!"declared size {declared} at offset {offset} does not fit (available {available})"
  | .unsupportedValueType offset code =>
    "unsupported value type 0x" ++ Text.Numeral.lowerHex 4 code.toNat ++ s!" at offset {offset}"
  | .valueTooLarge offset size limit =>
    s!"value of {size} bytes at offset {offset} exceeds limit {limit}"

end DecodeError

end PropertyStore
