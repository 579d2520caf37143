/-!
# Signatures

Four bytes after a set's size say how the rest of the set is laid out. One layout is
known: `1SPS`, serialized property storage.
-/

namespace PropertyStore

/-- A signature that is known. -/
inductive Signature where
  /-- Serialized property storage. -/
  | serializedPropertyStorage
  deriving DecidableEq, Repr

namespace Signature

/-- The signature in writing. -/
def text : Signature → String
  | .serializedPropertyStorage => "1SPS"

/-- The signature as it lies in a set. -/
def bytes : Signature → List UInt8
  | .serializedPropertyStorage => [0x31, 0x53, 0x50, 0x53]

@[simp] theorem length_bytes (s : Signature) : s.bytes.length = 4 := by
  cases s
  rfl

/-- The signature that lies in a set as these bytes, if it is known. -/
def ofBytes? (bs : List UInt8) : Option Signature :=
  if bs = bytes .serializedPropertyStorage then some .serializedPropertyStorage else none

theorem ofBytes?_eq_some_iff {bs : List UInt8} {s : Signature} :
    ofBytes? bs = some s ↔ bs = s.bytes := by
  cases s
  by_cases h : bs = bytes .serializedPropertyStorage <;> simp [ofBytes?, h]

end Signature

end PropertyStore
