import PropertyStore.LittleEndian
import PropertyStore.Text.Numeral

/-!
# Identifiers

An identifier is sixteen bytes, kept as they lie in a store; two identifiers are
equal when their bytes are. In writing it is four numbers in braces: the first three
are words with the lowest byte first, the last is eight bytes as they come, of which
the first two stand before the last hyphen.
-/

namespace PropertyStore

/-- Sixteen bytes that identify something. -/
structure Guid where
  /-- The bytes, as they lie in a store. -/
  bytes : List UInt8
  length_bytes : bytes.length = 16
  deriving DecidableEq

namespace Guid

/-- Sixteen zero bytes. -/
def zero : Guid := ⟨List.replicate 16 0, rfl⟩

instance : Inhabited Guid := ⟨zero⟩

/-- The identifier with these bytes, if there are sixteen. -/
def ofBytes? (bs : List UInt8) : Option Guid :=
  if h : bs.length = 16 then some ⟨bs, h⟩ else none

/-- The identifier with these numbers. -/
def ofFields (data1 : UInt32) (data2 data3 : UInt16) (data4 : Vector UInt8 8) : Guid where
  bytes := LittleEndian.bytes 4 data1.toNat ++ LittleEndian.bytes 2 data2.toNat ++
    LittleEndian.bytes 2 data3.toNat ++ data4.toList
  length_bytes := by simp

/-- The first number, a word of four bytes. -/
def data1 (g : Guid) : UInt32 := UInt32.ofNat (LittleEndian.toNat (g.bytes.take 4))

/-- The second number, a word of two bytes. -/
def data2 (g : Guid) : UInt16 := UInt16.ofNat (LittleEndian.toNat ((g.bytes.drop 4).take 2))

/-- The third number, a word of two bytes. -/
def data3 (g : Guid) : UInt16 := UInt16.ofNat (LittleEndian.toNat ((g.bytes.drop 6).take 2))

/-- The last eight bytes. -/
def data4 (g : Guid) : Vector UInt8 8 :=
  ⟨(g.bytes.drop 8).toArray, by simp [g.length_bytes]⟩

/-- Bytes in capital letters. -/
def upperBytes (bs : List UInt8) : String :=
  String.join (bs.map fun b => Text.Numeral.upperHex 2 b.toNat)

/-- The identifier in writing. -/
def text (g : Guid) : String :=
  let tail := g.data4.toList
  "\x7b" ++ Text.Numeral.upperHex 8 g.data1.toNat ++ "-" ++
    Text.Numeral.upperHex 4 g.data2.toNat ++ "-" ++ Text.Numeral.upperHex 4 g.data3.toNat ++ "-" ++
    upperBytes (tail.take 2) ++ "-" ++ upperBytes (tail.drop 2) ++ "\x7d"

end Guid

end PropertyStore
