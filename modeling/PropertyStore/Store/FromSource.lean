import PropertyStore.PropertySet.Decode
import PropertyStore.Source

/-!
# Reading stores from a source

A store can be read from a source one set at a time: first the size of the set, then the
set. The rules are those of a store in memory.
-/

namespace PropertyStore.Store

/-- The sets from an offset on, of a source with `length` bytes; `first` says that none
came before it. -/
def decodeSetsFrom {σ : Type} [ByteSource σ] (options : DecodeOptions) (length : Nat)
    (first : Bool) (offset : Nat) (source : σ) : Except DecodeError (List PropertySet) :=
  if length ≤ offset ∨ length - offset < 4 ∧ first = false then
    .ok []
  else
    match ByteSource.read source offset 4 with
    | (.error e, _) => .error (.read e)
    | (.ok head, source) =>
      let size := LittleEndian.toNat head
      if size = 0 then
        .ok []
      else if size < PropertySet.headerSize then
        .error (.sizeMismatch offset size (length - offset))
      else
        match ByteSource.read source offset size with
        | (.error e, _) => .error (.read e)
        | (.ok bytes, source) =>
          match PropertySet.decode options (.ofBytes bytes.toArray offset) with
          | .error e => .error e
          | .ok (set, _) =>
            (decodeSetsFrom options length false (offset + size) source).map (set :: ·)
termination_by length - offset

/-- The store that a source holds. -/
def decodeSource {σ : Type} [ByteSource σ] (options : DecodeOptions) (source : σ) :
    Except DecodeError Store :=
  let length := ByteSource.size source
  (decodeSetsFrom options length true 0 source).map fun sets => ⟨sets, length⟩

end PropertyStore.Store
