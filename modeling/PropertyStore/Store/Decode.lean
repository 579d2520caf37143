import PropertyStore.PropertySet.Decode

/-!
# Reading stores

A store is a run of sets. It ends where the bytes do, or where a set's size would be
zero; once there has been a set, one to three bytes that are left over end it too.
Anything else that is wrong ends the reading without a store.
-/

namespace PropertyStore

/-- The sets from a cursor on; `first` says that none came before it. -/
def Store.decodeSets (options : DecodeOptions) (first : Bool) (c : Cursor) :
    Except DecodeError (List PropertySet) :=
  if c.remaining = 0 ∨ c.remaining < 4 ∧ first = false then
    .ok []
  else
    match c.peekU32 with
    | .error e => .error (.read e)
    | .ok size =>
      if size = 0 then
        .ok []
      else
        match _ : PropertySet.decode options c with
        | .error e => .error e
        | .ok (set, rest) => (decodeSets options false rest).map (set :: ·)
termination_by c.remaining
decreasing_by
  have := PropertySet.remaining_of_decode ‹PropertySet.decode options c = .ok (set, rest)›
  simp only [PropertySet.headerSize] at this
  omega

/-- The store that bytes are. -/
def Store.decode (options : DecodeOptions) (input : Array UInt8) : Except DecodeError Store :=
  (decodeSets options true (.ofBytes input 0)).map fun sets => ⟨sets, input.size⟩

/-- The set that bytes start with. -/
def PropertySet.ofBytes (options : DecodeOptions) (input : Array UInt8) :
    Except DecodeError PropertySet :=
  (decode options (.ofBytes input 0)).map Prod.fst

end PropertyStore
