import PropertyStore.FormatClass
import PropertyStore.Record
import PropertyStore.Signature

/-!
# Sets and stores

A set is a chain of records under one identifier. A store is a run of sets. Either may
be asked for a member by its place; a place that there is not is told together with the
number of places there are.
-/

namespace PropertyStore

/-- A chain of records under one identifier. -/
structure PropertySet where
  /-- The length of the set in its store, its size field included. -/
  size : UInt32
  /-- What says how the set is laid out. -/
  signature : Signature
  /-- What the set is for. -/
  identifier : Guid
  /-- The records, in order. -/
  records : List Record
  /-- How many bytes of the set come after the end of its records. -/
  trailingBytes : Nat
  deriving DecidableEq

/-- A run of sets. -/
structure Store where
  /-- The sets, in order. -/
  sets : List PropertySet
  /-- How many bytes the store was read from. -/
  sourceLength : Nat
  deriving DecidableEq

/-! ### Lookup -/

/-- A thing that has a place in a store. -/
inductive Member where
  /-- A set of a store. -/
  | set
  /-- A record of a set. -/
  | record
  deriving DecidableEq, Repr

/-- There is no member at `index`: there are `count` of them. -/
structure LookupError where
  /-- What was looked for. -/
  member : Member
  /-- The place it was looked for at. -/
  index : Nat
  /-- How many places there are. -/
  count : Nat
  deriving DecidableEq, Repr

/-- A kind of member in words. -/
def Member.noun : Member → String
  | .set => "set"
  | .record => "record"

/-- The failure in words. -/
def LookupError.message (e : LookupError) : String :=
  e.member.noun ++ s!" index {e.index} out of range (count {e.count})"

namespace PropertySet

/-- The well-known class of a set, if it has one. -/
def formatClass? (s : PropertySet) : Option FormatClass := FormatClass.ofIdentifier? s.identifier

/-- How the records of a set are keyed. -/
def layout (s : PropertySet) : RecordLayout := .ofIdentifier s.identifier

/-- How many records a set has. -/
def recordCount (s : PropertySet) : Nat := s.records.length

/-- The record at a place, if there is one. -/
def record? (s : PropertySet) (index : Nat) : Option Record := s.records[index]?

/-- The record at a place. -/
def record (s : PropertySet) (index : Nat) : Except LookupError Record :=
  (s.record? index).elim (.error ⟨.record, index, s.recordCount⟩) .ok

end PropertySet

namespace Store

/-- How many sets a store has. -/
def setCount (s : Store) : Nat := s.sets.length

/-- Whether a store has no sets. -/
def isEmpty (s : Store) : Bool := s.sets.isEmpty

/-- How many records the sets of a store have together. -/
def recordCount (s : Store) : Nat := (s.sets.flatMap PropertySet.records).length

/-- The set at a place, if there is one. -/
def set? (s : Store) (index : Nat) : Option PropertySet := s.sets[index]?

/-- The set at a place. -/
def set (s : Store) (index : Nat) : Except LookupError PropertySet :=
  (s.set? index).elim (.error ⟨.set, index, s.setCount⟩) .ok

end Store

end PropertyStore
