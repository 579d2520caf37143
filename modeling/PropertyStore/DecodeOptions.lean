import PropertyStore.Codepage

/-!
# How a store is to be read

Two things are left to the reader of a store: which codepage its text in units of one
byte is in, and how long a value may be.
-/

namespace PropertyStore

/-- How a store is to be read. -/
structure DecodeOptions where
  /-- The codepage that every record is given. -/
  codepage : Codepage := .windows1252
  /-- The most bytes a value may have: sixteen mebibytes unless told otherwise. -/
  maxValueSize : Nat := 16777216
  deriving DecidableEq, Repr

end PropertyStore
