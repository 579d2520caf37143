import PropertyStore.Guid

/-!
# Format classes

A set's identifier says what the set is for. Four identifiers are well known and have
names; a set with any other is read all the same. One of them, the class of user
defined properties, keys its records by name; every other set keys them by number.
-/

namespace PropertyStore

/-- A well-known purpose of a set. -/
inductive FormatClass where
  /-- What a document is: its title, its author, its dates. -/
  | summaryInformation
  /-- What a document is made of: its parts, its counts, its maker. -/
  | documentSummaryInformation
  /-- Properties that a user has named. -/
  | userDefinedProperties
  /-- What a file system knows of a file. -/
  | storage
  deriving DecidableEq, Repr

namespace FormatClass

/-- Every well-known class. -/
def all : List FormatClass :=
  [.summaryInformation, .documentSummaryInformation, .userDefinedProperties, .storage]

/-- The identifier of the sets of a class. -/
def identifier : FormatClass → Guid
  | .summaryInformation =>
    .ofFields 0xF29F85E0 0x4FF9 0x1068 #v[0xAB, 0x91, 0x08, 0x00, 0x2B, 0x27, 0xB3, 0xD9]
  | .documentSummaryInformation =>
    .ofFields 0xD5CDD502 0x2E9C 0x101B #v[0x93, 0x97, 0x08, 0x00, 0x2B, 0x2C, 0xF9, 0xAE]
  | .userDefinedProperties =>
    .ofFields 0xD5CDD505 0x2E9C 0x101B #v[0x93, 0x97, 0x08, 0x00, 0x2B, 0x2C, 0xF9, 0xAE]
  | .storage =>
    .ofFields 0xB725F130 0x47EF 0x101A #v[0xA5, 0xF1, 0x02, 0x60, 0x8C, 0x9E, 0xEB, 0xAC]

/-- The class that an identifier stands for, if it is well known. -/
def ofIdentifier? (id : Guid) : Option FormatClass :=
  all.find? fun c => c.identifier = id

/-- The symbol of a class. -/
def name : FormatClass → String
  | .summaryInformation => "FMTID_SummaryInformation"
  | .documentSummaryInformation => "FMTID_DocumentSummaryInformation"
  | .userDefinedProperties => "FMTID_UserDefinedProperties"
  | .storage => "FMTID_Storage"

/-- A class in words. -/
def description : FormatClass → String
  | .summaryInformation => "Summary information"
  | .documentSummaryInformation => "Document summary information"
  | .userDefinedProperties => "User defined"
  | .storage => "Storage"

end FormatClass

/-- How the records of a set are keyed. -/
inductive RecordLayout where
  /-- Each record carries a number. -/
  | numeric
  /-- Each record carries a name. -/
  | named
  deriving DecidableEq, Repr

/-- Records are named in the sets of user defined properties, and numbered elsewhere. -/
def RecordLayout.ofIdentifier (id : Guid) : RecordLayout :=
  if id = FormatClass.identifier .userDefinedProperties then .named else .numeric

theorem RecordLayout.ofIdentifier_eq_named_iff {id : Guid} :
    ofIdentifier id = .named ↔ id = FormatClass.identifier .userDefinedProperties := by
  rw [ofIdentifier]
  split <;> simp [*]

end PropertyStore
