import PropertyStore.Json
import PropertyStore.Report.Listing

/-!
# Documents

A document shows a store to programs: an object with the length of the store and a list
of its sets, each an object with a list of its records. The members of an object come in
the order of their names. What there is none of, such as the name of a record keyed by a
number, is null.
-/

namespace PropertyStore.Report

/-- The object of a record. -/
def recordObject (showHex : Bool) (set : PropertySet) (index : Nat) (r : Record) : Json :=
  .object <|
    (if showHex then [("data", .string (Text.Hex.encode r.data))] else []) ++
    [("entry_name", .ofOption .string r.entryName?),
      ("entry_type", .ofOption (fun n => .number n.toNat) r.entryType?),
      ("index", .number index),
      ("property", .ofOption (fun p => .string p.identifier) (propertyName? set r)),
      ("size", .number r.size.toNat),
      ("value", .string r.display),
      ("value_type", .string r.valueType.label),
      ("value_type_id", .number r.valueType.code.toNat)]

/-- The object of a set. -/
def setObject (showHex : Bool) (index : Nat) (set : PropertySet) : Json :=
  .object
    [("format_class", .ofOption (fun c => .string c.name) set.formatClass?),
      ("identifier", .string set.identifier.text),
      ("index", .number index),
      ("records", .list (set.records.zipIdx.map fun (r, i) => recordObject showHex set i r)),
      ("signature", .string set.signature.text),
      ("size", .number set.size.toNat),
      ("trailing_bytes", .number set.trailingBytes)]

/-- The object of a store, with some of its sets. -/
def document (showHex : Bool) (store : Store) (sets : List (Nat × PropertySet)) : Json :=
  .object
    [("sets", .list (sets.map fun (index, set) => setObject showHex index set)),
      ("source_len", .number store.sourceLength)]

end PropertyStore.Report
