import PropertyStore.PropertyName
import PropertyStore.PropertySet
import PropertyStore.Record.Display
import PropertyStore.Text.Blank
import PropertyStore.Text.Quoted

/-!
# Listings

A listing shows a store to people, one field to a line: a line for the store, then a
block for each set with a block for each of its records. A set is set off from what
comes before it by an empty line, and so is a record.

    store: 141 bytes, 1 set

    set 0
      size:        137
      signature:   1SPS
      identifier:  46588AE2-4CBC-4338-BBFC-139326986DCE, in braces
      records:     1

      record 0
        entry type:  4
        value type:  VT_LPWSTR (0x001F)
        size:        109
        value:       S-1-5-21-4060289323-199701022-3924801681-1000

Blank characters at the end of a set's block are left out.
-/

namespace PropertyStore.Report

/-- As many spaces. -/
def spaces (n : Nat) : String := String.ofList (List.replicate n ' ')

/-- How far the value of a field stands from the start of its label. -/
def labelWidth : Nat := 13

/-- The line of a field: a label with a colon, and the value in its column. -/
def field (indent : Nat) (label value : String) : String :=
  spaces indent ++ label ++ ":" ++ spaces (labelWidth - (label.length + 1)) ++ value ++ "\n"

/-- The name of a well-known property of a record, in the class of its set. -/
def propertyName? (set : PropertySet) (r : Record) : Option PropertyName := do
  let formatClass ← set.formatClass?
  let entryType ← r.entryType?
  PropertyName.find? formatClass entryType r.valueType.code

/-- A count of things, with the noun in the plural unless there is one. -/
def counted (n : Nat) (noun : String) : String :=
  Nat.repr n ++ " " ++ noun ++ if n = 1 then "" else "s"

/-- The line of a record's key. -/
def keyField (set : PropertySet) (r : Record) : String :=
  match r.key with
  | .named name => field 4 "entry name" (Text.Quoted.quote name)
  | .numeric entryType =>
    let name := match propertyName? set r with
      | some property => " (" ++ property.identifier ++ ")"
      | none => ""
    field 4 "entry type" (Nat.repr entryType.toNat ++ name)

/-- The block of a record. -/
def recordBlock (showHex : Bool) (set : PropertySet) (index : Nat) (r : Record) : String :=
  "  record " ++ Nat.repr index ++ "\n" ++ keyField set r ++
    field 4 "value type" r.valueType.text ++ field 4 "size" (Nat.repr r.size.toNat) ++
    field 4 "value" r.display ++ if showHex then field 4 "data" (Text.Hex.encode r.data) else ""

/-- The lines of a set that come before its records. -/
def setHeader (index : Nat) (set : PropertySet) : String :=
  "set " ++ Nat.repr index ++ "\n" ++ field 2 "size" (Nat.repr set.size.toNat) ++
    field 2 "signature" set.signature.text ++ field 2 "identifier" set.identifier.text ++
    (match set.formatClass? with
      | some c => field 2 "class" (c.name ++ " (" ++ c.description ++ ")")
      | none => "") ++
    field 2 "records" (Nat.repr set.recordCount) ++
    if 0 < set.trailingBytes then field 2 "trailing" (Nat.repr set.trailingBytes ++ " bytes")
    else ""

/-- The block of a set. -/
def setBlock (showHex : Bool) (index : Nat) (set : PropertySet) : String :=
  let records := set.records.zipIdx.map fun (r, i) => "\n" ++ recordBlock showHex set i r
  String.ofList (Text.Blank.trimEnd (setHeader index set ++ String.join records).toList)

/-- The line of a store. -/
def storeLine (store : Store) : String :=
  "store: " ++ Nat.repr store.sourceLength ++ " bytes, " ++ counted store.setCount "set"

/-- The listing of some sets of a store. -/
def listing (showHex : Bool) (store : Store) (sets : List (Nat × PropertySet)) : String :=
  "\n\n".intercalate
    (storeLine store :: sets.map fun (index, set) => setBlock showHex index set)

end PropertyStore.Report
