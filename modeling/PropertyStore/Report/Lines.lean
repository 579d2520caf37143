import PropertyStore.DecodeError
import PropertyStore.Report.Listing

/-!
# One line to a record

Two short reports of a whole store. The one has a line for each record, in columns with
tabs between them: its place, its key, its kind of value, its value. The other says that
a store is sound, how much there is in it, and which sets have bytes after their records;
or what is wrong with it, and where.
-/

namespace PropertyStore.Report

/-- A record's key in writing: a number, or a name between quotes. -/
def keyText : RecordKey → String
  | .numeric entryType => Nat.repr entryType.toNat
  | .named name => Text.Quoted.quote name

/-- The line of the record at place `j` of the set at place `i`. -/
def recordLine (i j : Nat) (r : Record) : String :=
  Nat.repr i ++ "." ++ Nat.repr j ++ "\t" ++ keyText r.key ++ "\t" ++ r.valueType.label ++ "\t" ++
    r.display

/-- The lines of the records of a store. -/
def recordLines (store : Store) : List String :=
  store.sets.zipIdx.flatMap fun (set, i) => set.records.zipIdx.map fun (r, j) => recordLine i j r

/-- The lines that say what a sound store has. -/
def soundLines (store : Store) : List String :=
  ["✓ Store: " ++ Nat.repr store.sourceLength ++ " bytes",
    "✓ Sets: " ++ counted store.setCount "set" ++ " decoded",
    "✓ Records: " ++ counted store.recordCount "record" ++ " decoded"] ++
  store.sets.zipIdx.filterMap fun (set, i) =>
    if 0 < set.trailingBytes then
      some ("! Set " ++ Nat.repr i ++ ": " ++ counted set.trailingBytes "trailing byte" ++
        " skipped")
    else
      none

/-- The line that says what is wrong with a store. -/
def unsoundLine (e : DecodeError) : String :=
  "✗ Error: " ++ e.message ++
    match e.offset? with
    | some offset => s!" (at byte {offset})"
    | none => ""

end PropertyStore.Report
