import PropertyStore.Proofs.Decode.Store
import PropertyStore.Proofs.Text.Lines
import PropertyStore.Proofs.Value.Display

/-!
# One line to a record, as a table

The list of the records of a store is meant to be read as a table: a line for each record, with its
place, its key, the kind of its value and the value in four columns (`recordTable`). It is that
table exactly if no value has a tab or an end of a line in writing (`list_table_iff`). The other
three columns never have any, a name because it stands between quotes; and of the values only texts
can have them, which are written as they are.
-/

namespace PropertyStore

open Text

namespace Report

/-- The columns of the line of the record at place `j` of the set at place `i`. -/
def recordColumns (i j : Nat) (r : Record) : List String :=
  [Nat.repr i ++ "." ++ Nat.repr j, keyText r.key, r.valueType.label, r.display]

/-- The table of the records of a store: set after set, and in each set record after record. -/
def recordTable (store : Store) : List (List String) :=
  store.sets.zipIdx.flatMap fun s => s.1.records.zipIdx.map fun r => recordColumns s.2 r.2 r.1

/-- The text can stand in a column of a table: it has neither a tab nor an end of a line. -/
def IsCell (s : String) : Prop := '\t' ∉ s.toList ∧ '\n' ∉ s.toList

variable {store : Store} {s : PropertySet} {r : Record} {i j : Nat}

theorem isCell_of_visible {s : String} (h : Visible s) : IsCell s :=
  ⟨h.not_mem rfl, h.not_mem rfl⟩

/-! ### The columns of a record -/

theorem isCell_place (i j : Nat) : IsCell (Nat.repr i ++ "." ++ Nat.repr j) :=
  isCell_of_visible (by simp +decide)

theorem isCell_keyText (key : RecordKey) : IsCell (keyText key) := by
  cases key with
  | numeric entryType => exact isCell_of_visible (visible_repr _)
  | named name =>
    exact ⟨fun mem => (ne_of_mem_quote mem).1 rfl, fun mem => (ne_of_mem_quote mem).2 rfl⟩

theorem isCell_label (t : ValueType) : IsCell t.label :=
  isCell_of_visible (by cases t <;> decide)

/-- Every column of a record can stand in a table if its value can. -/
theorem isCell_of_mem_recordColumns (h : IsCell r.display) {c : String}
    (hc : c ∈ recordColumns i j r) : IsCell c := by
  simp only [recordColumns, List.mem_cons, List.not_mem_nil, or_false] at hc
  rcases hc with rfl | rfl | rfl | rfl
  · exact isCell_place i j
  · exact isCell_keyText r.key
  · exact isCell_label r.valueType
  · exact h

/-- The line of a record is its columns with tabs between them. -/
theorem recordLine_eq (i j : Nat) (r : Record) :
    recordLine i j r = "\t".intercalate (recordColumns i j r) := by
  simp only [recordLine, recordColumns, String.intercalate_cons_cons, String.intercalate_singleton,
    String.append_assoc]

theorem recordLines_eq (store : Store) :
    recordLines store = (recordTable store).map "\t".intercalate := by
  simp only [recordLines, recordTable, List.map_flatMap, List.map_map, recordLine_eq]
  rfl

/-! ### The table -/

/-- A row of the table is that of a record of the store. -/
theorem exists_of_mem_recordTable {row : List String} (h : row ∈ recordTable store) :
    ∃ s ∈ store.sets, ∃ r ∈ s.records, ∃ i j, row = recordColumns i j r := by
  obtain ⟨⟨s, i⟩, hs, h⟩ := List.mem_flatMap.mp h
  obtain ⟨⟨r, j⟩, hr, rfl⟩ := List.mem_map.mp h
  exact ⟨s, List.fst_mem_of_mem_zipIdx hs, r, List.fst_mem_of_mem_zipIdx hr, i, j, rfl⟩

theorem exists_mem_zipIdx {α : Type} {xs : List α} {x : α} (h : x ∈ xs) :
    ∃ i, (x, i) ∈ xs.zipIdx := by
  obtain ⟨i, hi, rfl⟩ := List.getElem_of_mem h
  exact ⟨i, List.mk_mem_zipIdx_iff_getElem?.mpr (List.getElem?_eq_getElem hi)⟩

/-- Every record of the store has a row. -/
theorem exists_mem_recordTable (hs : s ∈ store.sets) (hr : r ∈ s.records) :
    ∃ i j, recordColumns i j r ∈ recordTable store := by
  obtain ⟨i, hi⟩ := exists_mem_zipIdx hs
  obtain ⟨j, hj⟩ := exists_mem_zipIdx hr
  exact ⟨i, j, List.mem_flatMap.mpr ⟨(s, i), hi, List.mem_map.mpr ⟨(r, j), hj, rfl⟩⟩⟩

/-- There are as many rows as records. -/
theorem length_recordTable (store : Store) : (recordTable store).length = store.recordCount := by
  have count (k : Nat) (sets : List PropertySet) :
      ((sets.zipIdx k).flatMap fun s => s.1.records.zipIdx.map fun r =>
        recordColumns s.2 r.2 r.1).length = (sets.flatMap PropertySet.records).length := by
    induction sets generalizing k with
    | nil => rfl
    | cons s sets ih =>
      simp only [List.zipIdx_cons, List.flatMap_cons, List.length_append, List.length_map,
        List.length_zipIdx, ih]
  exact count 0 store.sets

/-- The lines of the records are read as the table exactly if all values can stand in one. -/
theorem tableOf_recordLines_iff (store : Store) :
    tableOf (CommandLine.linesText (recordLines store)) = recordTable store ↔
      ∀ s ∈ store.sets, ∀ r ∈ s.records, IsCell r.display := by
  constructor
  · intro h s hs r hr
    obtain ⟨i, j, hrow⟩ := exists_mem_recordTable hs hr
    rw [← h] at hrow
    exact ne_of_mem_tableOf hrow (by simp [recordColumns])
  · intro h
    have cells : ∀ row ∈ recordTable store, ∀ c ∈ row, IsCell c := by
      intro row hrow c hc
      obtain ⟨s, hs, r, hr, i, j, rfl⟩ := exists_of_mem_recordTable hrow
      exact isCell_of_mem_recordColumns (h s hs r hr) hc
    have columns : ∀ row ∈ recordTable store, pieces '\t' ("\t".intercalate row) = row := by
      intro row hrow
      refine pieces_intercalate (fun c hc => (cells row hrow c hc).1) ?_
      obtain ⟨s, hs, r, hr, i, j, rfl⟩ := exists_of_mem_recordTable hrow
      exact List.cons_ne_nil _ _
    have lines : ∀ line ∈ recordLines store, '\n' ∉ line.toList := by
      intro line hline feed
      rw [recordLines_eq] at hline
      obtain ⟨row, hrow, rfl⟩ := List.mem_map.mp hline
      rcases mem_of_mem_intercalate feed with feed | ⟨c, hc, feed⟩
      · exact absurd feed (by decide)
      · exact (cells row hrow c hc).2 feed
    rw [tableOf_linesText lines, recordLines_eq, List.map_map]
    exact (List.map_congr_left columns).trans (List.map_id _)

end Report

/-! ### The command -/

namespace CommandLine.Command

open Report

/-- **A list of records is a table.** Of a file with a store, the command writes the table of its
records, with a line for each of them and four columns, exactly if no value has a tab or an end of a
line in writing. Only values that are texts can have them. -/
theorem list_table_iff (c : Command) (list : c.task = .list) {bytes : Array UInt8} {store : Store}
    (hok : Store.decode c.options bytes = .ok store) :
    ∃ output, c.outcome (.ok bytes) = .success output ∧
      (tableOf output = recordTable store ↔
        ∀ s ∈ store.sets, ∀ r ∈ s.records, IsCell r.display) ∧
      (recordTable store).length = store.recordCount ∧
      (∀ row ∈ recordTable store, row.length = 4) ∧
      ∀ s ∈ store.sets, ∀ r ∈ s.records, r.valueType.interpretation? ≠ some .text →
        IsCell r.display := by
  refine ⟨linesText (recordLines store), ?_, tableOf_recordLines_iff store,
    length_recordTable store, ?_,
    fun s _ r _ noText => isCell_of_visible (r.visible_display noText)⟩
  · rw [outcome, outcomeOn, list, hok]
    rfl
  · intro row hrow
    obtain ⟨s, hs, r, hr, i, j, rfl⟩ := exists_of_mem_recordTable hrow
    rfl

end CommandLine.Command

/-! ### A store with a text of three characters -/

open LittleEndian

/-- A record with a text of three bytes, of which the last is to be chosen. -/
def Record.note (last : UInt8) : Record where
  size := 20
  key := .numeric 2
  valueType := .codepageString
  data := [0x61, 0x62, last]
  codepage := .windows1252

/-- The bytes of that record. -/
def Record.noteBytes (last : UInt8) : List UInt8 :=
  word32 20 ++ word32 2 ++ [0] ++ word16 (ValueType.code .codepageString) ++ [0, 0] ++ word32 3 ++
    [0x61, 0x62, last] ++ []

theorem isRecord_note (last : UInt8) :
    IsRecord .numeric {} (Record.noteBytes last) (Record.note last) := by
  have isOpening : IsOpening .numeric
      (word32 20 ++ word32 2 ++ [0] ++ word16 (ValueType.code .codepageString) ++ [0, 0]) 20
      (.numeric 2) .codepageString := IsOpening.mk _ (IsHead.numeric 20 2 0) rfl
  have isCount : IsCount ValueType.codepageString.encoding (word32 3) [0x61, 0x62, last].length :=
    IsCount.counted 1 3
  have small : 3 ≤ ({} : DecodeOptions).maxValueSize := by decide
  exact ⟨HasFields.mk isOpening isCount small [], rfl⟩

/-- The store with that record alone. -/
def Store.note (last : UInt8) : Store where
  sets := [{ size := 44, signature := .serializedPropertyStorage, identifier := .zero,
             records := [.note last], trailingBytes := 0 }]
  sourceLength := 44

/-- The bytes of that store. -/
def Store.noteBytes (last : UInt8) : Array UInt8 :=
  (word32 44 ++ (Signature.bytes .serializedPropertyStorage ++ Guid.zero.bytes ++
    ((Record.noteBytes last ++ []) ++ []))).toArray

theorem Store.decode_note (last : UInt8) : decode {} (noteBytes last) = .ok (note last) :=
  have isBody := IsBody.mk (IsLayout.numeric (by decide)) (Run.cons (isRecord_note last) Run.nil)
    IsTail.none
  decode_of_isEnd (Run.cons (IsSet.mk isBody rfl) Run.nil) (IsEnd.none _) (List.append_nil _)

namespace CommandLine.Command

open Report

/-- The list of the records of a file, with no options given. -/
def plainList : Command where
  task := .list
  file := "store.bin"
  options := {}

/-- A text of three letters is listed on one line. -/
theorem list_table_note :
    Store.decode {} (Store.noteBytes 0x63) = .ok (Store.note 0x63) ∧
      ∃ output, plainList.outcome (.ok (Store.noteBytes 0x63)) = .success output ∧
        tableOf output = [["0.0", "2", "VT_LPSTR", "abc"]] := by
  have hok := Store.decode_note 0x63
  refine ⟨hok, ?_⟩
  obtain ⟨output, hout, table, -⟩ := list_table_iff plainList rfl hok
  have cells : ∀ s ∈ (Store.note 0x63).sets, ∀ r ∈ s.records, IsCell r.display := by
    intro s hs r hr
    rw [List.mem_singleton.mp hs] at hr
    rw [List.mem_singleton.mp hr]
    exact isCell_of_visible (by decide)
  exact ⟨output, hout, table.mpr cells⟩

/-- A text that ends with an end of a line is listed on two. -/
theorem list_two_lines :
    Store.decode {} (Store.noteBytes 0x0A) = .ok (Store.note 0x0A) ∧
      (Store.note 0x0A).recordCount = 1 ∧
      plainList.outcome (.ok (Store.noteBytes 0x0A)) = .success "0.0\t2\tVT_LPSTR\tab\n\n" ∧
      tableOf "0.0\t2\tVT_LPSTR\tab\n\n" = [["0.0", "2", "VT_LPSTR", "ab"], [""]] := by
  refine ⟨Store.decode_note 0x0A, rfl, ?_, rfl⟩
  have lines : linesText (recordLines (Store.note 0x0A)) = "0.0\t2\tVT_LPSTR\tab\n\n" := rfl
  rw [outcome, outcomeOn, show plainList.task = .list from rfl,
    show plainList.options = {} from rfl, Store.decode_note, ← lines]
  rfl

end CommandLine.Command

end PropertyStore
