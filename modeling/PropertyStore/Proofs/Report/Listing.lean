import PropertyStore.Proofs.Report.Lines
import PropertyStore.Proofs.Text.Blank

/-!
# One field to a line

A listing has a line for the store, and for each of its sets an empty line and the lines of the set:
its header, then for each record an empty line, the record's place and four fields, or five with the
bytes (`setLines`). Of these lines a listing shows all but the blank characters at the end of the
last line of each set (`listing_eq`).

So a listing is read back as those lines exactly if no value has an end of a line in writing, and no
set ends with a value that is empty or ends with a blank character (`listing_lines_iff`).
-/

namespace PropertyStore.Report

open Text CommandLine

/-! ### The lines of a set -/

/-- The line of a field, without its end. -/
def fieldLine (indent : Nat) (label value : String) : String :=
  spaces indent ++ label ++ ":" ++ spaces (labelWidth - (label.length + 1)) ++ value

/-- The line of a record's key. -/
def keyLine (set : PropertySet) (r : Record) : String :=
  match r.key with
  | .named name => fieldLine 4 "entry name" (Quoted.quote name)
  | .numeric entryType =>
    fieldLine 4 "entry type" (Nat.repr entryType.toNat ++
      ((propertyName? set r).map fun p => " (" ++ p.identifier ++ ")").getD "")

/-- The lines of a record, with the empty line before them. -/
def blockLines (showHex : Bool) (set : PropertySet) (index : Nat) (r : Record) : List String :=
  ["", "  record " ++ Nat.repr index, keyLine set r, fieldLine 4 "value type" r.valueType.text,
    fieldLine 4 "size" (Nat.repr r.size.toNat), fieldLine 4 "value" r.display] ++
  if showHex then [fieldLine 4 "data" (Hex.encode r.data)] else []

/-- The lines of a set before those of its records. -/
def headerLines (index : Nat) (set : PropertySet) : List String :=
  ["set " ++ Nat.repr index, fieldLine 2 "size" (Nat.repr set.size.toNat),
    fieldLine 2 "signature" set.signature.text, fieldLine 2 "identifier" set.identifier.text] ++
  (set.formatClass?.map fun c =>
    fieldLine 2 "class" (c.name ++ " (" ++ c.description ++ ")")).toList ++
  [fieldLine 2 "records" (Nat.repr set.recordCount)] ++
  if 0 < set.trailingBytes then [fieldLine 2 "trailing" (Nat.repr set.trailingBytes ++ " bytes")]
  else []

/-- The lines of a set. -/
def setLines (showHex : Bool) (index : Nat) (set : PropertySet) : List String :=
  headerLines index set ++ set.records.zipIdx.flatMap fun r => blockLines showHex set r.2 r.1

/-- The lines of a listing: one for the store, and for each set an empty line and its own. -/
def listingLines (showHex : Bool) (store : Store) (sets : List (Nat × PropertySet)) : List String :=
  storeLine store :: sets.flatMap fun s => "" :: setLines showHex s.1 s.2

/-- The lines that a listing shows: of the last line of each set, no blank characters at the end. -/
def shownLines (showHex : Bool) (store : Store) (sets : List (Nat × PropertySet)) : List String :=
  storeLine store :: sets.flatMap fun s => "" :: trimLast (setLines showHex s.1 s.2)

/-- The value that a record's lines end with. -/
def lastValue (showHex : Bool) (r : Record) : String :=
  if showHex then Hex.encode r.data else r.display

variable (showHex : Bool) (index : Nat) (set : PropertySet)

theorem field_eq (indent : Nat) (label value : String) :
    field indent label value = fieldLine indent label value ++ "\n" := rfl

theorem keyField_eq (r : Record) : keyField set r = keyLine set r ++ "\n" := by
  rw [keyField, keyLine]
  cases r.key with
  | named name => rfl
  | numeric entryType => cases propertyName? set r <;> rfl

theorem recordBlock_eq (r : Record) :
    "\n" ++ recordBlock showHex set index r = linesText (blockLines showHex set index r) := by
  cases showHex <;>
    simp [recordBlock, blockLines, linesText, String.join_cons, field_eq, keyField_eq,
      String.append_assoc]

theorem setHeader_eq : setHeader index set = linesText (headerLines index set) := by
  rw [setHeader, headerLines]
  by_cases trailing : 0 < set.trailingBytes <;> cases set.formatClass? <;>
    simp [trailing, linesText, String.join_cons, field_eq, String.append_assoc]

theorem setBlock_eq :
    setBlock showHex index set = trim (linesText (setLines showHex index set)) := by
  have records : linesText (set.records.zipIdx.flatMap fun r => blockLines showHex set r.2 r.1) =
      String.join (set.records.zipIdx.map fun r => "\n" ++ recordBlock showHex set r.2 r.1) := by
    simp only [linesText_flatMap, recordBlock_eq]
  rw [setLines, linesText_append, records, ← setHeader_eq]
  rfl

/-! ### The last line of a set -/

/-- A field shows its colon. -/
theorem colon_mem_fieldLine (indent : Nat) (label value : String) :
    ':' ∈ (fieldLine indent label value).toList := by
  simp [fieldLine]

/-- The line of a field loses nothing by trimming exactly if its value ends in a sign: where the
value is empty, the line ends in spaces. -/
theorem trim_fieldLine_eq_iff (indent : Nat) {label value : String}
    (short : label.length + 1 < labelWidth) :
    trim (fieldLine indent label value) = fieldLine indent label value ↔ EndsInSign value := by
  have some : fieldLine indent label value ≠ "" := by
    intro none
    have := colon_mem_fieldLine indent label value
    rw [none] at this
    cases this
  rw [trim_eq_self_iff some]
  by_cases empty : value = ""
  · obtain ⟨k, hk⟩ : ∃ k, labelWidth - (label.length + 1) = k + 1 :=
      Nat.exists_eq_succ_of_ne_zero (by omega)
    have last : (fieldLine indent label value).toList =
        (spaces indent ++ label ++ ":" ++ spaces k).toList ++ [' '] := by
      simp [fieldLine, empty, hk, spaces, List.replicate_succ']
    rw [endsInSign_of_toList last]
    simp [EndsInSign, empty]
    decide
  · exact endsInSign_append empty

theorem exists_blockLines_eq (r : Record) :
    ∃ front label,
      blockLines showHex set index r = front ++ [fieldLine 4 label (lastValue showHex r)] ∧
      label.length + 1 < labelWidth := by
  cases showHex with
  | false => exact ⟨List.take 5 (blockLines false set index r), "value", rfl, by decide⟩
  | true => exact ⟨List.take 6 (blockLines true set index r), "data", rfl, by decide⟩

/-- The last line of a header tells a count, in digits or with a word after them. -/
theorem exists_headerLines_eq :
    ∃ front label value, headerLines index set = front ++ [fieldLine 2 label value] ∧
      label.length + 1 < labelWidth ∧ EndsInSign value := by
  rw [headerLines]
  by_cases trailing : 0 < set.trailingBytes
  · refine ⟨_, "trailing", Nat.repr set.trailingBytes ++ " bytes", by rw [if_pos trailing],
      by decide, ?_⟩
    rw [endsInSign_append (by decide)]
    exact ⟨'s', rfl, rfl⟩
  · exact ⟨_, "records", Nat.repr set.recordCount, by rw [if_neg trailing, List.append_nil],
      by decide, endsInSign_of_visible (visible_repr _) Nat.repr_ne_empty⟩

/-- The last line of a set is a field: of its last record, or of its header. -/
theorem exists_setLines_eq :
    ∃ front indent label value,
      setLines showHex index set = front ++ [fieldLine indent label value] ∧
      label.length + 1 < labelWidth ∧
      (EndsInSign value ↔ ∀ r ∈ set.records.getLast?, EndsInSign (lastValue showHex r)) := by
  -- A set without records ends with its header, any other with the block of its last record.
  rcases List.eq_nil_or_concat' set.records with none | ⟨records, r, some⟩
  · obtain ⟨front, label, value, header, short, sign⟩ := exists_headerLines_eq index set
    refine ⟨front, 2, label, value, ?_, short, ?_⟩
    · simp [setLines, none, header]
    · simp [none, sign]
  · obtain ⟨front, label, block, short⟩ := exists_blockLines_eq showHex records.length set r
    refine ⟨headerLines index set ++
      (records.zipIdx.flatMap fun r => blockLines showHex set r.2 r.1) ++ front,
      4, label, lastValue showHex r, ?_, short, ?_⟩
    · simp [setLines, some, List.zipIdx_append, block]
    · simp [some]

/-! ### The listing -/

/-- A set's block is its lines, but for the blank characters at its end. -/
theorem setBlock_eq_intercalate :
    setBlock showHex index set = "\n".intercalate (trimLast (setLines showHex index set)) := by
  obtain ⟨front, indent, label, value, lines, -, -⟩ := exists_setLines_eq showHex index set
  rw [setBlock_eq, lines, trim_linesText (colon_mem_fieldLine indent label value) rfl]

/-- A listing is its lines, but for the blank characters at the end of the last line of each set. -/
theorem listing_eq (store : Store) (sets : List (Nat × PropertySet)) :
    listing showHex store sets = "\n".intercalate (shownLines showHex store sets) := by
  have some : ∀ b ∈ sets.map fun s => trimLast (setLines showHex s.1 s.2), b ≠ [] := by
    intro b mem
    obtain ⟨s, -, rfl⟩ := List.mem_map.mp mem
    obtain ⟨front, indent, label, value, lines, -, -⟩ := exists_setLines_eq showHex s.1 s.2
    simp [lines]
  have blocks := intercalate_blocks (storeLine store) _ some
  rw [List.map_map, List.flatMap_map] at blocks
  rw [shownLines, ← blocks, listing]
  simp only [setBlock_eq_intercalate]
  rfl

/-! ### Ends of lines -/

/-- The text is on one line. -/
def Unbroken (s : String) : Prop := '\n' ∉ s.toList

instance (s : String) : Decidable (Unbroken s) := inferInstanceAs (Decidable ('\n' ∉ s.toList))

@[simp] theorem unbroken_append {s t : String} : Unbroken (s ++ t) ↔ Unbroken s ∧ Unbroken t := by
  simp [Unbroken]

theorem unbroken_of_visible {s : String} (h : Visible s) : Unbroken s := h.not_mem rfl

theorem unbroken_repr (n : Nat) : Unbroken (Nat.repr n) := unbroken_of_visible (visible_repr n)

/-- The line of a field is a line if its value is one. -/
theorem unbroken_fieldLine {indent : Nat} {label value : String} (h : Unbroken label) :
    Unbroken (fieldLine indent label value) ↔ Unbroken value := by
  have spaces (n : Nat) : Unbroken (spaces n) := by simp [Unbroken, Report.spaces]
  simp +decide [fieldLine, h, spaces]

theorem visible_identifier_of_propertyName? {set : PropertySet} {r : Record} {p : PropertyName}
    (h : propertyName? set r = some p) : Visible p.identifier := by
  have listed : ∀ c, ∀ p ∈ PropertyName.table c, Visible p.identifier := by
    intro c
    cases c <;> decide +kernel
  simp only [propertyName?, Option.bind_eq_bind, Option.bind_eq_some_iff] at h
  obtain ⟨c, -, n, -, found⟩ := h
  exact listed c p (List.mem_of_find?_eq_some found)

theorem unbroken_keyLine (r : Record) : Unbroken (keyLine set r) := by
  unfold keyLine
  cases r.key with
  | named name =>
    rw [unbroken_fieldLine (by decide)]
    exact fun mem => (ne_of_mem_quote mem).2 rfl
  | numeric entryType =>
    rw [unbroken_fieldLine (by decide), unbroken_append]
    refine ⟨unbroken_repr _, ?_⟩
    cases found : propertyName? set r with
    | none => decide
    | some p =>
      have identifier := unbroken_of_visible (visible_identifier_of_propertyName? found)
      simp +decide [identifier]

/-- Every line of a header is a line. -/
theorem unbroken_of_mem_headerLines {line : String} (h : line ∈ headerLines index set) :
    Unbroken line := by
  simp only [headerLines, List.mem_append, List.mem_cons, List.not_mem_nil, or_false,
    Option.mem_toList] at h
  rcases h with (((rfl | rfl | rfl | rfl) | hclass) | rfl) | h
  · simp +decide [unbroken_repr]
  · simp +decide [unbroken_fieldLine, unbroken_repr]
  · rw [unbroken_fieldLine (by decide)]
    cases set.signature
    decide
  · rw [unbroken_fieldLine (by decide)]
    exact unbroken_of_visible (visible_identifier _)
  · obtain ⟨c, -, rfl⟩ := Option.map_eq_some_iff.mp hclass
    rw [unbroken_fieldLine (by decide)]
    cases c <;> decide
  · simp +decide [unbroken_fieldLine, unbroken_repr]
  · split at h
    · rw [List.mem_singleton.mp h]
      simp +decide [unbroken_fieldLine, unbroken_repr]
    · cases h

/-- The lines of a record are lines if its value is one. -/
theorem unbroken_blockLines_iff (r : Record) :
    (∀ line ∈ blockLines showHex set index r, Unbroken line) ↔ Unbroken r.display := by
  have valueType : Unbroken r.valueType.text := by
    have label : Unbroken r.valueType.label := (isCell_label r.valueType).2
    have code := unbroken_of_visible (visible_upperHex 4 r.valueType.code.toNat)
    simp +decide [ValueType.text, label, code]
  have data : Unbroken (Hex.encode r.data) := unbroken_of_visible (visible_hex r.data)
  cases showHex <;>
    simp +decide [blockLines, unbroken_fieldLine, unbroken_repr, unbroken_keyLine, valueType, data]

theorem unbroken_setLines_iff :
    (∀ line ∈ setLines showHex index set, Unbroken line) ↔
      ∀ r ∈ set.records, Unbroken r.display := by
  constructor
  · intro h r hr
    obtain ⟨i, hi⟩ := exists_mem_zipIdx hr
    rw [← unbroken_blockLines_iff showHex i set]
    intro line hline
    exact h line (List.mem_append_right _ (List.mem_flatMap.mpr ⟨(r, i), hi, hline⟩))
  · intro h line hline
    rcases List.mem_append.mp hline with hline | hline
    · exact unbroken_of_mem_headerLines index set hline
    · obtain ⟨⟨r, i⟩, hr, hline⟩ := List.mem_flatMap.mp hline
      exact (unbroken_blockLines_iff showHex i set r).mpr (h r (List.fst_mem_of_mem_zipIdx hr)) line
        hline

/-! ### Reading a listing -/

/-- Two ways to make lists as long as each other for each of some things make the same of each, if
they make the same in a row. -/
theorem eq_of_flatMap_eq {α β : Type} {f g : α → List β} {xs : List α}
    (long : ∀ x ∈ xs, (f x).length = (g x).length) (h : xs.flatMap f = xs.flatMap g) :
    ∀ x ∈ xs, f x = g x := by
  induction xs with
  | nil => exact fun x mem => by cases mem
  | cons y xs ih =>
    obtain ⟨hy, later⟩ := List.forall_mem_cons.mp long
    rw [List.flatMap_cons, List.flatMap_cons] at h
    obtain ⟨first, rest⟩ := List.append_inj h hy
    exact List.forall_mem_cons.mpr ⟨first, ih later rest⟩

/-- Trimming the last of some lines breaks none of them. -/
theorem unbroken_of_mem_trimLast {lines : List String} (h : ∀ line ∈ lines, Unbroken line)
    {line : String} (mem : line ∈ trimLast lines) : Unbroken line := by
  rcases List.mem_append.mp mem with mem | mem
  · exact h line (List.dropLast_subset _ mem)
  · obtain ⟨last, hlast, rfl⟩ := List.mem_map.mp mem
    exact fun feed =>
      h last (List.mem_of_getLast? (Option.mem_toList.mp hlast)) (mem_of_mem_trim feed)

/-- Nothing of the lines of a set is lost exactly if its last record, if it has records, ends in a
sign. -/
theorem trimLast_setLines_eq_iff :
    trimLast (setLines showHex index set) = setLines showHex index set ↔
      ∀ r ∈ set.records.getLast?, EndsInSign (lastValue showHex r) := by
  obtain ⟨front, indent, label, value, lines, short, sign⟩ := exists_setLines_eq showHex index set
  rw [lines, trimLast_concat, ← sign, ← trim_fieldLine_eq_iff indent short]
  simp

theorem length_trimLast_setLines :
    (trimLast (setLines showHex index set)).length = (setLines showHex index set).length := by
  obtain ⟨front, indent, label, value, lines, -, -⟩ := exists_setLines_eq showHex index set
  simp [lines]

theorem unbroken_storeLine (store : Store) : Unbroken (storeLine store) := by
  unfold storeLine counted
  split <;> simp +decide [unbroken_repr]

/-- If every line of the sets is one, a listing is read back as the lines that it shows. -/
theorem pieces_listing (store : Store) {sets : List (Nat × PropertySet)}
    (h : ∀ s ∈ sets, ∀ line ∈ setLines showHex s.1 s.2, Unbroken line) :
    pieces '\n' (listing showHex store sets) = shownLines showHex store sets := by
  rw [listing_eq]
  refine pieces_intercalate ?_ (List.cons_ne_nil _ _)
  intro line mem
  rcases List.mem_cons.mp mem with rfl | mem
  · exact unbroken_storeLine store
  · obtain ⟨s, hs, mem⟩ := List.mem_flatMap.mp mem
    rcases List.mem_cons.mp mem with rfl | mem
    · decide
    · exact unbroken_of_mem_trimLast (h s hs) mem

/-- **One field to a line, and values as they are.** A listing of some sets of a store is its lines,
but for the blank characters at the end of the last line of each set. It is read back as those lines
exactly if in every set no value has an end of a line in writing, and the last is not empty and does
not end with a blank character. Only a value that is a text can have an end of a line, or end with a
blank character. -/
theorem listing_lines_iff (store : Store) (sets : List (Nat × PropertySet)) :
    listing showHex store sets = "\n".intercalate (shownLines showHex store sets) ∧
      (pieces '\n' (listing showHex store sets) = listingLines showHex store sets ↔
        ∀ s ∈ sets, (∀ r ∈ s.2.records, Unbroken r.display) ∧
          ∀ r ∈ s.2.records.getLast?, EndsInSign (lastValue showHex r)) ∧
      ∀ s ∈ sets, ∀ r ∈ s.2.records, r.valueType.interpretation? ≠ some .text →
        Unbroken r.display ∧ (r.display ≠ "" → EndsInSign r.display) := by
  refine ⟨listing_eq showHex store sets, ⟨?_, ?_⟩, ?_⟩
  · intro h
    -- What is read back are pieces between ends of lines, so no line has one in it.
    have lines : ∀ s ∈ sets, ∀ line ∈ setLines showHex s.1 s.2, Unbroken line := by
      intro s hs line hline
      have listed : line ∈ listingLines showHex store sets :=
        List.mem_cons_of_mem _ (List.mem_flatMap.mpr ⟨s, hs, List.mem_cons_of_mem _ hline⟩)
      rw [← h] at listed
      exact not_mem_of_mem_pieces listed
    -- But then they are the lines shown, which are all the lines only if none has been cut.
    rw [pieces_listing showHex store lines] at h
    have whole := eq_of_flatMap_eq
      (fun s _ => by simp [length_trimLast_setLines]) (List.cons.inj h).2
    intro s hs
    exact ⟨(unbroken_setLines_iff showHex s.1 s.2).mp (lines s hs),
      (trimLast_setLines_eq_iff showHex s.1 s.2).mp (List.cons.inj (whole s hs)).2⟩
  · intro h
    have lines : ∀ s ∈ sets, ∀ line ∈ setLines showHex s.1 s.2, Unbroken line := fun s hs =>
      (unbroken_setLines_iff showHex s.1 s.2).mpr (h s hs).1
    rw [pieces_listing showHex store lines]
    refine congrArg (storeLine store :: ·) (List.flatMap_congr fun s hs => ?_)
    rw [(trimLast_setLines_eq_iff showHex s.1 s.2).mpr (h s hs).2]
  · intro s _ r _ noText
    have visible := r.visible_display noText
    exact ⟨unbroken_of_visible visible, endsInSign_of_visible visible⟩

/-- A text that ends with a space loses it at the end of its set. -/
theorem listing_note_trimmed :
    Store.decode {} (Store.noteBytes 0x20) = .ok (Store.note 0x20) ∧
      (Record.note 0x20).display = "ab " ∧
      ∃ sets, select (Store.note 0x20) none = .ok sets ∧
        (Store.note 0x20).report {} = .ok (listing false (Store.note 0x20) sets) ∧
        (pieces '\n' (listing false (Store.note 0x20) sets)).getLast? = some "    value:       ab" ∧
        (listingLines false (Store.note 0x20) sets).getLast? = some "    value:       ab " := by
  have display : (Record.note 0x20).display = "ab " := rfl
  refine ⟨Store.decode_note 0x20, display, _, rfl, rfl, ?_, rfl⟩
  rw [pieces_listing]
  · rfl
  · intro s hs
    rw [unbroken_setLines_iff]
    intro r hr
    rw [List.mem_singleton.mp hs] at hr
    rw [List.mem_singleton.mp hr, display]
    decide

end PropertyStore.Report
