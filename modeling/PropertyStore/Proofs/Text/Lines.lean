import PropertyStore.CommandLine.Command

/-!
# Lines and columns

A text falls into pieces between separators, and the pieces with separators between them are the
text again (`intercalate_pieces`). Texts that have no separator in them are the pieces of what they
make with separators between them (`pieces_intercalate`), and only such texts can be pieces
(`not_mem_of_mem_pieces`).

A table is a text in which each line is a row, with tabs between its columns (`tableOf`).
-/

namespace PropertyStore.Text

/-- The pieces of a text between separators. -/
def pieces (separator : Char) (text : String) : List String :=
  (text.toList.splitOn separator).map String.ofList

/-- The rows of a table. Each line ends with an end of a line, so after the last there is an empty
piece, which is no row. -/
def tableOf (text : String) : List (List String) :=
  (pieces '\n' text).dropLast.map (pieces '\t')

variable {separator : Char} {s text : String} {ss : List String}

/-- Texts without the separator are the pieces of what they make with it. -/
theorem pieces_intercalate (h : ∀ s ∈ ss, separator ∉ s.toList) (some : ss ≠ []) :
    pieces separator ((String.ofList [separator]).intercalate ss) = ss := by
  have clear : ∀ cs ∈ ss.map String.toList, separator ∉ cs := by
    intro cs hcs
    obtain ⟨s, hs, rfl⟩ := List.mem_map.mp hcs
    exact h s hs
  have parts : ss.map String.toList ≠ [] := by
    rw [Ne, List.map_eq_nil_iff]
    exact some
  rw [pieces, String.toList_intercalate, String.toList_ofList,
    List.splitOn_intercalate separator clear parts]
  simp

/-- The pieces of a text make the text again. -/
theorem intercalate_pieces (separator : Char) (text : String) :
    (String.ofList [separator]).intercalate (pieces separator text) = text := by
  have back : (pieces separator text).map String.toList = text.toList.splitOn separator := by
    simp [pieces]
  rw [← String.toList_inj, String.toList_intercalate, back, String.toList_ofList,
    List.intercalate_splitOn]

/-- What is in a piece is in the whole, and is no separator. -/
theorem ne_and_mem_of_mem_splitOn {c x : Char} {cs ds : List Char} (h : ds ∈ cs.splitOn c)
    (hx : x ∈ ds) : x ≠ c ∧ x ∈ cs := by
  induction cs generalizing ds with
  | nil =>
    rw [List.splitOn_nil, List.mem_singleton] at h
    rw [h] at hx
    cases hx
  | cons d cs ih =>
    have later {es : List Char} (h : es ∈ cs.splitOn c) (hx : x ∈ es) : x ≠ c ∧ x ∈ d :: cs :=
      ⟨(ih h hx).1, List.mem_cons_of_mem d (ih h hx).2⟩
    rw [List.splitOn_cons_eq_if_modifyHead] at h
    split at h
    · rcases List.mem_cons.mp h with rfl | h
      · cases hx
      · exact later h hx
    · next other =>
      -- The first piece grows by a character that is no separator, the others stay.
      cases hsplit : cs.splitOn c with
      | nil => exact (List.splitOn_ne_nil _ _ hsplit).elim
      | cons first rest =>
        rw [hsplit] at h later
        rw [List.modifyHead_cons] at h
        rcases List.mem_cons.mp h with rfl | h
        · rcases List.mem_cons.mp hx with rfl | hx
          · exact ⟨fun same => other (by simp [same]), List.mem_cons_self⟩
          · exact later List.mem_cons_self hx
        · exact later (List.mem_cons_of_mem first h) hx

/-- A piece has no separator. -/
theorem not_mem_of_mem_pieces (h : s ∈ pieces separator text) : separator ∉ s.toList := by
  obtain ⟨cs, hcs, rfl⟩ := List.mem_map.mp h
  rw [String.toList_ofList]
  exact fun mem => (ne_and_mem_of_mem_splitOn hcs mem).1 rfl

/-- A piece has no characters but those of the text. -/
theorem mem_of_mem_pieces (h : s ∈ pieces separator text) {c : Char} (hc : c ∈ s.toList) :
    c ∈ text.toList := by
  obtain ⟨cs, hcs, rfl⟩ := List.mem_map.mp h
  rw [String.toList_ofList] at hc
  exact (ne_and_mem_of_mem_splitOn hcs hc).2

/-- What is made with a separator has no characters but those of the texts and the separator. -/
theorem mem_of_mem_intercalate {between : String} {c : Char}
    (h : c ∈ (between.intercalate ss).toList) : c ∈ between.toList ∨ ∃ s ∈ ss, c ∈ s.toList := by
  induction ss with
  | nil => cases h
  | cons s ss ih =>
    by_cases none : ss = []
    · subst none
      rw [String.intercalate_singleton] at h
      exact Or.inr ⟨s, List.mem_cons_self, h⟩
    · rw [String.intercalate_cons_of_ne_nil none, String.toList_append, String.toList_append] at h
      rcases List.mem_append.mp h with h | h
      · rcases List.mem_append.mp h with h | h
        · exact Or.inr ⟨s, List.mem_cons_self, h⟩
        · exact Or.inl h
      · rcases ih h with h | ⟨t, ht, h⟩
        · exact Or.inl h
        · exact Or.inr ⟨t, List.mem_cons_of_mem s ht, h⟩

/-- What is made with a separator can be a part of what is made with it. -/
theorem intercalate_intercalate_cons {between : String} {ss ts : List String} (some : ss ≠ []) :
    between.intercalate (between.intercalate ss :: ts) = between.intercalate (ss ++ ts) := by
  induction ss with
  | nil => exact absurd rfl some
  | cons s ss ih =>
    by_cases none : ss = []
    · rw [none, String.intercalate_singleton, List.singleton_append]
    · rw [String.intercalate_cons_of_ne_nil none, String.intercalate_cons_append, ih none,
        List.cons_append, String.intercalate_cons_of_ne_nil (by simp [none])]

/-- Blocks of lines with empty lines between them are the lines, an empty one before each block. -/
theorem intercalate_blocks (s : String) (blocks : List (List String))
    (some : ∀ b ∈ blocks, b ≠ []) :
    "\n\n".intercalate (s :: blocks.map "\n".intercalate) =
      "\n".intercalate (s :: blocks.flatMap fun b => "" :: b) := by
  induction blocks generalizing s with
  | nil => rfl
  | cons b blocks ih =>
    obtain ⟨hb, later⟩ := List.forall_mem_cons.mp some
    rw [List.map_cons, String.intercalate_cons_cons, ih _ later, intercalate_intercalate_cons hb,
      List.flatMap_cons, List.cons_append, String.intercalate_cons_cons,
      String.intercalate_cons_of_ne_nil (by simp [hb]), show "\n\n" = "\n" ++ "\n" from rfl]
    simp only [String.empty_append, String.append_assoc]

/-! ### Tables -/

theorem linesText_append (lines more : List String) :
    CommandLine.linesText (lines ++ more) =
      CommandLine.linesText lines ++ CommandLine.linesText more := by
  simp [CommandLine.linesText, String.join_append]

theorem linesText_flatMap {α : Type} (f : α → List String) (xs : List α) :
    CommandLine.linesText (xs.flatMap f) =
      String.join (xs.map fun x => CommandLine.linesText (f x)) := by
  induction xs with
  | nil => rfl
  | cons x xs ih => rw [List.flatMap_cons, linesText_append, ih, List.map_cons, String.join_cons]

/-- Lines with their ends, and then a text, are what they all make with ends of lines between
them. -/
theorem linesText_append_eq_intercalate (lines : List String) (last : String) :
    CommandLine.linesText lines ++ last = "\n".intercalate (lines ++ [last]) := by
  induction lines with
  | nil => simp [CommandLine.linesText]
  | cons line lines ih =>
    have more : lines ++ [last] ≠ [] := by simp
    rw [List.cons_append, String.intercalate_cons_of_ne_nil more, ← ih]
    simp [CommandLine.linesText, String.join_cons, String.append_assoc]

/-- The pieces of a text that is written in lines are the lines, and an empty one after the last. -/
theorem pieces_linesText {lines : List String} (h : ∀ line ∈ lines, '\n' ∉ line.toList) :
    pieces '\n' (CommandLine.linesText lines) = lines ++ [""] := by
  have clear : ∀ line ∈ lines ++ [""], '\n' ∉ line.toList := by
    intro line mem
    rcases List.mem_append.mp mem with mem | mem
    · exact h line mem
    · rw [List.mem_singleton.mp mem]
      decide
  rw [← String.append_empty (s := CommandLine.linesText lines), linesText_append_eq_intercalate]
  exact pieces_intercalate clear (by simp)

/-- A text that is written in lines is a table with a row for each of them. -/
theorem tableOf_linesText {lines : List String} (h : ∀ line ∈ lines, '\n' ∉ line.toList) :
    tableOf (CommandLine.linesText lines) = lines.map (pieces '\t') := by
  rw [tableOf, pieces_linesText h, List.dropLast_concat]

/-- No column of a table has a tab or an end of a line. -/
theorem ne_of_mem_tableOf {row : List String} (hrow : row ∈ tableOf text) (hs : s ∈ row) :
    '\t' ∉ s.toList ∧ '\n' ∉ s.toList := by
  obtain ⟨line, hline, rfl⟩ := List.mem_map.mp hrow
  have isPiece := (List.dropLast_subset _) hline
  exact ⟨not_mem_of_mem_pieces hs,
    fun mem => not_mem_of_mem_pieces isPiece (mem_of_mem_pieces hs mem)⟩

end PropertyStore.Text
