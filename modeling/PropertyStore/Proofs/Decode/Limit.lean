import PropertyStore.Proofs.Decode.Store

/-!
# Two readers of one store

A reader is told a codepage and the most bytes that a value may have. Here a wide reader and a
narrow one, which allows no longer values, read the same bytes. They go in step up to the first
value that is too long for the narrow one, and there it stops (`narrowed_decode`): so a store that
has no such value is the same store for both, but for the codepage on its records; a store that has
one is refused by the narrow reader for the first of them; and where the wide reader fails, the
narrow one fails in the same way or has stopped before (`DecodeError.Sooner`). If both allow the
same, the codepage is all that differs.

That nothing else depends on what a reader is told is a fact of the grammar, part by part: a part
of the wide grammar is one of the narrow grammar if its values are short enough, and has a defect
there if one is not; a defect stays a defect, the same one or a sooner one.
-/

namespace PropertyStore

open LittleEndian

/-! ### Another codepage -/

/-- The same record for a reader with another codepage. -/
def Record.stamped (codepage : Codepage) (r : Record) : Record := { r with codepage }

/-- The same set for a reader with another codepage. -/
def PropertySet.stamped (codepage : Codepage) (s : PropertySet) : PropertySet :=
  { s with records := s.records.map (Record.stamped codepage) }

/-- The same store for a reader with another codepage. -/
def Store.stamped (codepage : Codepage) (s : Store) : Store :=
  { s with sets := s.sets.map (PropertySet.stamped codepage) }

/-! ### Values that are too long -/

/-- The value of the record is no longer than `limit` bytes. -/
def Record.Within (limit : Nat) (r : Record) : Prop := r.data.length ≤ limit

/-- No value of the set is longer than `limit` bytes. -/
def PropertySet.Within (limit : Nat) (s : PropertySet) : Prop := ∀ r ∈ s.records, r.Within limit

/-- No value of the store is longer than `limit` bytes. -/
def Store.Within (limit : Nat) (s : Store) : Prop := ∀ set ∈ s.sets, set.Within limit

instance (limit : Nat) (r : Record) : Decidable (r.Within limit) :=
  inferInstanceAs (Decidable (r.data.length ≤ limit))

instance (limit : Nat) (s : PropertySet) : Decidable (s.Within limit) :=
  inferInstanceAs (Decidable (∀ r ∈ s.records, r.Within limit))

instance (limit : Nat) (s : Store) : Decidable (s.Within limit) :=
  inferInstanceAs (Decidable (∀ set ∈ s.sets, set.Within limit))

/-- The first record with a value of more than `limit` bytes. -/
def Record.firstLonger? (limit : Nat) (records : List Record) : Option Record :=
  records.find? fun r => limit < r.data.length

/-- The first record of a store, set by set, with a value of more than `limit` bytes. -/
def Store.firstLonger? (limit : Nat) (s : Store) : Option Record :=
  Record.firstLonger? limit (s.sets.flatMap PropertySet.records)

variable {limit : Nat}

theorem Record.firstLonger?_eq_none {records : List Record}
    (h : ∀ r ∈ records, r.Within limit) : firstLonger? limit records = none := by
  refine List.find?_eq_none.mpr fun r hr => ?_
  simpa [Within] using h r hr

theorem Record.longer_of_firstLonger? {records : List Record} {r : Record}
    (first : firstLonger? limit records = some r) : limit < r.data.length := by
  simpa using List.find?_some first

theorem PropertySet.within_flatMap {sets : List PropertySet} (h : ∀ s ∈ sets, s.Within limit) :
    ∀ r ∈ sets.flatMap records, r.Within limit := by
  intro r hr
  obtain ⟨s, hs, hrs⟩ := List.mem_flatMap.mp hr
  exact h s hs r hrs

/-- Records that are within the limit may come before the first that is not. -/
theorem Record.firstLonger?_append {before records : List Record} {r : Record}
    (h : ∀ r ∈ before, r.Within limit) (first : firstLonger? limit records = some r)
    (after : List Record) : firstLonger? limit (before ++ (records ++ after)) = some r := by
  have none : before.find? (fun r => limit < r.data.length) = none := firstLonger?_eq_none h
  have found : records.find? (fun r => limit < r.data.length) = some r := first
  rw [firstLonger?, List.find?_append, none, Option.none_or, List.find?_append, found,
    Option.some_or]

/-! ### Failures, and where they are found -/

namespace DecodeError

/-- The failure is found at `start` or later. -/
def From (start : Nat) (e : DecodeError) : Prop :=
  ∃ offset, e.offset? = some offset ∧ start ≤ offset

theorem From.mono {start later : Nat} {e : DecodeError} (h : e.From later) (le : start ≤ later) :
    e.From start := by
  obtain ⟨offset, found, hle⟩ := h
  exact ⟨offset, found, Nat.le_trans le hle⟩

/-- What a narrow reader fails with where the wide one fails with `e`: with the same, or no later
for a value that is too long for the narrow one alone. -/
inductive Sooner (narrow wide : Nat) (e : DecodeError) : DecodeError → Prop where
  /-- The failure is the same. -/
  | same : Sooner narrow wide e e
  /-- A value is too long. -/
  | tooLarge {offset size : Nat} (less : narrow < wide) (found : e.From offset) :
    Sooner narrow wide e (.valueTooLarge offset size narrow)

/-- What is sooner than a failure where both allow the same is that failure. -/
theorem Sooner.eq {e e' : DecodeError} (h : e.Sooner limit limit e') : e' = e := by
  cases h with
  | same => rfl
  | tooLarge less _ => exact absurd less (Nat.lt_irrefl _)

end DecodeError

variable {layout : RecordLayout} {options wide narrow : DecodeOptions} {start : Nat}
  {bs rest : List UInt8} {r : Record} {s : PropertySet} {e : DecodeError}

theorem RecordDefect.from_start (defect : RecordDefect layout options start bs e) :
    e.From start := by
  cases defect with
  | short => exact ⟨_, rfl, Nat.le_add_right _ _⟩
  | unknown => exact ⟨_, rfl, Nat.le_add_right _ _⟩
  | large => exact ⟨_, rfl, Nat.le_add_right _ _⟩

theorem ChainDefect.from_start (defect : ChainDefect layout options start bs e) :
    e.From start := by
  cases defect with
  | short => exact ⟨_, rfl, Nat.le_refl _⟩
  | large => exact ⟨_, rfl, Nat.le_refl _⟩
  | record _ _ _ defect => exact defect.from_start

theorem BodyDefect.from_start (defect : BodyDefect options start bs e) : e.From start := by
  cases defect with
  | signature => exact ⟨_, rfl, Nat.le_add_right _ _⟩
  | chain _ _ defect => exact defect.from_start.mono (by omega)

theorem SetDefect.from_start (defect : SetDefect options start bs e) : e.From start := by
  cases defect with
  | missing => exact ⟨_, rfl, Nat.le_refl _⟩
  | small => exact ⟨_, rfl, Nat.le_refl _⟩
  | short => exact ⟨_, rfl, Nat.le_refl _⟩
  | body _ _ defect _ => exact defect.from_start

theorem StoreDefect.from_start {first : Bool} (defect : StoreDefect options first start bs e) :
    e.From start := by
  cases defect with
  | fragment => exact ⟨_, rfl, Nat.le_refl _⟩
  | set _ defect => exact defect.from_start

/-! ### Records -/

theorem HasFields.small (h : HasFields layout options bs r) : r.Within options.maxValueSize := by
  obtain ⟨-, -, small, -⟩ := h
  exact small

/-- The fields of a record are the same for the narrow reader, if its value is short enough. -/
theorem HasFields.narrowed (h : HasFields layout wide bs r) (within : r.Within narrow.maxValueSize) :
    HasFields layout narrow bs (r.stamped narrow.codepage) := by
  obtain ⟨isOpening, isCount, -, slack⟩ := h
  exact HasFields.mk isOpening isCount within slack

/-- A value that is too long is reported from within its record. -/
theorem HasFields.tooLarge (start : Nat) (h : HasFields layout wide bs r)
    (long : ¬ r.Within narrow.maxValueSize) :
    ∃ offset ≤ start + bs.length, RecordDefect layout narrow start bs
      (.valueTooLarge offset r.data.length narrow.maxValueSize) := by
  obtain @⟨opening, count, data, _, _, _, isOpening, isCount, -, slack⟩ := h
  refine ⟨start + opening.length, ?_, ?_⟩
  · simp only [List.length_append]
    omega
  · rw [List.append_assoc]
    exact RecordDefect.large isOpening isCount (Nat.lt_of_not_le long) (data ++ slack)

/-- What is wrong with a record is wrong for the narrow reader, unless a value that is too long is
met before it is missed. -/
theorem RecordDefect.narrowed (le : narrow.maxValueSize ≤ wide.maxValueSize)
    (defect : RecordDefect layout wide start bs e) :
    ∃ e', e.Sooner narrow.maxValueSize wide.maxValueSize e' ∧
      RecordDefect layout narrow start bs e' := by
  cases defect with
  | @short _ rest n needs less =>
    cases needs with
    | size => exact ⟨_, .same, RecordDefect.short .size less⟩
    | key size => exact ⟨_, .same, RecordDefect.short (.key size) less⟩
    | reserved size field => exact ⟨_, .same, RecordDefect.short (.reserved size field) less⟩
    | name size field reserved named =>
      exact ⟨_, .same, RecordDefect.short (.name size field reserved named) less⟩
    | code isHead => exact ⟨_, .same, RecordDefect.short (.code isHead) less⟩
    | padding isHead code => exact ⟨_, .same, RecordDefect.short (.padding isHead code) less⟩
    | count isOpening counted =>
      exact ⟨_, .same, RecordDefect.short (.count isOpening counted) less⟩
    | value isOpening isCount small =>
      -- The wide reader misses the value; the narrow one may refuse its length first.
      by_cases fits : n ≤ narrow.maxValueSize
      · exact ⟨_, .same, RecordDefect.short (.value isOpening isCount fits) less⟩
      · have long : narrow.maxValueSize < n := Nat.lt_of_not_le fits
        refine ⟨_, .tooLarge (Nat.lt_of_lt_of_le long small) ?_,
          RecordDefect.large isOpening isCount long rest⟩
        exact ⟨_, rfl, by rw [List.length_append]; omega⟩
  | unknown isHead two none rest => exact ⟨_, .same, RecordDefect.unknown isHead two none rest⟩
  | large isOpening isCount more rest =>
    obtain equal | less := Nat.eq_or_lt_of_le le
    · rw [← equal] at more ⊢
      exact ⟨_, .same, RecordDefect.large isOpening isCount more rest⟩
    · exact ⟨_, .tooLarge less ⟨_, rfl, Nat.le_refl _⟩,
        RecordDefect.large isOpening isCount (Nat.lt_trans less more) rest⟩

/-! ### Chains of records -/

/-- The chain breaks off with the failure `e` somewhere along the bytes. -/
def ChainFails (layout : RecordLayout) (options : DecodeOptions) (start : Nat) (bs : List UInt8)
    (e : DecodeError) : Prop :=
  ∃ front back records, bs = front ++ back ∧ Run (IsRecord layout options) front records ∧
    ChainDefect layout options (start + front.length) back e

theorem IsRecord.narrowed (h : IsRecord layout wide bs r) (within : r.Within narrow.maxValueSize) :
    IsRecord layout narrow bs (r.stamped narrow.codepage) :=
  ⟨h.hasFields.narrowed within, h.length_eq⟩

/-- The chain breaks off at a record whose value is too long. -/
theorem IsRecord.tooLarge (start : Nat) (rest : List UInt8) (h : IsRecord layout wide bs r)
    (long : ¬ r.Within narrow.maxValueSize) :
    ∃ offset ≤ start + bs.length, ChainDefect layout narrow start (bs ++ rest)
      (.valueTooLarge offset r.data.length narrow.maxValueSize) := by
  obtain ⟨offset, le, defect⟩ := h.hasFields.tooLarge start long
  obtain ⟨pos, more, hbs⟩ := h.starts
  have starts : word32 r.size <+: bs ++ rest := ⟨more ++ rest, by rw [hbs, List.append_assoc]⟩
  exact ⟨offset, le, ChainDefect.record starts pos h.length_eq defect⟩

theorem ChainDefect.narrowed (le : narrow.maxValueSize ≤ wide.maxValueSize)
    (defect : ChainDefect layout wide start bs e) :
    ∃ e', e.Sooner narrow.maxValueSize wide.maxValueSize e' ∧
      ChainDefect layout narrow start bs e' := by
  cases defect with
  | short pos less => exact ⟨_, .same, ChainDefect.short pos less⟩
  | large less => exact ⟨_, .same, ChainDefect.large less⟩
  | record starts pos length_eq defect =>
    obtain ⟨e', sooner, defect'⟩ := defect.narrowed le
    exact ⟨e', sooner, ChainDefect.record starts pos length_eq defect'⟩

/-- Records are the same for the narrow reader, or its chain breaks off at the first of them with
a value that is too long. -/
theorem Run.narrowed_records (narrow : DecodeOptions) {chain : List UInt8} {records : List Record}
    (run : Run (IsRecord layout wide) chain records) :
    (∀ r ∈ records, r.Within narrow.maxValueSize) ∧
        Run (IsRecord layout narrow) chain (records.map (Record.stamped narrow.codepage)) ∨
      ∃ r, Record.firstLonger? narrow.maxValueSize records = some r ∧
        r.Within wide.maxValueSize ∧ ∀ start rest, ∃ offset ≤ start + chain.length,
          ChainFails layout narrow start (chain ++ rest)
            (.valueTooLarge offset r.data.length narrow.maxValueSize) := by
  obtain kept | ⟨front, part, back, before, r, after, rfl, rfl, within, kept, record, long⟩ :=
    run.all_or_first fun _ _ record (within : Record.Within narrow.maxValueSize _) =>
      record.narrowed within
  · exact Or.inl kept
  · have first : Record.firstLonger? narrow.maxValueSize [r] = some r := by
      simpa [Record.firstLonger?, Record.Within] using long
    refine Or.inr ⟨r, Record.firstLonger?_append within first after, record.hasFields.small,
      fun start rest => ?_⟩
    obtain ⟨offset, le, defect⟩ :=
      record.tooLarge (start + front.length) (back ++ rest) long
    refine ⟨offset, ?_, front, part ++ (back ++ rest), _, ?_, kept, defect⟩
    · simp only [List.length_append]
      omega
    · simp only [List.append_assoc]

/-! ### Sets -/

/-- The set is the same for the narrow reader, or it has a value that is too long, and that is what
is wrong with it. -/
theorem IsSet.narrowed_or_tooLarge (narrow : DecodeOptions) (h : IsSet wide bs s) :
    s.Within narrow.maxValueSize ∧ IsSet narrow bs (s.stamped narrow.codepage) ∨
      ∃ r, Record.firstLonger? narrow.maxValueSize s.records = some r ∧
        r.Within wide.maxValueSize ∧ ∀ start rest, ∃ offset ≤ start + bs.length,
          SetDefect narrow start (bs ++ rest)
            (.valueTooLarge offset r.data.length narrow.maxValueSize) := by
  have header := h.header_le
  obtain ⟨@⟨identifier, layout, chain, tail, records, trailing, isLayout, run, isTail⟩,
    length_eq⟩ := h
  obtain ⟨within, kept⟩ | ⟨r, first, small, fails⟩ := run.narrowed_records narrow
  · exact Or.inl ⟨within, IsSet.mk (IsBody.mk isLayout kept isTail) length_eq⟩
  · refine Or.inr ⟨r, first, small, fun start rest => ?_⟩
    obtain ⟨offset, le, front, back, records', hchain, run', defect⟩ := fails (start + 24) tail
    refine ⟨offset, ?_, ?_⟩
    · simp only [List.length_append, length_word32, Signature.length_bytes,
        identifier.length_bytes]
      omega
    · rw [length_eq] at header
      rw [hchain] at length_eq ⊢
      exact SetDefect.body header length_eq (BodyDefect.chain isLayout run' defect) rest

/-- What is wrong with a body is wrong for the narrow reader, unless a value that is too long comes
before it. -/
theorem BodyDefect.narrowed (le : narrow.maxValueSize ≤ wide.maxValueSize)
    (defect : BodyDefect wide start bs e) :
    ∃ e', e.Sooner narrow.maxValueSize wide.maxValueSize e' ∧ BodyDefect narrow start bs e' := by
  cases defect with
  | signature four unknown rest => exact ⟨_, .same, BodyDefect.signature four unknown rest⟩
  | @chain identifier layout front rest records _ isLayout run defect =>
    obtain ⟨-, kept⟩ | ⟨r, first, small, fails⟩ := run.narrowed_records narrow
    · obtain ⟨e', sooner, defect'⟩ := defect.narrowed le
      exact ⟨e', sooner, BodyDefect.chain isLayout kept defect'⟩
    · obtain ⟨offset, before, front', back, records', hchain, run', defect'⟩ :=
        fails (start + 24) rest
      have long := Record.longer_of_firstLonger? first
      rw [hchain]
      exact ⟨_, .tooLarge (Nat.lt_of_lt_of_le long small) (defect.from_start.mono before),
        BodyDefect.chain isLayout run' defect'⟩

theorem SetDefect.narrowed (le : narrow.maxValueSize ≤ wide.maxValueSize)
    (defect : SetDefect wide start bs e) :
    ∃ e', e.Sooner narrow.maxValueSize wide.maxValueSize e' ∧ SetDefect narrow start bs e' := by
  cases defect with
  | missing less => exact ⟨_, .same, SetDefect.missing less⟩
  | small rest less => exact ⟨_, .same, SetDefect.small rest less⟩
  | short header less => exact ⟨_, .same, SetDefect.short header less⟩
  | body header length_eq defect rest =>
    obtain ⟨e', sooner, defect'⟩ := defect.narrowed le
    exact ⟨e', sooner, SetDefect.body header length_eq defect' rest⟩

theorem StoreDefect.narrowed {first : Bool} (le : narrow.maxValueSize ≤ wide.maxValueSize)
    (defect : StoreDefect wide first start bs e) :
    ∃ e', e.Sooner narrow.maxValueSize wide.maxValueSize e' ∧
      StoreDefect narrow first start bs e' := by
  cases defect with
  | fragment pos less => exact ⟨_, .same, StoreDefect.fragment pos less⟩
  | set pos defect =>
    obtain ⟨e', sooner, defect'⟩ := defect.narrowed le
    exact ⟨e', sooner, StoreDefect.set pos defect'⟩

/-! ### Stores -/

namespace Store

/-- What a narrow reader makes of bytes of which a wide one makes the first outcome. -/
inductive Narrowed (narrow wide : DecodeOptions) :
    Except DecodeError Store → Except DecodeError Store → Prop where
  /-- A store without values that are too long is the same. -/
  | same {store : Store} (within : store.Within narrow.maxValueSize) :
    Narrowed narrow wide (.ok store) (.ok (store.stamped narrow.codepage))
  /-- A store with a value that is too long is refused for the first one. -/
  | tooLarge {store : Store} {r : Record} {offset : Nat}
    (first : store.firstLonger? narrow.maxValueSize = some r)
    (small : r.Within wide.maxValueSize) :
    Narrowed narrow wide (.ok store)
      (.error (.valueTooLarge offset r.data.length narrow.maxValueSize))
  /-- A failure is the same, or there is a sooner one. -/
  | failure {e e' : DecodeError} (sooner : e.Sooner narrow.maxValueSize wide.maxValueSize e') :
    Narrowed narrow wide (.error e) (.error e')

variable {input : Array UInt8} {front : List UInt8} {sets : List PropertySet}

/-- Sets are the same for the narrow reader, or it fails at the first value of theirs that is too
long. -/
theorem narrowed_sets (narrow : DecodeOptions) (run : Run (IsSet wide) front sets)
    (hinput : front ++ rest = input.toList) :
    (∀ s ∈ sets, s.Within narrow.maxValueSize) ∧
        Run (IsSet narrow) front (sets.map (PropertySet.stamped narrow.codepage)) ∨
      ∃ r, Record.firstLonger? narrow.maxValueSize (sets.flatMap PropertySet.records) = some r ∧
        r.Within wide.maxValueSize ∧ ∃ offset ≤ front.length, decode narrow input =
          .error (.valueTooLarge offset r.data.length narrow.maxValueSize) := by
  -- A part is a set of the wide grammar; it is good if the narrow reader takes its values.
  have keep : ∀ bs s, IsSet wide bs s → s.Within narrow.maxValueSize →
      IsSet narrow bs (s.stamped narrow.codepage) := by
    intro bs s isSet within
    obtain ⟨-, kept⟩ | ⟨r, first, -, -⟩ := isSet.narrowed_or_tooLarge narrow
    · exact kept
    · rw [Record.firstLonger?_eq_none within] at first
      cases first
  obtain kept | ⟨front', part, back, before, s, after, rfl, rfl, within, kept, isSet, long⟩ :=
    run.all_or_first keep
  · exact Or.inl kept
  · obtain ⟨within', -⟩ | ⟨r, first, small, fails⟩ :=
      isSet.narrowed_or_tooLarge narrow
    · exact absurd within' long
    · obtain ⟨offset, le, defect⟩ := fails front'.length (back ++ rest)
      obtain ⟨pos, body, hpart⟩ := isSet.starts
      refine Or.inr ⟨r, ?_, small, offset, ?_, ?_⟩
      · rw [List.flatMap_append, List.flatMap_cons]
        exact Record.firstLonger?_append (PropertySet.within_flatMap within) first _
      · simp only [List.length_append]
        omega
      · rw [hpart, List.append_assoc] at defect
        refine decode_of_storeDefect kept (StoreDefect.set pos defect) ?_
        rw [← List.append_assoc (word32 s.size), ← hpart, ← hinput]
        simp only [List.append_assoc]

/-- **The two readers go in step.** -/
theorem narrowed_decode (le : narrow.maxValueSize ≤ wide.maxValueSize) (input : Array UInt8) :
    Narrowed narrow wide (decode wide input) (decode narrow input) := by
  obtain ⟨front, rest, sets, hinput, run, isEnd | ⟨e, defect⟩⟩ :=
    sets_then_end_or_defect wide input.toList
  · rw [decode_of_isEnd run isEnd hinput]
    obtain ⟨within, kept⟩ | ⟨r, first, small, offset, -, fails⟩ :=
      narrowed_sets narrow run hinput
    · have isEnd' : IsEnd (sets.map (PropertySet.stamped narrow.codepage)).isEmpty rest := by
        rwa [List.isEmpty_map]
      rw [decode_of_isEnd kept isEnd' hinput]
      exact Narrowed.same within
    · rw [fails]
      exact Narrowed.tooLarge first small
  · rw [decode_of_storeDefect run defect hinput]
    obtain ⟨within, kept⟩ | ⟨r, first, small, offset, before, fails⟩ :=
      narrowed_sets narrow run hinput
    · obtain ⟨e', sooner, defect'⟩ := defect.narrowed le
      rw [← List.isEmpty_map (f := PropertySet.stamped narrow.codepage)] at defect'
      rw [decode_of_storeDefect kept defect' hinput]
      exact Narrowed.failure sooner
    · have long := Record.longer_of_firstLonger? first
      rw [fails]
      exact Narrowed.failure
        (.tooLarge (Nat.lt_of_lt_of_le long small) (defect.from_start.mono before))

namespace Narrowed

variable {outcome outcome' : Except DecodeError Store} {store : Store}

/-- The narrow reader reads a store just if the wide one does and no value is too long. -/
theorem ok_iff (h : Narrowed narrow wide outcome outcome') (store : Store) :
    outcome' = .ok store ↔ ∃ whole, outcome = .ok whole ∧ whole.Within narrow.maxValueSize ∧
      store = whole.stamped narrow.codepage := by
  cases h with
  | @same whole within =>
    constructor
    · intro read
      cases read
      exact ⟨whole, rfl, within, rfl⟩
    · rintro ⟨whole, read, -, rfl⟩
      cases read
      rfl
  | @tooLarge whole r offset first small =>
    refine ⟨nofun, ?_⟩
    rintro ⟨whole, read, within, -⟩
    cases read
    rw [firstLonger?, Record.firstLonger?_eq_none (PropertySet.within_flatMap within)] at first
    cases first
  | failure => exact ⟨nofun, nofun⟩

/-- A store with a value that is too long is refused for the first one. -/
theorem refused (h : Narrowed narrow wide outcome outcome') (read : outcome = .ok store)
    (long : ¬ store.Within narrow.maxValueSize) :
    ∃ r offset, store.firstLonger? narrow.maxValueSize = some r ∧
      outcome' = .error (.valueTooLarge offset r.data.length narrow.maxValueSize) := by
  cases h with
  | same within =>
    cases read
    exact absurd within long
  | tooLarge first small =>
    cases read
    exact ⟨_, _, first, rfl⟩
  | failure => cases read

/-- Where the wide reader fails, the narrow one fails no later. -/
theorem failed (h : Narrowed narrow wide outcome outcome') (fails : outcome = .error e) :
    outcome' = .error e ∨ ∃ offset size found,
      outcome' = .error (.valueTooLarge offset size narrow.maxValueSize) ∧
        e.offset? = some found ∧ offset ≤ found := by
  cases h with
  | same => cases fails
  | tooLarge => cases fails
  | failure sooner =>
    cases fails
    cases sooner with
    | same => exact Or.inl rfl
    | tooLarge _ found =>
      obtain ⟨later, hlater, before⟩ := found
      exact Or.inr ⟨_, _, later, rfl, hlater, before⟩

/-- Readers that allow the same differ in the codepage alone. -/
theorem eq_map (h : Narrowed narrow wide outcome outcome')
    (equal : narrow.maxValueSize = wide.maxValueSize) :
    outcome' = outcome.map (stamped narrow.codepage) := by
  cases h with
  | same => rfl
  | tooLarge first small =>
    have long := Record.longer_of_firstLonger? first
    rw [equal] at long
    exact absurd small (Nat.not_le.mpr long)
  | failure sooner =>
    rw [equal] at sooner
    rw [sooner.eq]
    rfl

end Narrowed

/-- **A codepage and a limit do nothing but what they say.** Of two readers the narrow one reads a
store if and only if the wide one does and no value is too long, and it is the same store but for
the codepage of its records. If a value is too long, the first that is so is refused. Where the
wide reader fails, the narrow one fails in the same way, or for a value that is too long, and no
later. If both allow the same, the codepage is all the difference. -/
theorem decode_narrower {narrow wide : DecodeOptions}
    (le : narrow.maxValueSize ≤ wide.maxValueSize) (input : Array UInt8) :
    (∀ store, decode narrow input = .ok store ↔
      ∃ whole, decode wide input = .ok whole ∧ whole.Within narrow.maxValueSize ∧
        store = whole.stamped narrow.codepage) ∧
    (∀ whole, decode wide input = .ok whole → ¬ whole.Within narrow.maxValueSize →
      ∃ r offset, whole.firstLonger? narrow.maxValueSize = some r ∧
        decode narrow input =
          .error (.valueTooLarge offset r.data.length narrow.maxValueSize)) ∧
    (∀ e, decode wide input = .error e →
      decode narrow input = .error e ∨ ∃ offset size found,
        decode narrow input = .error (.valueTooLarge offset size narrow.maxValueSize) ∧
          e.offset? = some found ∧ offset ≤ found) ∧
    (narrow.maxValueSize = wide.maxValueSize →
      decode narrow input = (decode wide input).map (stamped narrow.codepage)) := by
  have inStep := narrowed_decode le input
  exact ⟨inStep.ok_iff, fun _ => inStep.refused, fun _ => inStep.failed, inStep.eq_map⟩

/-- A store whose one value has two bytes is refused by a reader that allows one byte. -/
theorem decode_narrower_worn :
    1 ≤ ({} : DecodeOptions).maxValueSize ∧
      decode {} (worn 7) = .ok ⟨[.worn .windows1252], 58⟩ ∧
      ∃ offset, decode ⟨.utf8, 1⟩ (worn 7) = .error (.valueTooLarge offset 2 1) := by
  have le : (DecodeOptions.mk .utf8 1).maxValueSize ≤ ({} : DecodeOptions).maxValueSize := by
    decide
  have hok : decode {} (worn 7) = .ok ⟨[.worn .windows1252], 58⟩ := decode_worn (by decide) 7
  have long : ¬ Store.Within 1 ⟨[.worn .windows1252], 58⟩ := by decide
  obtain ⟨r, offset, first, refused⟩ := (decode_narrower le (worn 7)).2.1 _ hok long
  cases first
  exact ⟨le, hok, offset, refused⟩

end Store

end PropertyStore
