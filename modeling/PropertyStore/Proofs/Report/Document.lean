import PropertyStore.Proofs.Decode.Limit
import PropertyStore.Proofs.Guid
import PropertyStore.Proofs.Json.Print
import PropertyStore.Report

/-!
# A document loses nothing

The document of a store, printed with the bytes of the values, is a JSON text that stands for one
object, with the length of the store and a list of the objects of its sets; and the document of one
set is the same object with that set's alone. From these objects the store is known but for the
codepages of its records, which no document has (`report_document`). It is known field by field: a
number, a string and what there may be none of, each from the member that shows it, and identifiers
and bytes from their text.
-/

namespace PropertyStore

open Text

namespace Report

variable {i i' : Nat} {r r' : Record} {s s' : PropertySet}

/-! ### Records and sets are known by their objects -/

/-- What may be missing is known by its document, if a thing that is there is known by its own, and
has another than nothing has. -/
theorem ofOption_inj {α : Type} {f : α → Json} (inj : ∀ a b, f a = f b → a = b)
    (notNull : ∀ a, f a ≠ .null) {a b : Option α} (h : Json.ofOption f a = Json.ofOption f b) :
    a = b := by
  cases a with
  | none =>
    cases b with
    | none => rfl
    | some b => exact absurd h.symm (notNull b)
  | some a =>
    cases b with
    | none => exact absurd h (notNull a)
    | some b => exact congrArg some (inj a b h)

/-- A key is known by the number or the name in it. -/
theorem key_inj (number : r.entryType? = r'.entryType?) (name : r.entryName? = r'.entryName?) :
    r.key = r'.key := by
  unfold Record.entryType? at number
  unfold Record.entryName? at name
  cases hk : r.key <;> cases hk' : r'.key <;> simp_all

/-- A record is known by its object, but for its codepage. -/
theorem recordObject_inj (h : recordObject true s i r = recordObject true s' i' r')
    (codepage : Codepage) : r.stamped codepage = r'.stamped codepage := by
  simp only [recordObject, if_true, List.cons_append, List.nil_append, Json.object.injEq,
    List.cons.injEq, Prod.mk.injEq, Json.string.injEq, Json.number.injEq, true_and, and_true] at h
  -- The place, the name of the property and the value in writing tell nothing that is not told.
  obtain ⟨data, name, number, -, -, size, -, -, code⟩ := h
  have name := ofOption_inj (fun _ _ => Json.string.inj) nofun name
  have number := ofOption_inj
    (fun _ _ same => UInt32.toNat_inj.mp (Json.number.inj same)) nofun number
  have valueType := ValueType.code_inj (UInt16.toNat_inj.mp code)
  rw [Record.stamped, Record.stamped, UInt32.toNat_inj.mp size, key_inj number name, valueType,
    Hex.encode_inj data]

/-- What is shown of things in a row, each with its place, tells of them all what it tells of
each. -/
theorem map_eq_of_zipIdx {α β γ : Type} {f f' : α × Nat → β} {g : α → γ}
    (tells : ∀ a i a' i', f (a, i) = f' (a', i') → g a = g a') {as as' : List α} {start : Nat}
    (h : (as.zipIdx start).map f = (as'.zipIdx start).map f') : as.map g = as'.map g := by
  induction as generalizing as' start with
  | nil =>
    cases as' with
    | nil => rfl
    | cons a' as' => cases h
  | cons a as ih =>
    cases as' with
    | nil => cases h
    | cons a' as' =>
      obtain ⟨first, later⟩ := List.cons.inj h
      rw [List.map_cons, List.map_cons, tells _ _ _ _ first, ih later]

/-- A set is known by its object, but for the codepages of its records. -/
theorem setObject_inj (h : setObject true i s = setObject true i' s') (codepage : Codepage) :
    s.stamped codepage = s'.stamped codepage := by
  simp only [setObject, Json.object.injEq, List.cons.injEq, Prod.mk.injEq, Json.string.injEq,
    Json.number.injEq, Json.list.injEq, true_and, and_true] at h
  obtain ⟨-, identifier, -, records, size, trailing⟩ := h
  -- There is one signature, so its text has nothing to tell.
  have signature : s.signature = s'.signature := by
    cases s.signature
    cases s'.signature
    rfl
  have records := map_eq_of_zipIdx (fun _ _ _ _ same => recordObject_inj same codepage) records
  rw [PropertySet.stamped, PropertySet.stamped, UInt32.toNat_inj.mp size, signature,
    Guid.text_inj identifier, records, trailing]

/-! ### Stores are known by their documents -/

/-- The options for a document with the bytes of the values, of all sets or of one. -/
def documentOptions (setIndex : Option Nat) : Options where
  form := .document
  setIndex := setIndex
  showHex := true

/-- The object of a store with the objects of some sets. -/
def storeObject (store : Store) (sets : List Json) : Json :=
  .object [("sets", .list sets), ("source_len", .number store.sourceLength)]

/-- The objects of the sets of a store. -/
def setObjects (store : Store) : List Json :=
  store.sets.zipIdx.map fun s => setObject true s.2 s.1

/-- A store is known by its object with those of all its sets, but for the codepages of its
records. -/
theorem storeObject_inj {store store' : Store}
    (h : storeObject store (setObjects store) = storeObject store' (setObjects store'))
    (codepage : Codepage) : store.stamped codepage = store'.stamped codepage := by
  simp only [storeObject, setObjects, Json.object.injEq, List.cons.injEq, Prod.mk.injEq,
    Json.number.injEq, Json.list.injEq, true_and, and_true] at h
  obtain ⟨sets, sourceLength⟩ := h
  have sets := map_eq_of_zipIdx (fun _ _ _ _ same => setObject_inj same codepage) sets
  rw [Store.stamped, Store.stamped, sets, sourceLength]

/-! ### What is reported -/

variable {store : Store}

/-- A document has the objects of the sets that are selected. -/
theorem report_of_select {setIndex : Option Nat} {sets : List (Nat × PropertySet)}
    (h : select store setIndex = .ok sets) :
    store.report (documentOptions setIndex) =
      .ok (storeObject store (sets.map fun s => setObject true s.1 s.2)).pretty := by
  rw [Store.report, documentOptions, h]
  rfl

theorem report_all (notEmpty : store.isEmpty = false) :
    store.report (documentOptions none) = .ok (storeObject store (setObjects store)).pretty := by
  have all : select store none = .ok (store.sets.zipIdx.map Prod.swap) := by
    rw [select, notEmpty]
    rfl
  rw [report_of_select all, List.map_map]
  rfl

/-- There is an object for each set, which tells its place. -/
theorem exists_setObjects_getElem {i : Nat} (h : i < (setObjects store).length) :
    ∃ set, store.set i = .ok set ∧ (setObjects store)[i] = setObject true i set := by
  have place : i < store.sets.length := by simpa [setObjects] using h
  exact ⟨store.sets[i], by simp [Store.set, Store.set?, place], by simp [setObjects]⟩

theorem report_one (notEmpty : store.isEmpty = false) {i : Nat}
    (h : i < (setObjects store).length) :
    store.report (documentOptions (some i)) =
      .ok (storeObject store [(setObjects store)[i]]).pretty := by
  obtain ⟨set, found, object⟩ := exists_setObjects_getElem h
  have one : select store (some i) = .ok [(i, set)] := by
    simp [select, notEmpty, found]
  rw [report_of_select one, object]
  rfl

end Report

open Report

/-- **A document loses nothing.** A store with sets has a document, a JSON text that stands for one
object and nothing else; the document of one set stands for the same object with that set's alone,
which tells its place. Stores with the same document are the same but for the codepages of their
records. -/
theorem Store.report_document (store : Store) (notEmpty : store.isEmpty = false) :
    ∃ text items, store.report (documentOptions none) = .ok text ∧
      (∀ j, Json.IsText text j ↔ j = storeObject store items) ∧
      items.length = store.setCount ∧
      (∀ (i : Nat) (h : i < items.length),
        (∃ text', store.report (documentOptions (some i)) = .ok text' ∧
          ∀ j, Json.IsText text' j ↔ j = storeObject store [items[i]]) ∧
        ∃ members, items[i] = .object members ∧ ("index", .number i) ∈ members) ∧
      ∀ store' : Store, store'.isEmpty = false → store'.report (documentOptions none) = .ok text →
        ∀ codepage, store.stamped codepage = store'.stamped codepage := by
  refine ⟨_, setObjects store, report_all notEmpty, fun _ => Json.isText_pretty_iff, ?_, ?_, ?_⟩
  · simp [setObjects, setCount]
  · intro i h
    refine ⟨⟨_, report_one notEmpty h, fun _ => Json.isText_pretty_iff⟩, ?_⟩
    obtain ⟨set, -, object⟩ := exists_setObjects_getElem h
    rw [object]
    exact ⟨_, rfl, by simp⟩
  · intro store' notEmpty' same codepage
    rw [report_all notEmpty', Except.ok.injEq] at same
    exact storeObject_inj (Json.pretty_inj same).symm codepage

/-- A store that nobody has read, with a name of a quote, a backslash, control characters and a
character beyond sixteen bits. -/
def Store.scrawled : Store where
  sets := [{ size := 7, signature := .serializedPropertyStorage, identifier := .zero,
             records := [{ size := 9, key := .named "\"\\\n\x01𝄞", valueType := .blob,
                           data := [0x22, 0x5C], codepage := .utf8 }],
             trailingBytes := 3 }]
  sourceLength := 5

/-- Whatever is in a name, the document stands for the store. -/
theorem Store.report_document_scrawled :
    scrawled.isEmpty = false ∧
      ∃ text items, scrawled.report (documentOptions none) = .ok text ∧
        (∀ j, Json.IsText text j ↔ j = storeObject scrawled items) ∧ items.length = 1 := by
  have notEmpty : scrawled.isEmpty = false := rfl
  obtain ⟨text, items, report, stands, one, -⟩ := report_document scrawled notEmpty
  exact ⟨notEmpty, text, items, report, stands, one⟩

end PropertyStore
