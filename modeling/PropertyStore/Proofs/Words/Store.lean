import PropertyStore.Proofs.Words.PropertySet
import PropertyStore.Store.Decode

/-!
# Reading stores in words

A store in memory is read in words set by set, like a chain of records. Every set takes at least its
header, and nothing that is computed on the way has no room.
-/

namespace PropertyStore

namespace WordCursor

/-- The sets from a cursor on; `first` says that none came before it. -/
def readSets (options : WordOptions) (first : Bool) (m : WordCursor) :
    Checked DecodeError (List PropertySet) := do
  let remaining ← m.remaining
  if remaining = 0 then
    return []
  else if remaining < 4 ∧ first = false then
    m.logPlace
    return []
  else
    let size ← m.peekU32
    if size = 0 then
      m.logPlace
      return []
    else
      let ⟨(set, after), _⟩ ← MonadAttach.attach (m.readSet options)
      (set :: ·) <$> readSets options false after
termination_by m.left
decreasing_by
  have less := left_of_readSet ‹MonadAttach.CanReturn (m.readSet options) (set, after)›
  rw [PropertySet.headerSize] at less
  omega

end WordCursor

/-- The store that bytes are, read in words. -/
def Store.readInWords (options : WordOptions) (input : Array UInt8) : Checked DecodeError Store :=
  (⟨·, (Word.count input).toNat⟩) <$> (WordCursor.ofBytes input 0).readSets options true

/-- The set that bytes start with, read in words. -/
def PropertySet.readInWords (options : WordOptions) (input : Array UInt8) :
    Checked DecodeError PropertySet :=
  Prod.fst <$> (WordCursor.ofBytes input 0).readSet options

open Checked

namespace WordCursor.Stands

variable {m : WordCursor} {c : Cursor} {first : Bool}

/-- The sets at a cursor that goes on, read step by step. -/
theorem decodeSets_of_goesOn {options : DecodeOptions}
    (goesOn : ¬(c.remaining = 0 ∨ c.remaining < 4 ∧ first = false)) :
    Store.decodeSets options first c = (do
      let size ← c.peekU32
      if size = 0 then
        return []
      else
        let (set, c) ← PropertySet.decode options c
        (Store.decodeSets options false c).map (set :: ·)) := by
  rw [Store.decodeSets, if_neg goesOn]
  cases c.peekU32 with
  | error e => rfl
  | ok size =>
    show (if size = 0 then _ else _) = if size = 0 then _ else _
    congr 1
    cases PropertySet.decode options c <;> rfl

theorem readSets (h : m.Stands c) (options : WordOptions) (first : Bool) :
    Agrees Eq (m.readSets options first) (Store.decodeSets options.inNumbers first c) := by
  induction left : c.remaining using Nat.strongRecOn generalizing m c first with
  | ind n ih =>
    subst left
    obtain ⟨remaining, remaining_eq, hremaining⟩ := h.remaining
    have empty_iff : remaining = 0 ↔ c.remaining = 0 := Word.eq_zero_iff hremaining
    have short_iff : remaining < 4 ↔ c.remaining < 4 := Word.lt_iff hremaining rfl
    rw [WordCursor.readSets]
    simp only [remaining_eq, h.logPlace, liftM_some, pure_bind, empty_iff, short_iff]
    by_cases empty : c.remaining = 0
    · rw [if_pos empty, Store.decodeSets, if_pos (Or.inl empty)]
      exact .ok rfl
    by_cases fragment : c.remaining < 4 ∧ first = false
    · rw [if_neg empty, if_pos fragment, Store.decodeSets, if_pos (Or.inr fragment)]
      exact .ok rfl
    rw [if_neg empty, if_neg fragment, decodeSets_of_goesOn (not_or.mpr ⟨empty, fragment⟩)]
    refine h.peekU32.lift.bind ?_
    rintro size _ rfl
    by_cases zero : size = 0
    · rw [if_pos zero, if_pos zero]
      exact .ok rfl
    rw [if_neg zero, if_neg zero]
    have agrees := h.readSet options
    cases decoded : PropertySet.decode options.inNumbers c with
    | error e =>
      rw [decoded] at agrees
      exact agrees.attach.failed _
    | ok answer =>
      obtain ⟨set, rest⟩ := answer
      have header := PropertySet.remaining_of_decode decoded
      rw [PropertySet.headerSize] at header
      rw [decoded] at agrees
      obtain ⟨⟨given, m⟩, read_eq, same, stands⟩ := agrees.exists_of_ok
      obtain rfl : given = set := same
      rw [attach_of_eq read_eq]
      have others := ih rest.remaining (by omega) stands false rfl
      exact others.map fun _ _ same => congrArg (given :: ·) same

end WordCursor.Stands

variable {input : Array UInt8}

theorem stands_input (room : input.size < UInt64.size) :
    (WordCursor.ofBytes input 0).Stands (.ofBytes input 0) :=
  WordCursor.stands_ofBytes (Nat.lt_of_le_of_lt (Nat.le_of_eq (Nat.zero_add _)) room)

/-- In words a store in memory is read as it is in numbers. -/
theorem Store.agrees_readInWords (options : WordOptions) (room : input.size < UInt64.size) :
    Agrees Eq (readInWords options input) (decode options.inNumbers input) := by
  have size_eq : (Word.count input).toNat = input.size := Word.toNat_count room
  rw [readInWords, size_eq, decode]
  exact ((stands_input room).readSets options true).map
    fun _ _ same => congrArg (Store.mk · input.size) same

/-- So is one set. -/
theorem PropertySet.agrees_readInWords (options : WordOptions) (room : input.size < UInt64.size) :
    Agrees Eq (readInWords options input) (ofBytes options.inNumbers input) :=
  ((stands_input room).readSet options).map fun _ _ gives => gives.1

end PropertyStore
