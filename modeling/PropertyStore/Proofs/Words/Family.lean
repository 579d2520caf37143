import Mathlib.Data.List.Forall2
import PropertyStore.Proofs.Cursor.Family
import PropertyStore.Proofs.Words.Cursor

/-!
# Families of cursors in words

A family of cursors in words is asked as one in numbers is, with requests whose numbers have room
in a word. Both families give the same answers, step by step, and their members stand at the same
places. So nothing that a family in words computes has no room, and what is true of the family in
numbers is true of both (`family_accounts`).
-/

namespace PropertyStore

/-- The number of a request has room in a word. -/
def Cursor.Request.FitsWord : Cursor.Request → Prop
  | .take n | .skip n | .seek n | .split n => n < UInt64.size
  | .u8 | .u16 | .u32 | .u64 | .peekU32 | .copy => True

namespace WordCursor

open Cursor (Request Answer)
open Checked

/-- What a request comes to: an answer, the cursor after it, and the cursor that it made. -/
def ask (m : WordCursor) : Request → Checked ReadError (Answer × WordCursor × Option WordCursor)
  | .u8 => (fun (word, after) => (.number word.toNat, after, none)) <$> m.u8
  | .u16 => (fun (word, after) => (.number word.toNat, after, none)) <$> m.u16
  | .u32 => (fun (word, after) => (.number word.toNat, after, none)) <$> m.u32
  | .u64 => (fun (word, after) => (.number word.toNat, after, none)) <$> m.u64
  | .peekU32 => (fun word => (.number word.toNat, m, none)) <$> m.peekU32
  | .take n => (fun (bytes, after) => (.bytes bytes.toList, after, none)) <$> m.take (.ofNat n)
  | .skip n => (fun after => (.done, after, none)) <$> m.skip (.ofNat n)
  | .seek target => (fun after => (.done, after, none)) <$> m.seek (.ofNat target)
  | .split n => (fun (child, after) => (.done, after, some child)) <$> m.split (.ofNat n)
  | .copy => pure (.done, m, some m)

/-- One request answered. -/
structure Reply where
  /-- The answer, or why there is none. -/
  answer : Except ReadError Answer
  /-- The cursor after the request. -/
  cursor : WordCursor
  /-- The cursor that the request made. -/
  child : Option WordCursor

/-- What a cursor replies to a request. -/
def reply (m : WordCursor) (request : Request) : Option Reply :=
  (m.ask request).run.map fun
    | .ok (answer, after, child) => ⟨.ok answer, after, child⟩
    | .error e => ⟨.error e, m, none⟩

/-- One request to member `i` of a family: the reply, and the family after it. -/
def step (family : List WordCursor) (i : Nat) (request : Request) :
    Option (Reply × List WordCursor) := do
  let m ← family[i]?
  let reply ← m.reply request
  return (reply, family.set i reply.cursor ++ reply.child.toList)

/-- The answers to a run of requests, each to one member of a family, and the family after it. -/
def run : List WordCursor → List (Nat × Request) →
    Option (List (Except ReadError Answer) × List WordCursor)
  | family, [] => some ([], family)
  | family, (i, request) :: requests => do
    let (reply, family) ← step family i request
    let (answers, family) ← run family requests
    return (reply.answer :: answers, family)

variable {m : WordCursor} {c : Cursor} {ms : List WordCursor} {cs : List Cursor}
variable {request : Request} {i : Nat}

/-- The same is answered, and what stood at the same place does so again. -/
def Asked (a : Answer × WordCursor × Option WordCursor) (b : Answer × Cursor × Option Cursor) :
    Prop :=
  a.1 = b.1 ∧ a.2.1.Stands b.2.1 ∧ Option.Rel Stands a.2.2 b.2.2

theorem Stands.ask (h : m.Stands c) (fits : request.FitsWord) :
    Agrees Asked (m.ask request) (c.ask request) := by
  have word {n : Nat} (fits : n < UInt64.size) : (UInt64.ofNat n).toNat = n :=
    UInt64.toNat_ofNat_of_lt' fits
  cases request with
  | u8 =>
    exact h.u8.map fun _ _ hab => ⟨congrArg (fun w => Answer.number w.toNat) hab.1, hab.2, .none⟩
  | u16 =>
    exact h.u16.map fun _ _ hab => ⟨congrArg (fun w => Answer.number w.toNat) hab.1, hab.2, .none⟩
  | u32 =>
    exact h.u32.map fun _ _ hab => ⟨congrArg (fun w => Answer.number w.toNat) hab.1, hab.2, .none⟩
  | u64 =>
    exact h.u64.map fun _ _ hab => ⟨congrArg (fun w => Answer.number w.toNat) hab.1, hab.2, .none⟩
  | peekU32 =>
    exact h.peekU32.map fun _ _ hab => ⟨congrArg (fun w => Answer.number w.toNat) hab, h, .none⟩
  | take n =>
    have read := h.take (.ofNat n)
    rw [word fits] at read
    exact read.map fun _ _ hab => ⟨congrArg Answer.bytes hab.1.1, hab.2, .none⟩
  | skip n =>
    have read := h.skip (.ofNat n)
    rw [word fits] at read
    exact read.map fun _ _ hab => ⟨rfl, hab, .none⟩
  | seek target =>
    have read := h.seek (.ofNat target)
    rw [word fits] at read
    exact read.map fun _ _ hab => ⟨rfl, hab, .none⟩
  | split n =>
    have read := h.split (.ofNat n)
    rw [word fits] at read
    exact read.map fun _ _ hab => ⟨rfl, hab.2, .some hab.1⟩
  | copy => exact .ok ⟨rfl, h, .some h⟩

/-- The reply is given, and it is the one that is given in numbers. -/
theorem Stands.reply (h : m.Stands c) (fits : request.FitsWord) :
    ∃ r, m.reply request = some r ∧ r.answer = (c.reply request).answer ∧
      r.cursor.Stands (c.reply request).cursor ∧
      Option.Rel Stands r.child (c.reply request).child := by
  have asked := h.ask fits
  rw [WordCursor.reply, Cursor.reply_eq]
  cases asked_eq : c.ask request with
  | ok b =>
    rw [asked_eq] at asked
    obtain ⟨⟨answer, after, child⟩, eq, same, stands, made⟩ := asked.exists_of_ok
    rw [eq]
    exact ⟨_, rfl, congrArg Except.ok same, stands, made⟩
  | error e =>
    rw [asked_eq] at asked
    rw [asked.eq_throw]
    exact ⟨_, rfl, rfl, h, .none⟩

/-! ### A step and a run -/

section

variable {α β : Type} {R : α → β → Prop} {as : List α} {bs : List β} {a : α} {b : β}

theorem exists_of_forall₂ (h : List.Forall₂ R as bs) (hb : bs[i]? = some b) :
    ∃ a, as[i]? = some a ∧ R a b := by
  induction h generalizing i with
  | nil => cases hb
  | cons hab _ ih =>
    cases i with
    | zero =>
      cases hb
      exact ⟨_, rfl, hab⟩
    | succ i => exact ih hb

theorem forall₂_set (h : List.Forall₂ R as bs) (hab : R a b) (i : Nat) :
    List.Forall₂ R (as.set i a) (bs.set i b) := by
  induction h generalizing i with
  | nil => exact .nil
  | cons head tail ih =>
    cases i with
    | zero => exact .cons hab tail
    | succ i => exact .cons head (ih i)

theorem forall₂_toList {x : Option α} {y : Option β} (h : Option.Rel R x y) :
    List.Forall₂ R x.toList y.toList := by
  cases h with
  | none => exact .nil
  | some hab => exact .cons hab .nil

end

/-- A step in words is taken where one in numbers is. -/
theorem exists_step {reply : Cursor.Reply} {after : List Cursor}
    (h : List.Forall₂ Stands ms cs) (fits : request.FitsWord)
    (hstep : Cursor.step cs i request = some (reply, after)) :
    ∃ r next, step ms i request = some (r, next) ∧ r.answer = reply.answer ∧
      List.Forall₂ Stands next after := by
  obtain ⟨c, hc, rfl, rfl⟩ := Cursor.step_eq_some_iff.mp hstep
  obtain ⟨m, hm, stands⟩ := exists_of_forall₂ h hc
  obtain ⟨r, replied, same, moved, made⟩ := stands.reply fits
  refine ⟨r, _, ?_, same, List.rel_append (forall₂_set h moved i) (forall₂_toList made)⟩
  simp only [step, hm, replied, Option.bind_eq_bind, Option.bind_some, Option.pure_def]

/-- A run in words goes as the one in numbers does. -/
theorem exists_run {requests : List (Nat × Request)} {answers : List (Except ReadError Answer)}
    {after : List Cursor} (h : List.Forall₂ Stands ms cs)
    (fits : ∀ asked ∈ requests, asked.2.FitsWord)
    (hrun : Cursor.run cs requests = some (answers, after)) :
    ∃ words, run ms requests = some (answers, words) ∧ List.Forall₂ Stands words after := by
  induction requests generalizing ms cs answers with
  | nil =>
    cases hrun
    exact ⟨ms, rfl, h⟩
  | cons asked requests ih =>
    obtain ⟨i, request⟩ := asked
    simp only [Cursor.run, Option.bind_eq_bind, Option.bind_eq_some_iff] at hrun
    obtain ⟨⟨reply, next⟩, hstep, ⟨rest, last⟩, hrest, hrun⟩ := hrun
    cases hrun
    obtain ⟨first, others⟩ := List.forall_mem_cons.mp fits
    obtain ⟨r, ms', stepped, same, stands⟩ := exists_step h first hstep
    obtain ⟨words, ran, stands⟩ := ih stands others hrest
    refine ⟨words, ?_, stands⟩
    simp only [run, stepped, ran, same, Option.bind_eq_bind, Option.bind_some, Option.pure_def]

end WordCursor

namespace Cursor

/-- Whatever is asked of a family of cursors on an input, every member stands inside a window of
that input. The next request to any of them is answered from the bytes at its offset or fails and
changes nothing, and no other member is changed. In words, where the offset of the input's end has
room, the run goes the same way. -/
theorem family_accounts {input : Array UInt8} {base : UInt64}
    (room : base.toNat + input.size < UInt64.size) {requests : List (Nat × Request)}
    {answers : List (Except ReadError Answer)} {family : List Cursor}
    (ran : run [ofBytes input base.toNat] requests = some (answers, family)) :
    (∀ c ∈ family, c.Within input base.toNat) ∧
    (∀ i c request, family[i]? = some c →
      ∃ reply after, step family i request = some (reply, after) ∧
        c.Answered input base.toNat request reply ∧
        after[i]? = some reply.cursor ∧
        (∀ j < family.length, j ≠ i → after[j]? = family[j]?) ∧
        after.drop family.length = reply.child.toList) ∧
    ((∀ asked ∈ requests, asked.2.FitsWord) →
      ∃ words, WordCursor.run [.ofBytes input base] requests = some (answers, words) ∧
        List.Forall₂ WordCursor.Stands words family) := by
  have shares : ∀ c ∈ family, c.Shares input base.toNat :=
    shares_run (List.forall_mem_singleton.mpr (shares_ofBytes input base.toNat)) ran
  refine ⟨fun c hc => (shares c hc).within, fun i c request hc => ?_, fun fits => ?_⟩
  · obtain ⟨after, stepped, moved, others, made⟩ := exists_step hc request
    have answered := (shares c (List.mem_of_getElem? hc)).answered request
    exact ⟨_, after, stepped, answered, moved, others, made⟩
  · exact WordCursor.exists_run (.cons (WordCursor.stands_ofBytes room) .nil) fits ran

/-- Windows inside windows, on six bytes that end at the last offset that a word has room for. -/
theorem family_accounts_nested :
    (18446744073709551609 : UInt64).toNat + #[10, 1, 2, 3, 4, 5].size < UInt64.size ∧
    ∃ family, run [ofBytes #[10, 1, 2, 3, 4, 5] (18446744073709551609 : UInt64).toNat]
        [(0, .skip 1), (0, .split 3), (1, .split 2), (2, .u16), (2, .u8),
          (1, .seek 18446744073709551609), (0, .u64)] =
      some ([.ok .done, .ok .done, .ok .done, .ok (.number 513),
        .error (.outOfData 18446744073709551612 1 0),
        .error (.seekOutOfRange 18446744073709551609 18446744073709551613),
        .error (.outOfData 18446744073709551613 8 2)], family) ∧
      ∀ c ∈ family, c.Within #[10, 1, 2, 3, 4, 5] 18446744073709551609 := by
  have room : (18446744073709551609 : UInt64).toNat + #[10, 1, 2, 3, 4, 5].size < UInt64.size := by
    decide
  refine ⟨room, Exists.imp (fun family ran => ⟨ran, (family_accounts room ran).1⟩) ?_⟩
  exact ⟨_, rfl⟩

end Cursor

end PropertyStore
