import PropertyStore.Proofs.Stream.LifeCycle
import PropertyStore.Proofs.Words.Source

/-!
# Streams of sets in words

A stream in words counts what it has passed and what it has given. Neither count has a bound of its
own; but what a stream has passed it has taken from its device, and every set that it has given is
some of that. So both have room where the length of the device's content has.
-/

namespace PropertyStore

/-- A store that is being taken from a device, in words. -/
structure WordStream where
  /-- The device, at the next byte that was not taken. -/
  device : Device
  /-- How the store is to be read. -/
  options : WordOptions
  /-- Whether the stream has ended. -/
  ended : Bool
  /-- The offset at which the next set starts. -/
  offset : UInt64
  /-- How many sets the stream has given. -/
  setsRead : UInt64

namespace WordStream

/-- A stream at the start of its store. -/
def ofDevice (device : Device) (options : WordOptions) : WordStream where
  device := device
  options := options
  ended := false
  offset := 0
  setsRead := 0

/-- The set that bytes are, and the offset past it. -/
def wholeSet (s : WordStream) (bytes : Array UInt8) (size : UInt32) :
    Checked DecodeError (PropertySet × UInt64) := do
  let (set, _) ← (WordCursor.ofBytes bytes s.offset).readSet s.options
  let next ← Word.add s.offset size.toUInt64
  return (set, next)

/-- The rest of a set whose size has been taken, and the offset past the set. -/
def readBody (s : WordStream) (head : List UInt8) (size : UInt32) (device : Device) :
    Option (Except DecodeError (Option (PropertySet × UInt64)) × Device) := do
  let rest ← Word.sub size.toUInt64 4
  match device.fill rest.toNat with
  | (.error e, device) => return (.error (.read e), device)
  | (.ok body, device) =>
    let got := Word.count body.toArray
    if got < rest then
      let available ← Word.add got 4
      return (.error (.read (.outOfData s.offset.toNat size.toNat available.toNat)), device)
    else
      let found ← (s.wholeSet (head ++ body).toArray size).run
      return (found.map some, device)

/-- The next set and the offset past it, if the store goes on. -/
def readSet (s : WordStream) :
    Option (Except DecodeError (Option (PropertySet × UInt64)) × Device) :=
  match s.device.fill 4 with
  | (.error e, device) => return (.error (.read e), device)
  | (.ok head, device) =>
    let got := Word.count head.toArray
    if got = 0 ∨ got < 4 ∧ 0 < s.setsRead then
      return (.ok none, device)
    else if got < 4 then
      return (.error (.read (.outOfData s.offset.toNat 4 got.toNat)), device)
    else do
      let size ← Word.ofFour head.toArray
      if size = 0 then
        return (.ok none, device)
      else if size.toUInt64 < 24 then
        return (.error (.sizeMismatch s.offset.toNat size.toNat 4), device)
      else
        s.readBody head size device

/-- What the stream gives when asked, and the stream after it. -/
def next (s : WordStream) : Option (Option (Except DecodeError PropertySet) × WordStream) := do
  if s.ended then
    return (none, s)
  else
    match ← s.readSet with
    | (.ok (some (set, offset)), device) =>
      let setsRead ← Word.add s.setsRead 1
      return (some (.ok set), { s with device, offset, setsRead })
    | (.ok none, device) => return (none, { s with device, ended := true })
    | (.error e, device) => return (some (.error e), { s with device, ended := true })

/-- What a stream gives, asked `n` times. -/
def results : Nat → WordStream → Option (List (Option (Except DecodeError PropertySet)))
  | 0, _ => some []
  | n + 1, s => do
    let (answer, s) ← s.next
    let others ← results n s
    return answer :: others

end WordStream

/-! ### What a stream has passed -/

namespace Stream

/-- What the stream has passed was taken from its device, there is some of it for every set that was
given, and the length of the content has room in a word. -/
structure Bounded (s : Stream) : Prop where
  size_lt : s.device.content.size < UInt64.size
  offset_le_position : s.offset ≤ s.device.position
  offset_le_size : s.offset ≤ s.device.content.size
  setsRead_le : s.setsRead ≤ s.offset

theorem bounded_ofDevice {d : Device} (room : d.content.size < UInt64.size)
    (options : DecodeOptions) : (ofDevice d options).Bounded :=
  ⟨room, Nat.zero_le _, Nat.zero_le _, Nat.le_refl _⟩

variable {s : Stream} {device : Device} {m : Nat}

/-- What was passed and what is taken next are inside the content. -/
theorem Bounded.add_le (h : s.Bounded) (takes : s.device.Takes device m) :
    s.offset + m ≤ s.device.content.size := by
  have le := takes.le
  have := h.offset_le_position
  have := h.offset_le_size
  rw [Device.length_undelivered] at le
  omega

/-- A request leaves the stream so. -/
theorem Bounded.next (h : s.Bounded) : s.next.2.Bounded := by
  cases hended : s.ended with
  | true => rwa [next_of_ended hended]
  | false =>
    obtain ⟨m, takes, costs⟩ := s.readSet_costs
    cases hread : s.readSet with
    | mk answer device =>
      rw [hread] at takes costs
      dsimp only at takes costs
      have position_eq := takes.moves.position_eq
      have content_eq := congrArg Array.size takes.moves.content_eq
      have inside := h.add_le takes
      obtain ⟨room, passed, within, given⟩ := h
      cases costs with
      | set header =>
        rw [PropertySet.headerSize] at header
        rw [next_of_some hended hread]
        constructor <;> dsimp only <;> omega
      | nothing =>
        rw [next_of_none hended hread]
        constructor <;> dsimp only <;> omega
      | failure e =>
        rw [next_of_error hended hread]
        constructor <;> dsimp only <;> omega

end Stream

/-! ### Streams agree -/

open Checked

namespace WordStream

/-- The stream in words stands where the one in numbers does. -/
structure Follows (w : WordStream) (s : Stream) : Prop where
  device_eq : s.device = w.device
  options_eq : s.options = w.options.inNumbers
  ended_eq : s.ended = w.ended
  offset_eq : s.offset = w.offset.toNat
  setsRead_eq : s.setsRead = w.setsRead.toNat

/-- What is given is the same, and so is the offset past a set. -/
structure Gives (start : Nat) (a : Except DecodeError (Option (PropertySet × UInt64)))
    (b : Except DecodeError (Option PropertySet)) : Prop where
  given_eq : a.map (Option.map Prod.fst) = b
  offset_eq : ∀ set offset, a = .ok (some (set, offset)) → offset.toNat = start + set.size.toNat

theorem gives_error (start : Nat) (e : DecodeError) : Gives start (.error e) (.error e) :=
  ⟨rfl, nofun⟩

theorem gives_none (start : Nat) : Gives start (.ok none) (.ok none) := ⟨rfl, nofun⟩

/-- A stream gives the set that is found, if it is found in words as it is in numbers. -/
theorem exists_gives {start : Nat} {x : Checked DecodeError (PropertySet × UInt64)}
    {y : Except DecodeError (PropertySet × Cursor)}
    (h : Agrees (fun found answer => found.1 = answer.1 ∧
      found.2.toNat = start + answer.1.size.toNat) x y) :
    ∃ result, x.run = some result ∧
      Gives start (result.map some) (y.map fun answer => some answer.1) := by
  cases h with
  | error e => exact ⟨.error e, rfl, gives_error start e⟩
  | @ok found answer same =>
    obtain ⟨same, past⟩ := same
    refine ⟨.ok found, rfl, congrArg (Except.ok <| some ·) same, ?_⟩
    rintro _ _ ⟨⟩
    rw [past, ← same]

variable {w : WordStream} {s : Stream} {device : Device} {head body : List UInt8} {size : UInt32}

/-- A whole set is read, and the offset past it has room where the offset past its bytes does. -/
theorem agrees_wholeSet (h : w.Follows s) (four : head.length = 4)
    (size_eq : size.toNat = LittleEndian.toNat head) (whole : size.toNat ≤ (head ++ body).length)
    (room : s.offset + (head ++ body).length < UInt64.size) :
    Agrees (fun found answer => found.1 = answer.1 ∧
        found.2.toNat = s.offset + answer.1.size.toNat)
      (w.wholeSet (head ++ body).toArray size)
      (PropertySet.decode s.options (.ofBytes (head ++ body).toArray s.offset)) := by
  rw [h.offset_eq] at room ⊢
  have stands : (WordCursor.ofBytes (head ++ body).toArray w.offset).Stands
      (.ofBytes (head ++ body).toArray w.offset.toNat) := WordCursor.stands_ofBytes room
  have agrees := stands.readSet w.options
  rw [wholeSet, h.options_eq]
  cases decoded : PropertySet.decode w.options.inNumbers
      (.ofBytes (head ++ body).toArray w.offset.toNat) with
  | error e =>
    rw [decoded] at agrees
    exact agrees.failed _
  | ok answer =>
    obtain ⟨set, c⟩ := answer
    rw [decoded] at agrees
    obtain ⟨⟨given, m⟩, read, same, -⟩ := agrees.exists_of_ok
    obtain rfl : given = set := same
    have declared := (Stream.size_of_decode four decoded).1
    have value := UInt32.toNat_toUInt64 size
    obtain ⟨next, next_eq, hnext⟩ :=
      Word.exists_add (a := w.offset) (b := size.toUInt64) (by omega)
    rw [read, pure_bind]
    dsimp only
    rw [next_eq]
    refine .ok ⟨rfl, ?_⟩
    rw [hnext, value, size_eq, declared]

/-- What comes of the rest of a set. -/
theorem exists_readBody (h : w.Follows s) (bounded : s.Bounded) (four : head.length = 4)
    (takes : s.device.Takes device 4) (size_eq : size.toNat = LittleEndian.toNat head)
    (header : PropertySet.headerSize ≤ size.toNat) :
    ∃ result, w.readBody head size device = some (result, (s.readBody head device).2) ∧
      Gives s.offset result (s.readBody head device).1 := by
  have value := UInt32.toNat_toUInt64 size
  have room := bounded.size_lt
  rw [PropertySet.headerSize] at header
  obtain ⟨rest, rest_eq, hrest⟩ := Word.exists_sub (a := size.toUInt64) (b := 4) (by
    rw [value]
    exact Nat.le_trans (by decide) header)
  replace hrest : rest.toNat = LittleEndian.toNat head - 4 := by
    rw [hrest, value, size_eq]
    rfl
  rw [readBody, rest_eq, Option.bind_eq_bind, Option.bind_some, Stream.readBody, ← hrest]
  cases filled : device.fill rest.toNat with
  | mk answer device =>
    cases answer with
    | error e => exact ⟨_, rfl, gives_error _ _⟩
    | ok body =>
      obtain ⟨le, takes'⟩ := Device.takes_of_fill filled
      have inside := bounded.add_le (takes.trans takes')
      have got_eq : (Word.count body.toArray).toNat = body.length :=
        Word.toNat_count (Nat.lt_of_le_of_lt le rest.toNat_lt)
      have short_iff : Word.count body.toArray < rest ↔ body.length < rest.toNat :=
        Word.lt_iff got_eq rfl
      dsimp only
      by_cases short : body.length < rest.toNat
      · obtain ⟨available, available_eq, havailable⟩ :=
          Word.exists_add (a := Word.count body.toArray) (b := 4) (by
            rw [got_eq, show UInt64.toNat 4 = 4 from rfl]
            omega)
        rw [got_eq] at havailable
        rw [if_pos (short_iff.mpr short), if_pos short, available_eq, Option.bind_some,
          ← h.offset_eq, ← size_eq, havailable]
        exact ⟨_, rfl, gives_error _ _⟩
      · have length_eq : (head ++ body).length = 4 + body.length := by
          rw [List.length_append, four]
        have whole : size.toNat ≤ (head ++ body).length := by omega
        have passes : s.offset + (head ++ body).length < UInt64.size := by omega
        obtain ⟨result, read, gives⟩ :=
          exists_gives (agrees_wholeSet h four size_eq whole passes)
        rw [if_neg (short ∘ short_iff.mp), if_neg short, read]
        exact ⟨_, rfl, gives⟩

/-- What comes of a request for a set. -/
theorem exists_readSet (h : w.Follows s) (bounded : s.Bounded) :
    ∃ result, w.readSet = some (result, s.readSet.2) ∧ Gives s.offset result s.readSet.1 := by
  rw [readSet, Stream.readSet, ← h.device_eq]
  cases filled : s.device.fill 4 with
  | mk answer device =>
    cases answer with
    | error e => exact ⟨_, rfl, gives_error _ _⟩
    | ok head =>
      obtain ⟨le, takes⟩ := Device.takes_of_fill filled
      have got_eq : (Word.count head.toArray).toNat = head.length :=
        Word.toNat_count (Nat.lt_of_le_of_lt le (by decide))
      have none_iff : Word.count head.toArray = 0 ↔ head.length = 0 := Word.eq_zero_iff got_eq
      have short_iff : Word.count head.toArray < 4 ↔ head.length < 4 := Word.lt_iff got_eq rfl
      have some_iff : 0 < w.setsRead ↔ 0 < s.setsRead := Word.lt_iff rfl h.setsRead_eq.symm
      simp only [none_iff, short_iff, some_iff]
      by_cases ends : head.length = 0 ∨ head.length < 4 ∧ 0 < s.setsRead
      · rw [if_pos ends, if_pos ends]
        exact ⟨_, rfl, gives_none _⟩
      rw [if_neg ends, if_neg ends]
      by_cases short : head.length < 4
      · rw [if_pos short, if_pos short, h.offset_eq, got_eq]
        exact ⟨_, rfl, gives_error _ _⟩
      have four : head.toArray.size = 4 := by
        rw [List.size_toArray]
        omega
      obtain ⟨size, known, hsize⟩ := Word.ofFour_eq four
      rw [List.toList_toArray] at hsize
      have zero_iff : size = 0 ↔ size.toNat = 0 := UInt32.toNat_inj.symm
      have small_iff : size.toUInt64 < 24 ↔ size.toNat < PropertySet.headerSize :=
        Word.lt_iff (UInt32.toNat_toUInt64 size) rfl
      rw [if_neg short, if_neg short, known, Option.bind_eq_bind, Option.bind_some, ← hsize]
      simp only [zero_iff, small_iff]
      by_cases zero : size.toNat = 0
      · rw [if_pos zero, if_pos zero]
        exact ⟨_, rfl, gives_none _⟩
      rw [if_neg zero, if_neg zero]
      by_cases small : size.toNat < PropertySet.headerSize
      · rw [if_pos small, if_pos small, h.offset_eq]
        exact ⟨_, rfl, gives_error _ _⟩
      rw [if_neg small, if_neg small]
      rw [List.size_toArray] at four
      rw [four] at takes
      exact exists_readBody h bounded four takes hsize (Nat.le_of_not_lt small)

/-- A request is answered in words as it is in numbers. -/
theorem exists_next (h : w.Follows s) (bounded : s.Bounded) :
    ∃ w', w.next = some (s.next.1, w') ∧ w'.Follows s.next.2 := by
  cases ended : s.ended with
  | true =>
    rw [next, ← h.ended_eq, ended, Stream.next_of_ended ended]
    exact ⟨w, rfl, h⟩
  | false =>
    obtain ⟨result, read, given, passed⟩ := exists_readSet h bounded
    have bounded' := bounded.next
    rw [next, ← h.ended_eq, ended, read]
    cases hread : s.readSet with
    | mk answer device =>
      rw [hread] at given
      cases result with
      | error e =>
        obtain rfl : answer = .error e := given.symm
        rw [Stream.next_of_error ended hread]
        exact ⟨_, rfl, rfl, h.options_eq, rfl, h.offset_eq, h.setsRead_eq⟩
      | ok found =>
        cases found with
        | none =>
          obtain rfl : answer = .ok none := given.symm
          rw [Stream.next_of_none ended hread]
          exact ⟨_, rfl, rfl, h.options_eq, rfl, h.offset_eq, h.setsRead_eq⟩
        | some found =>
          obtain ⟨set, offset⟩ := found
          obtain rfl : answer = .ok (some set) := given.symm
          rw [Stream.next_of_some ended hread] at bounded' ⊢
          obtain ⟨setsRead, count_eq, hcount⟩ := Word.exists_add (a := w.setsRead) (b := 1) (by
            rw [← h.setsRead_eq]
            exact Nat.lt_of_le_of_lt
              (Nat.le_trans bounded'.setsRead_le bounded'.offset_le_size) bounded'.size_lt)
          have offset_eq := passed set offset rfl
          refine ⟨{ w with device, offset, setsRead, ended := false }, ?_, rfl, h.options_eq,
            ended, ?_, ?_⟩
          · show (Word.add w.setsRead 1).bind _ = _
            rw [count_eq]
            rfl
          · exact offset_eq.symm
          · rw [hcount, ← h.setsRead_eq]
            rfl

/-- So are all requests. -/
theorem results_eq (h : w.Follows s) (bounded : s.Bounded) (n : Nat) :
    w.results n = some (s.results n) := by
  induction n generalizing w s with
  | zero => rfl
  | succ n ih =>
    obtain ⟨w', given, follows⟩ := exists_next h bounded
    rw [results, given, Option.bind_eq_bind, Option.bind_some]
    dsimp only
    rw [ih follows bounded.next]
    rfl

end WordStream

end PropertyStore
