import PropertyStore.Proofs.Decode.Stream

/-!
# The life of a stream

Whatever the device holds, however it cuts its deliveries, and wherever it fails, a stream
lives in one way (`LifeCycle`): it gives some sets, then perhaps one failure, then nothing for
ever. While it lives it has taken from the device exactly the sets that it has given, so
whoever takes the device back goes on at the next set. The request that ends it takes no more
than the size of a set, or a set if it fails; and after that nothing changes any more.

One request is followed through (`readSet_costs`); since a set is never empty and the device has
finitely many bytes, the induction is on what it has yet to deliver.
-/

namespace PropertyStore.Stream

open LittleEndian

/-- The stream after `n` requests. -/
def after : Nat → Stream → Stream
  | 0, s => s
  | n + 1, s => after n s.next.2

/-- The size that bytes start with; zero if they are too few. -/
def sizeAhead (bs : List UInt8) : Nat := if bs.length < 4 then 0 else toNat (bs.take 4)

/-! ### What one request takes -/

/-- What comes of a request, and how many bytes it takes off those that are ahead. -/
inductive Costs (ahead : List UInt8) : Except DecodeError (Option PropertySet) → Nat → Prop where
  /-- A set is taken whole, and nothing else. -/
  | set {set : PropertySet} (header : PropertySet.headerSize ≤ set.size.toNat) :
    Costs ahead (.ok (some set)) set.size.toNat
  /-- The end of a store takes no more than a size. -/
  | nothing {m : Nat} (le : m ≤ 4) : Costs ahead (.ok none) m
  /-- A failure takes no more than a size, or the set that is declared. -/
  | failure (e : DecodeError) {m : Nat} (le : m ≤ max 4 (sizeAhead ahead)) :
    Costs ahead (.error e) m

/-- A set that is read from a buffer of its own declares the size that the buffer starts with. -/
theorem size_of_decode {options : DecodeOptions} {head body : List UInt8} {o : Nat}
    {set : PropertySet} {d : Cursor} (four : head.length = 4)
    (h : PropertySet.decode options (.ofBytes (head ++ body).toArray o) = .ok (set, d)) :
    set.size.toNat = toNat head ∧ PropertySet.headerSize ≤ set.size.toNat := by
  obtain ⟨front, rest, hbs, isSet, -⟩ := PropertySet.isSet_of_decode (Cursor.At.ofBytes _ o) h
  have header := isSet.header_le
  rw [isSet.length_eq] at header
  obtain ⟨-, more, rfl⟩ := isSet.starts
  have hbs' : head ++ body = word32 set.size ++ (more ++ rest) := by
    rw [← List.append_assoc]
    exact hbs
  obtain ⟨rfl, -⟩ := List.append_inj hbs' (by rw [four, length_word32])
  exact ⟨(toNat_word32 set.size).symm, header⟩

/-- The rest of a set: all of it is taken if it is a set, and no more in any case. -/
theorem readBody_takes (s : Stream) {head : List UInt8} (four : head.length = 4)
    (device : Device) :
    ∃ m, m ≤ toNat head - 4 ∧ device.Takes (s.readBody head device).2 m ∧
      ((∃ e, (s.readBody head device).1 = .error e) ∨
        ∃ set, (s.readBody head device).1 = .ok (some set) ∧ set.size.toNat = 4 + m ∧
          PropertySet.headerSize ≤ set.size.toNat) := by
  obtain ⟨m, hm, takes, hbody⟩ := device.fill_takes (toNat head - 4)
  refine ⟨m, hm, ?_⟩
  rw [readBody]
  cases hfill : device.fill (toNat head - 4) with
  | mk answer device' =>
    rw [hfill] at takes hbody
    cases answer with
    | error e => exact ⟨takes, Or.inl ⟨_, rfl⟩⟩
    | ok body =>
      simp only
      split
      · exact ⟨takes, Or.inl ⟨_, rfl⟩⟩
      · next long =>
        have hlen : body.length ≤ m := by
          rw [hbody body rfl, List.length_take]
          exact Nat.min_le_left _ _
        cases read : PropertySet.decode s.options (.ofBytes (head ++ body).toArray s.offset) with
        | error e => exact ⟨takes, Or.inl ⟨e, rfl⟩⟩
        | ok answer =>
          obtain ⟨set, d⟩ := answer
          obtain ⟨hsize, header⟩ := size_of_decode four read
          refine ⟨takes, Or.inr ⟨set, rfl, ?_, header⟩⟩
          rw [PropertySet.headerSize] at header
          omega

/-- One request to the device for a size, and one for the rest of a set. -/
theorem readSet_costs (s : Stream) :
    ∃ m, s.device.Takes s.readSet.2 m ∧ Costs s.device.undelivered s.readSet.1 m := by
  obtain ⟨m, hm, takes, hhead⟩ := s.device.fill_takes 4
  rw [readSet]
  cases hfill : s.device.fill 4 with
  | mk answer device =>
    rw [hfill] at takes hhead
    cases answer with
    | error e => exact ⟨m, takes, Costs.failure _ (by omega)⟩
    | ok head =>
      have htake : head = s.device.undelivered.take m := hhead head rfl
      simp only
      split
      · exact ⟨m, takes, Costs.nothing hm⟩
      split
      · exact ⟨m, takes, Costs.failure _ (by omega)⟩
      next _ long =>
      split
      · exact ⟨m, takes, Costs.nothing hm⟩
      split
      · exact ⟨m, takes, Costs.failure _ (by omega)⟩
      next _ large =>
      -- All four bytes of the size are there, so it is the size that is ahead.
      have hlen : head.length = min m s.device.undelivered.length := by
        rw [htake, List.length_take]
      obtain rfl : m = 4 := by omega
      have four : head.length = 4 := by omega
      have hsize : sizeAhead s.device.undelivered = toNat head := by
        rw [sizeAhead, if_neg (by omega), ← htake]
      rw [PropertySet.headerSize] at large
      obtain ⟨k, hk, takes', ⟨e, failed⟩ | ⟨set, given, hset, header⟩⟩ :=
        readBody_takes s four device
      · rw [failed]
        exact ⟨4 + k, takes.trans takes', Costs.failure e (by omega)⟩
      · rw [given]
        exact ⟨set.size.toNat, hset ▸ takes.trans takes', Costs.set header⟩

/-! ### The counter -/

/-- Whether a request was answered with a set. -/
def givesSet : Option (Except DecodeError PropertySet) → Bool
  | some (.ok _) => true
  | _ => false

/-- A request is counted exactly if it is answered with a set. -/
theorem setsRead_next (s : Stream) :
    s.next.2.setsRead = s.setsRead + if givesSet s.next.1 then 1 else 0 := by
  cases hended : s.ended with
  | true => rw [next_of_ended hended]; rfl
  | false =>
    cases hread : s.readSet with
    | mk answer device =>
      match answer with
      | .ok (some set) => rw [next_of_some hended hread]; rfl
      | .ok none => rw [next_of_none hended hread]; rfl
      | .error e => rw [next_of_error hended hread]; rfl

/-- The counter counts the sets that have been given. -/
theorem setsRead_after (s : Stream) (n : Nat) :
    (s.after n).setsRead = s.setsRead + (s.results n).countP givesSet := by
  induction n generalizing s with
  | zero => rfl
  | succ n ih =>
    rw [after, ih, setsRead_next, results, List.countP_cons, Nat.add_right_comm, Nat.add_assoc]

/-! ### The whole life -/

/-- A failure, as a stream tells it. -/
def failed (e : DecodeError) : Option (Except DecodeError PropertySet) := some (.error e)

/-- The life of a stream that gives these sets, and then a failure if there is one. -/
structure LifeCycle (s : Stream) (sets : List PropertySet) (failure : Option DecodeError) :
    Prop where
  /-- The sets are given, then the failure, then nothing any more. -/
  results_eq (n : Nat) : s.results n =
    (sets.map given ++ failure.toList.map failed ++ List.replicate n none).take n
  /-- When the first sets have been given, they are what has been taken from the device. -/
  taken (j : Nat) (hj : j ≤ sets.length) :
    s.device.Takes (s.after j).device (PropertySet.totalSize (sets.take j))
  /-- The request after the sets takes at most four bytes, or the set that is declared if it is
  told to have failed. -/
  last : ∃ m, (s.after sets.length).device.Takes (s.after (sets.length + 1)).device m ∧
    m ≤ if failure.isSome then max 4 (sizeAhead (s.after sets.length).device.undelivered) else 4
  /-- Requests after that change nothing. -/
  settled (n : Nat) : s.after (sets.length + 1 + n) = s.after (sets.length + 1)

variable {s s' : Stream} {sets : List PropertySet} {failure : Option DecodeError}

theorem after_of_ended (h : s.ended = true) (n : Nat) : s.after n = s := by
  induction n with
  | zero => rfl
  | succ n ih => rw [after, next_of_ended h, ih]

/-- The life of a stream that ends with the next request. -/
theorem LifeCycle.stop {m : Nat} (e : s.next = (failure.bind failed, s')) (ended : s'.ended = true)
    (takes : s.device.Takes s'.device m)
    (hm : m ≤ if failure.isSome then max 4 (sizeAhead s.device.undelivered) else 4) :
    LifeCycle s [] failure where
  results_eq n := by
    cases n with
    | zero => rfl
    | succ n =>
      rw [results, e, results_of_ended ended]
      cases failure with
      | none => simp [List.replicate_succ]
      | some failure => simp [List.replicate_succ']
  taken j hj := by
    obtain rfl : j = 0 := Nat.le_zero.mp hj
    exact Device.Takes.refl s.device
  last := ⟨m, by simpa only [List.length_nil, after, e] using takes, hm⟩
  settled n := by
    rw [List.length_nil, Nat.zero_add, Nat.add_comm, after, after, e, after_of_ended ended, after]

/-- The life of a stream that gives a set with the next request. -/
theorem LifeCycle.cons {set : PropertySet} (e : s.next = (some (.ok set), s'))
    (takes : s.device.Takes s'.device set.size.toNat) (life : LifeCycle s' sets failure) :
    LifeCycle s (set :: sets) failure where
  results_eq n := by
    cases n with
    | zero => rfl
    | succ n =>
      have enough : n ≤ (sets.map given ++ failure.toList.map failed ++
          List.replicate n none).length := by
        rw [List.length_append, List.length_replicate]
        exact Nat.le_add_left _ _
      rw [results, e, life.results_eq n, List.map_cons, List.cons_append, List.cons_append,
        List.take_succ_cons, List.replicate_succ', ← List.append_assoc,
        List.take_append_of_le_length enough, given]
  taken j hj := by
    cases j with
    | zero => exact Device.Takes.refl s.device
    | succ j =>
      rw [after, e, List.take_succ_cons, PropertySet.totalSize]
      exact takes.trans (life.taken j (Nat.le_of_succ_le_succ hj))
  last := by
    simp only [List.length_cons, after, e]
    exact life.last
  settled n := by
    rw [List.length_cons, Nat.add_right_comm, after, after, e]
    exact life.settled n

/-- Every stream has a life: a set takes bytes off the device, and it has finitely many. -/
theorem exists_lifeCycle (s : Stream) : ∃ sets failure, LifeCycle s sets failure := by
  induction hn : s.device.undelivered.length using Nat.strongRecOn generalizing s with
  | ind n ih =>
    cases hended : s.ended with
    | true =>
      exact ⟨[], none, LifeCycle.stop (next_of_ended hended) hended (Device.Takes.refl _)
        (Nat.zero_le _)⟩
    | false =>
      obtain ⟨m, takes, costs⟩ := readSet_costs s
      cases hread : s.readSet with
      | mk answer device =>
        rw [hread] at takes costs
        cases costs with
        | @set set header =>
          have hnext := next_of_some hended hread
          have shorter : device.undelivered.length < n := by
            have le := takes.le
            rw [PropertySet.headerSize] at header
            rw [takes.moves.undelivered_eq, List.length_drop]
            omega
          obtain ⟨sets, failure, life⟩ := ih _ shorter s.next.2 (by rw [hnext])
          rw [hnext] at life
          exact ⟨set :: sets, failure, life.cons hnext takes⟩
        | nothing le =>
          exact ⟨[], none, LifeCycle.stop (next_of_none hended hread) rfl takes le⟩
        | failure e le =>
          exact ⟨[], some e, LifeCycle.stop (next_of_error hended hread) rfl takes le⟩

/-- **The life of a stream**: over any device it gives some sets, then perhaps a failure, then
nothing for ever; it has taken exactly the sets that it has given, and no more than it needed to
end; and it counts the sets that it has given. -/
theorem life_of_stream (d : Device) (options : DecodeOptions) :
    (∃ sets failure, LifeCycle (ofDevice d options) sets failure) ∧
      ∀ n, ((ofDevice d options).after n).setsRead =
        ((ofDevice d options).results n).countP givesSet := by
  refine ⟨exists_lifeCycle _, fun n => ?_⟩
  rw [setsRead_after]
  exact Nat.zero_add _

end PropertyStore.Stream
