import PropertyStore.Proofs.Grammar.Run

/-!
# Bytes that are the same but at some places

Two lists of bytes may differ at places that do not matter. `SameBut skipped bs bs'` says that they
are as many and the same at every place that is not skipped. Places are counted from the start of
the bytes, so an append falls into two such relations, the second with its places moved
(`SameBut.append`); and bytes of which no place is skipped are the same (`SameBut.eq`).

Along a run it is enough to know the places of each part (`Run.sameBut`).
-/

namespace PropertyStore

/-- The bytes `bs'` are as many as `bs`, and the same but at the places that are skipped. -/
structure SameBut (skipped : Nat → Prop) (bs bs' : List UInt8) : Prop where
  length_eq : bs'.length = bs.length
  getElem?_eq (p : Nat) (kept : ¬ skipped p) : bs'[p]? = bs[p]?

namespace SameBut

variable {skipped skipped' : Nat → Prop} {a b bs bs' : List UInt8}

/-- It is enough that the skipped places within the bytes are skipped too. -/
theorem mono (h : SameBut skipped bs bs') (le : ∀ p < bs.length, skipped p → skipped' p) :
    SameBut skipped' bs bs' := by
  refine ⟨h.length_eq, fun p kept => ?_⟩
  by_cases inside : p < bs.length
  · exact h.getElem?_eq p fun skip => kept (le p inside skip)
  · have outside : bs.length ≤ p := Nat.le_of_not_lt inside
    rw [List.getElem?_eq_none outside, List.getElem?_eq_none (h.length_eq ▸ outside)]

/-- Where no place is skipped, nothing differs. -/
theorem eq (h : SameBut skipped bs bs') (none : ∀ p < bs.length, ¬ skipped p) : bs' = bs := by
  have everywhere : SameBut (fun _ => False) bs bs' := h.mono none
  exact List.ext_getElem? fun p => everywhere.getElem?_eq p id

/-- What is the same as an append is an append. -/
theorem append (h : SameBut skipped (a ++ b) bs') :
    ∃ a' b', bs' = a' ++ b' ∧ SameBut skipped a a' ∧
      SameBut (fun p => skipped (a.length + p)) b b' := by
  have hlen := h.length_eq
  rw [List.length_append] at hlen
  refine ⟨bs'.take a.length, bs'.drop a.length, (List.take_append_drop ..).symm,
    ⟨?_, fun p kept => ?_⟩, ⟨?_, fun p kept => ?_⟩⟩
  · rw [List.length_take]
    omega
  · by_cases inside : p < a.length
    · rw [List.getElem?_take_of_lt inside, h.getElem?_eq p kept, List.getElem?_append_left inside]
    · have outside : a.length ≤ p := Nat.le_of_not_lt inside
      rw [List.getElem?_eq_none outside, List.getElem?_eq_none]
      exact Nat.le_trans (List.length_take_le _ _) outside
  · rw [List.length_drop]
    omega
  · rw [List.getElem?_drop, h.getElem?_eq _ kept,
      List.getElem?_append_right (Nat.le_add_right _ _), Nat.add_sub_cancel_left]

/-- What is the same as an append of which the first part is not skipped begins with that part. -/
theorem append_left (h : SameBut skipped (a ++ b) bs') (none : ∀ p < a.length, ¬ skipped p) :
    ∃ b', bs' = a ++ b' ∧ SameBut (fun p => skipped (a.length + p)) b b' := by
  obtain ⟨a', b', rfl, ha, hb⟩ := h.append
  exact ⟨b', by rw [ha.eq none], hb⟩

end SameBut

variable {α : Type} {P : List UInt8 → α → Prop}

/-- Bytes that are the same as a run and a rest are a run of the same values and a rest, if each
part may be exchanged for one that is the same but at its skipped places. The mark says that no
part came before. -/
theorem Run.sameBut (skipped : Bool → List UInt8 → Nat → Prop)
    (partSkipped : List UInt8 → α → Nat → Prop)
    (split : ∀ first part x rest p, P part x → skipped first (part ++ rest) p →
      p < part.length ∧ partSkipped part x p ∨ ∃ q, p = part.length + q ∧ skipped false rest q)
    (exchange : ∀ part x part', P part x → SameBut (partSkipped part x) part part' → P part' x)
    {front : List UInt8} {xs : List α} (run : Run P front xs) (first : Bool)
    {rest bs' : List UInt8}
    (h : SameBut (skipped first (front ++ rest)) (front ++ rest) bs') :
    ∃ front' rest', bs' = front' ++ rest' ∧ front'.length = front.length ∧ Run P front' xs ∧
      SameBut (skipped (first && xs.isEmpty) rest) rest rest' := by
  induction run generalizing first bs' with
  | nil => exact ⟨[], bs', rfl, rfl, Run.nil, by simpa using h⟩
  | @cons part more x xs hx _ ih =>
    rw [List.append_assoc] at h
    obtain ⟨part', more', rfl, hpart, hmore⟩ := h.append
    have here : SameBut (partSkipped part x) part part' := by
      refine hpart.mono fun p inside skip => ?_
      obtain ⟨-, skip⟩ | ⟨q, rfl, -⟩ := split _ _ _ _ _ hx skip
      · exact skip
      · omega
    have there : SameBut (skipped false (more ++ rest)) (more ++ rest) more' := by
      refine hmore.mono fun p _ skip => ?_
      obtain ⟨inside, -⟩ | ⟨q, hq, skip⟩ := split _ _ _ _ _ hx skip
      · omega
      · rwa [Nat.add_left_cancel hq]
    obtain ⟨front', rest', rfl, hlen, kept, hrest⟩ := ih false there
    refine ⟨part' ++ front', rest', (List.append_assoc ..).symm, ?_,
      Run.cons (exchange _ _ _ hx here) kept, ?_⟩
    · rw [List.length_append, List.length_append, hpart.length_eq, hlen]
    · rw [List.isEmpty_cons, Bool.and_false]
      rwa [Bool.false_and] at hrest

end PropertyStore
