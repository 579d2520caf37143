import PropertyStore.Proofs.Grammar.Record
import PropertyStore.Proofs.Skipped.SameBut
import PropertyStore.Proofs.Text.Utf16

/-!
# The bytes of a record that do not matter

A reader passes over the reserved byte of a record, its padding, and what comes after its value.
Of a name it passes over what comes after the first zero, and an odd last byte. `Record.Skips`
says which places these are, counted from the start of the record. If bytes begin with the fields
of a record, so do bytes that differ from them at such places only, and it is the same record
(`HasFields.exchange`).
-/

namespace PropertyStore

open LittleEndian Text.Utf16

/-! ### Names -/

/-- A place in the bytes of a name is passed over if it comes after the first unit that is zero, or
is that of an odd last byte. -/
def RecordKey.Skips (name : List UInt8) (p : Nat) : Prop :=
  2 * (beforeZero (units name)).length + 2 ≤ p ∨ name.length % 2 = 1 ∧ p + 1 = name.length

instance (name : List UInt8) (p : Nat) : Decidable (RecordKey.Skips name p) :=
  inferInstanceAs (Decidable (_ ∨ _))

/-- The units up to the first zero are the same where nothing but skipped places differs. -/
theorem beforeZero_units_sameBut {name name' : List UInt8}
    (h : SameBut (RecordKey.Skips name) name name') :
    beforeZero (units name') = beforeZero (units name) := by
  induction name using units.induct generalizing name' with
  | case1 low high rest ih =>
    have first : ∀ p < [low, high].length, ¬ RecordKey.Skips (low :: high :: rest) p := by
      intro p hp skip
      simp only [RecordKey.Skips, List.length_cons, List.length_nil] at hp skip
      omega
    obtain ⟨rest', rfl, hrest⟩ := h.append_left first
    rw [List.cons_append, List.singleton_append, units, units, beforeZero, beforeZero,
      List.takeWhile_cons, List.takeWhile_cons]
    split
    · next nonzero =>
      -- A unit that is not zero moves the places of the others by two.
      have moved : SameBut (RecordKey.Skips rest) rest rest' := by
        refine hrest.mono fun p _ skip => ?_
        simp only [RecordKey.Skips, units, beforeZero, List.takeWhile_cons, if_pos nonzero,
          List.length_cons, List.length_nil] at skip ⊢
        omega
      rw [← beforeZero, ← beforeZero, ih moved]
    · rfl
  | case2 name none =>
    have short : name.length < 2 := by
      rcases name with _ | ⟨low, _ | ⟨high, rest⟩⟩
      · exact Nat.zero_lt_two
      · exact Nat.one_lt_two
      · exact absurd rfl (none low high rest)
    rw [units_of_short short, units_of_short (h.length_eq ▸ short)]

theorem nameText_sameBut {name name' : List UInt8} (h : SameBut (RecordKey.Skips name) name name') :
    RecordKey.nameText name' = RecordKey.nameText name := by
  rw [RecordKey.nameText, beforeZero_units_sameBut h, RecordKey.nameText]

/-! ### Records -/

/-- The bytes of a record's name, if its layout has one. -/
def Record.nameBytes : RecordLayout → List UInt8 → List UInt8
  | .numeric, _ => []
  | .named, bs => (bs.drop 9).take (toNat ((bs.drop 4).take 4))

/-- A place in the bytes of a record is passed over if it is that of the reserved byte, is passed
over in the name, is one of the two of the padding, or comes after the value. -/
def Record.Skips (layout : RecordLayout) (bs : List UInt8) (r : Record) (p : Nat) : Prop :=
  let name := nameBytes layout bs
  p = 8 ∨ 9 ≤ p ∧ p < 9 + name.length ∧ RecordKey.Skips name (p - 9) ∨
    9 + name.length + 2 ≤ p ∧ p < 9 + name.length + 4 ∨ r.fieldsSize + name.length ≤ p

instance (layout : RecordLayout) (bs : List UInt8) (r : Record) (p : Nat) :
    Decidable (r.Skips layout bs p) :=
  inferInstanceAs (Decidable (_ ∨ _))

variable {layout : RecordLayout} {options : DecodeOptions} {start : Nat}

theorem Record.nameBytes_named (size field : UInt32) (reserved : UInt8) {name : List UInt8}
    (length : name.length = field.toNat) (rest : List UInt8) :
    nameBytes .named (word32 size ++ word32 field ++ [reserved] ++ name ++ rest) = name := by
  have field_eq : ((word32 size ++ word32 field ++ [reserved] ++ name ++ rest).drop 4).take 4 =
      word32 field := by
    simp only [List.append_assoc, List.drop_left' (length_word32 size),
      List.take_left' (length_word32 field)]
  have nine : (word32 size ++ word32 field ++ [reserved]).length = 9 := by simp
  rw [nameBytes, field_eq, toNat_word32, List.append_assoc, List.drop_left' nine, ← length,
    List.take_left]

/-- A head is nine bytes and the name. -/
theorem IsHead.length_eq {head : List UInt8} {size : UInt32} {key : RecordKey}
    (h : IsHead layout head size key) (rest : List UInt8) :
    head.length = 9 + (Record.nameBytes layout (head ++ rest)).length := by
  cases h with
  | numeric => simp [Record.nameBytes]
  | named size field reserved length =>
    rw [Record.nameBytes_named size field reserved length rest]
    simp
    omega

/-- Eight bytes are not skipped, then comes the reserved byte. -/
theorem sameBut_reserved {skipped : Nat → Prop} {size field : UInt32} {reserved : UInt8}
    {name head' : List UInt8} (none : ∀ p < 8, ¬ skipped p)
    (h : SameBut skipped (word32 size ++ word32 field ++ [reserved] ++ name) head') :
    ∃ reserved' name', head' = word32 size ++ word32 field ++ [reserved'] ++ name' ∧
      SameBut (fun p => skipped (9 + p)) name name' := by
  rw [List.append_assoc] at h
  obtain ⟨rest', rfl, hrest⟩ := h.append_left (by simpa using none)
  obtain ⟨one, name', rfl, hone, hname⟩ := hrest.append
  obtain ⟨reserved', rfl⟩ := List.length_eq_one_iff.mp hone.length_eq
  refine ⟨reserved', name', (List.append_assoc ..).symm, hname.mono fun p _ skip => ?_⟩
  simpa [← Nat.add_assoc] using skip

/-- A head is one with the same size and key where nothing but skipped places differs. -/
theorem IsHead.exchange {head head' rest : List UInt8} {size : UInt32} {key : RecordKey} {r : Record}
    (h : IsHead layout head size key)
    (same : SameBut (r.Skips layout (head ++ rest)) head head') : IsHead layout head' size key := by
  have fields : 13 ≤ r.fieldsSize := by
    rw [Record.fieldsSize]
    omega
  have none : ∀ p < 8, ¬ r.Skips layout (head ++ rest) p := by
    intro p hp skip
    simp only [Record.Skips] at skip
    omega
  cases h with
  | numeric size field reserved =>
    rw [← List.append_nil (word32 size ++ word32 field ++ [reserved])] at same
    obtain ⟨reserved', name', rfl, hname⟩ := sameBut_reserved none same
    rw [List.length_eq_zero_iff.mp hname.length_eq, List.append_nil]
    exact IsHead.numeric size field reserved'
  | @named size field reserved name length =>
    obtain ⟨reserved', name', rfl, hname⟩ := sameBut_reserved none same
    have inName : SameBut (RecordKey.Skips name) name name' := by
      refine hname.mono fun p inside skip => ?_
      simp only [Record.Skips, Record.nameBytes_named size field reserved length rest,
        Nat.add_sub_cancel_left] at skip
      obtain at8 | ⟨-, -, skip⟩ | ⟨lower, -⟩ | lower := skip
      · omega
      · exact skip
      · omega
      · omega
    rw [← nameText_sameBut inName]
    exact IsHead.named size field reserved' (hname.length_eq.trans length)

/-- The code of a value, its count and the value itself are not skipped. -/
theorem sameBut_value {skipped : Nat → Prop} {code padding count data slack bs' : List UInt8}
    (hcode : code.length = 2) (two : padding.length = 2) (before : ∀ p < 2, ¬ skipped p)
    (behind : ∀ p, 4 ≤ p → p < 4 + count.length + data.length → ¬ skipped p)
    (h : SameBut skipped (code ++ (padding ++ (count ++ data ++ slack))) bs') :
    ∃ padding' slack', bs' = code ++ (padding' ++ (count ++ data ++ slack')) ∧
      padding'.length = 2 := by
  obtain ⟨rest₁, rfl, h₁⟩ := h.append_left (hcode ▸ before)
  obtain ⟨padding', rest₂, rfl, hpadding, h₂⟩ := h₁.append
  have kept : ∀ p < (count ++ data).length, ¬ skipped (code.length + (padding.length + p)) := by
    intro p hp
    rw [List.length_append] at hp
    exact behind _ (by omega) (by omega)
  obtain ⟨slack', rfl, -⟩ := h₂.append_left kept
  exact ⟨padding', slack', rfl, hpadding.length_eq.trans two⟩

/-- The fields of a record are the same where nothing but skipped places differs. -/
theorem HasFields.exchange {bs bs' : List UInt8} {r : Record} (h : HasFields layout options bs r)
    (same : SameBut (r.Skips layout bs) bs bs') : HasFields layout options bs' r := by
  obtain @⟨_, count, data, size, key, t, @⟨head, padding, _, _, _, isHead, two⟩, isCount, small,
    slack⟩ := h
  have split : ∀ head padding slack : List UInt8,
      head ++ word16 t.code ++ padding ++ count ++ data ++ slack =
        head ++ (word16 t.code ++ (padding ++ (count ++ data ++ slack))) := by
    intro head padding slack
    simp only [List.append_assoc]
  rw [split] at same
  have nine := isHead.length_eq (word16 t.code ++ (padding ++ (count ++ data ++ slack)))
  have counts := isCount.length_eq
  obtain ⟨head', rest', rfl, hhead, hrest⟩ := same.append
  obtain ⟨padding', slack', rfl, two'⟩ := by
    refine sameBut_value (length_word16 t.code) two ?_ ?_ hrest
    · intro p hp skip
      simp only [Record.Skips, Record.fieldsSize] at skip
      omega
    · intro p lower upper skip
      simp only [Record.Skips, Record.fieldsSize] at skip
      omega
  rw [← split]
  exact HasFields.mk (IsOpening.mk t (isHead.exchange hhead) two') isCount small slack'

theorem IsRecord.exchange {bs bs' : List UInt8} {r : Record} (h : IsRecord layout options bs r)
    (same : SameBut (r.Skips layout bs) bs bs') : IsRecord layout options bs' r :=
  ⟨h.hasFields.exchange same, same.length_eq.trans h.length_eq⟩

end PropertyStore
