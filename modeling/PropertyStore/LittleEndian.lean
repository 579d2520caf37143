/-!
# Little-endian words

Every number of a property store is written with its lowest byte first. A word is
a list of bytes of a fixed width; reading takes any list, writing takes the width
and keeps the number modulo `capacity width`.

The two are inverse: `bytes_toNat` for every list of bytes, `toNat_bytes_of_lt` for
every number that fits.
-/

namespace PropertyStore.LittleEndian

/-- How many numbers the words of a width stand for. -/
def capacity : Nat → Nat
  | 0 => 1
  | width + 1 => 256 * capacity width

/-! ### Unsigned numbers -/

/-- The number whose bytes, lowest first, are these. -/
def toNat : List UInt8 → Nat
  | [] => 0
  | b :: bs => b.toNat + 256 * toNat bs

/-- The `width` lowest bytes of a number, lowest first. -/
def bytes : Nat → Nat → List UInt8
  | 0, _ => []
  | width + 1, n => UInt8.ofNat n :: bytes width (n / 256)

@[simp] theorem length_bytes (width n : Nat) : (bytes width n).length = width := by
  induction width generalizing n with
  | zero => rfl
  | succ width ih => simp [bytes, ih]

theorem toNat_lt (bs : List UInt8) : toNat bs < capacity bs.length := by
  induction bs with
  | nil => simp [toNat, capacity]
  | cons b bs ih =>
    have hb := b.toNat_lt
    simp only [toNat, List.length_cons, capacity]
    omega

theorem toNat_bytes (width n : Nat) : toNat (bytes width n) = n % capacity width := by
  induction width generalizing n with
  | zero => simp [bytes, toNat, capacity, Nat.mod_one]
  | succ width ih =>
    have low : (UInt8.ofNat n).toNat = n % 256 := UInt8.toNat_ofNat'
    rw [bytes, toNat, ih, low, capacity, Nat.mod_mul]

theorem toNat_bytes_of_lt {width n : Nat} (h : n < capacity width) :
    toNat (bytes width n) = n := by
  rw [toNat_bytes, Nat.mod_eq_of_lt h]

theorem bytes_toNat (bs : List UInt8) : bytes bs.length (toNat bs) = bs := by
  induction bs with
  | nil => rfl
  | cons b bs ih =>
    have hb := b.toNat_lt
    have low : UInt8.ofNat (b.toNat + 256 * toNat bs) = b := by
      apply UInt8.toNat_inj.mp
      rw [UInt8.toNat_ofNat']
      omega
    have high : (b.toNat + 256 * toNat bs) / 256 = toNat bs := by omega
    simp only [List.length_cons, toNat, bytes, low, high, ih]

/-- Words of one width are known by the unsigned numbers that they are. -/
theorem toNat_inj {as bs : List UInt8} (width : as.length = bs.length)
    (h : toNat as = toNat bs) : as = bs := by
  rw [← bytes_toNat as, ← bytes_toNat bs, width, h]

/-! ### Words of two and of four bytes -/

/-- The bytes of a word of two bytes. -/
def word16 (w : UInt16) : List UInt8 := bytes 2 w.toNat

/-- The bytes of a word of four bytes. -/
def word32 (w : UInt32) : List UInt8 := bytes 4 w.toNat

@[simp] theorem length_word16 (w : UInt16) : (word16 w).length = 2 := length_bytes _ _

@[simp] theorem length_word32 (w : UInt32) : (word32 w).length = 4 := length_bytes _ _

@[simp] theorem toNat_word16 (w : UInt16) : toNat (word16 w) = w.toNat :=
  toNat_bytes_of_lt w.toNat_lt

@[simp] theorem toNat_word32 (w : UInt32) : toNat (word32 w) = w.toNat :=
  toNat_bytes_of_lt w.toNat_lt

theorem word16_ofNat_toNat {bs : List UInt8} (h : bs.length = 2) :
    word16 (UInt16.ofNat (toNat bs)) = bs := by
  have fits : toNat bs < UInt16.size := by simpa [h, capacity, UInt16.size] using toNat_lt bs
  rw [word16, UInt16.toNat_ofNat_of_lt' fits, ← h, bytes_toNat]

theorem word32_ofNat_toNat {bs : List UInt8} (h : bs.length = 4) :
    word32 (UInt32.ofNat (toNat bs)) = bs := by
  have fits : toNat bs < UInt32.size := by simpa [h, capacity, UInt32.size] using toNat_lt bs
  rw [word32, UInt32.toNat_ofNat_of_lt' fits, ← h, bytes_toNat]

/-! ### Signed numbers -/

/-- The two's complement number whose bytes, lowest first, are these. -/
def toInt (bs : List UInt8) : Int := Int.bmod (toNat bs) (capacity bs.length)

/-- The `width` lowest bytes of a two's complement number, lowest first. -/
def bytesOfInt (width : Nat) (i : Int) : List UInt8 :=
  bytes width (i % capacity width).toNat

@[simp] theorem length_bytesOfInt (width : Nat) (i : Int) :
    (bytesOfInt width i).length = width := by simp [bytesOfInt]

theorem capacity_pos (width : Nat) : 0 < capacity width := by
  induction width with
  | zero => exact Nat.one_pos
  | succ width ih => exact Nat.mul_pos (by decide) ih

/-- A number in the lower or the upper half of a word is read back with its sign. -/
theorem toInt_bytesOfInt {width : Nat} {i : Int} (lower : -(capacity width : Int) ≤ 2 * i)
    (upper : 2 * i < capacity width) : toInt (bytesOfInt width i) = i := by
  have pos := capacity_pos width
  have nonneg : 0 ≤ i % capacity width := Int.emod_nonneg i (by omega)
  have fits : (i % capacity width).toNat < capacity width := by
    have := Int.emod_lt_of_pos i (b := capacity width) (by omega)
    omega
  calc toInt (bytesOfInt width i)
      = Int.bmod (i % capacity width) (capacity width) := by
        rw [toInt, length_bytesOfInt, bytesOfInt, toNat_bytes_of_lt fits,
          Int.toNat_of_nonneg nonneg]
    _ = Int.bmod i (capacity width) := Int.emod_bmod _ _
    _ = i := Int.bmod_eq_of_le_mul_two (by omega) (by omega)

/-- Words of one width are known by the signed numbers that they are. -/
theorem toInt_inj {as bs : List UInt8} (width : as.length = bs.length)
    (h : toInt as = toInt bs) : as = bs := by
  have low : ((toNat as : Int) % capacity as.length) = (toNat bs : Int) % capacity as.length := by
    rw [← Int.bmod_emod, ← Int.bmod_emod (x := (toNat bs : Int))]
    rw [toInt, toInt, ← width] at h
    rw [h]
  have fits := toNat_lt as
  have fits' := toNat_lt bs
  rw [← width] at fits'
  rw [Int.emod_eq_of_lt (by omega) (by omega), Int.emod_eq_of_lt (by omega) (by omega)] at low
  exact toNat_inj width (Int.ofNat_inj.mp low)

end PropertyStore.LittleEndian
