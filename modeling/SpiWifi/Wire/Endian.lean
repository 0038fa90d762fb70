/-!
Numbers as byte lists, least significant byte first; a big-endian field is the
reversed list. Reading and writing undo each other.
-/

set_option autoImplicit false
set_option relaxedAutoImplicit false

namespace SpiWifi.Wire

def ofLittle : List UInt8 → Nat
  | [] => 0
  | byte :: rest => byte.toNat + 256 * ofLittle rest

/-- The low `width` bytes of a number. -/
def toLittle : Nat → Nat → List UInt8
  | 0, _ => []
  | width + 1, n => UInt8.ofNat n :: toLittle width (n / 256)

@[simp] theorem length_toLittle (width n : Nat) : (toLittle width n).length = width := by
  induction width generalizing n with
  | zero => rfl
  | succ width ih => simp [toLittle, ih]

/-- A 16-bit number is read back from its two bytes. -/
theorem ofLittle_toLittle_word (word : UInt16) :
    UInt16.ofNat (ofLittle (toLittle 2 word.toNat)) = word := by
  have := word.toNat_lt
  apply UInt16.toNat_inj.mp
  simp only [toLittle, ofLittle, UInt16.toNat_ofNat', UInt8.toNat_ofNat']
  omega

/-- Writing what was read gives the bytes, however many there are. -/
theorem toLittle_ofLittle (bytes : List UInt8) :
    toLittle bytes.length (ofLittle bytes) = bytes := by
  induction bytes with
  | nil => rfl
  | cons byte rest ih =>
    have := byte.toNat_lt
    have hd : (byte.toNat + 256 * ofLittle rest) / 256 = ofLittle rest := by omega
    have hb : UInt8.ofNat (byte.toNat + 256 * ofLittle rest) = byte := by
      apply UInt8.toNat_inj.mp
      rw [UInt8.toNat_ofNat']
      omega
    rw [List.length_cons, ofLittle, toLittle, hd, hb, ih]

theorem ofLittle_lt_word {bytes : List UInt8} (short : bytes.length ≤ 4) :
    ofLittle bytes < UInt32.size := by
  have bound (bytes : List UInt8) : ofLittle bytes < 256 ^ bytes.length := by
    induction bytes with
    | nil => exact Nat.one_pos
    | cons byte rest ih =>
      have := byte.toNat_lt
      rw [ofLittle, List.length_cons, Nat.pow_succ]
      omega
  exact Nat.lt_of_lt_of_le (bound bytes) (Nat.pow_le_pow_right (by decide) short)

theorem ofLittle_append_zeros (bytes : List UInt8) (count : Nat) :
    ofLittle (bytes ++ List.replicate count 0) = ofLittle bytes := by
  induction bytes with
  | nil =>
    induction count with
    | zero => rfl
    | succ count ih =>
      show 0 + 256 * ofLittle ([] ++ List.replicate count 0) = 0
      rw [ih]
      rfl
  | cons byte rest ih => rw [List.cons_append, ofLittle, ofLittle, ih]

/-- A number that was read from too few bytes is written with zeros behind them. -/
theorem toLittle_ofLittle_short {bytes : List UInt8} {width : Nat} (short : bytes.length ≤ width) :
    toLittle width (ofLittle bytes) = bytes ++ List.replicate (width - bytes.length) 0 := by
  have long : (bytes ++ List.replicate (width - bytes.length) 0).length = width := by
    rw [List.length_append, List.length_replicate]
    omega
  calc toLittle width (ofLittle bytes)
      = toLittle (bytes ++ List.replicate (width - bytes.length) 0).length
          (ofLittle (bytes ++ List.replicate (width - bytes.length) 0)) := by
        rw [long, ofLittle_append_zeros]
    _ = bytes ++ List.replicate (width - bytes.length) 0 := toLittle_ofLittle _

/-- A number with its four bytes in the other order. -/
def swapBytes (word : UInt32) : UInt32 := UInt32.ofNat (ofLittle (toLittle 4 word.toNat).reverse)

theorem toLittle_ofNat_ofLittle {bytes : List UInt8} (four : bytes.length = 4) :
    toLittle 4 (UInt32.ofNat (ofLittle bytes)).toNat = bytes := by
  rw [UInt32.toNat_ofNat', Nat.mod_eq_of_lt (ofLittle_lt_word (Nat.le_of_eq four)), ← four,
    toLittle_ofLittle]

theorem toLittle_swapBytes (word : UInt32) :
    toLittle 4 (swapBytes word).toNat = (toLittle 4 word.toNat).reverse :=
  toLittle_ofNat_ofLittle (by rw [List.length_reverse, length_toLittle])

theorem ofNat_ofLittle_toLittle (word : UInt32) :
    UInt32.ofNat (ofLittle (toLittle 4 word.toNat)) = word := by
  have := word.toNat_lt
  apply UInt32.toNat_inj.mp
  simp only [toLittle, ofLittle, UInt32.toNat_ofNat', UInt8.toNat_ofNat']
  omega

@[simp] theorem swapBytes_swapBytes (word : UInt32) : swapBytes (swapBytes word) = word := by
  rw [swapBytes, toLittle_swapBytes, List.reverse_reverse, ofNat_ofLittle_toLittle]

end SpiWifi.Wire
