/-!
Addition of 32-bit counters that stops at the largest value instead of wrapping.
A counter that has not reached its limit always moves, which is what ends the
bounded waits.
-/

set_option autoImplicit false
set_option relaxedAutoImplicit false

namespace SpiWifi

def saturatingAdd (a b : UInt32) : UInt32 :=
  if a.toNat + b.toNat < UInt32.size then a + b else 0xFFFFFFFF

theorem toNat_saturatingAdd (a b : UInt32) :
    (saturatingAdd a b).toNat = min (a.toNat + b.toNat) (UInt32.size - 1) := by
  unfold saturatingAdd
  split <;> rename_i h
  · rw [UInt32.toNat_add, Nat.mod_eq_of_lt h]
    simp only [UInt32.size] at h ⊢
    omega
  · simp only [UInt32.size] at h ⊢
    have : (0xFFFFFFFF : UInt32).toNat = 4294967295 := rfl
    omega

/-- A counter below some limit moves by any positive step. -/
theorem lt_saturatingAdd {a b limit : UInt32} (ha : a < limit) (hb : 0 < b) :
    a.toNat < (saturatingAdd a b).toNat := by
  rw [toNat_saturatingAdd]
  have h1 := UInt32.lt_iff_toNat_lt.mp ha
  have h2 := UInt32.lt_iff_toNat_lt.mp hb
  have h3 := limit.toNat_lt
  simp only [UInt32.toNat_zero] at h2
  simp only [UInt32.size]
  omega

theorem toNat_max_one (step : UInt32) : (max step 1).toNat = max step.toNat 1 := by
  change (if step ≤ 1 then 1 else step).toNat = _
  split <;> rename_i h <;> rw [UInt32.le_iff_toNat_le] at h <;>
    simp only [UInt32.toNat_one] at h ⊢ <;> omega

theorem toNat_min (a b : UInt32) : (min a b).toNat = min a.toNat b.toNat := by
  change (if a ≤ b then a else b).toNat = _
  split <;> rename_i h <;> rw [UInt32.le_iff_toNat_le] at h <;> omega

theorem zero_lt_max_one (step : UInt32) : 0 < max step 1 := by
  change 0 < if step ≤ 1 then 1 else step
  split <;> rename_i h
  · decide
  · rw [UInt32.le_iff_toNat_le] at h
    rw [UInt32.lt_iff_toNat_lt]
    simp only [UInt32.toNat_one, UInt32.toNat_zero] at h ⊢
    omega

theorem zero_lt_min {a b : UInt32} (ha : 0 < a) (hb : 0 < b) : 0 < min a b := by
  change 0 < if a ≤ b then a else b
  split
  · exact ha
  · exact hb

theorem zero_lt_sub {a limit : UInt32} (h : a < limit) : 0 < limit - a := by
  rw [UInt32.lt_iff_toNat_lt, UInt32.toNat_sub_of_le _ _ (UInt32.le_of_lt h)]
  rw [UInt32.lt_iff_toNat_lt] at h
  simp only [UInt32.toNat_zero]
  omega

end SpiWifi
