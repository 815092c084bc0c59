import Mathlib.Data.Int.Basic

/-!
# Exact results of 64-bit arithmetic

Go's `int64` wraps on overflow. A sum or difference that fits in 64 bits is computed exactly, and
comparisons agree with those of the integers.
-/

namespace GoInt

/-- The integer is in the range of `int64`. -/
def Fits (n : Int) : Prop := -9223372036854775808 ≤ n ∧ n < 9223372036854775808

instance (n : Int) : Decidable (Fits n) := inferInstanceAs (Decidable (_ ∧ _))

theorem bmod_eq_self {n : Int} (fits : Fits n) : n.bmod 18446744073709551616 = n := by
  unfold Fits at fits
  rw [Int.bmod_eq_of_le] <;> omega

theorem toInt_add {a b : Int64} (fits : Fits (a.toInt + b.toInt)) :
    (a + b).toInt = a.toInt + b.toInt := by
  rw [Int64.toInt_add]
  exact bmod_eq_self fits

theorem toInt_sub {a b : Int64} (fits : Fits (a.toInt - b.toInt)) :
    (a - b).toInt = a.toInt - b.toInt := by
  rw [Int64.toInt_sub]
  exact bmod_eq_self fits

/-- A difference floored at zero is exact when the subtrahend is not larger. -/
theorem toInt_sub_floor {a b : Int64} (nonneg : 0 ≤ b.toInt) (le : b.toInt ≤ a.toInt) :
    (if a - b < 0 then 0 else a - b).toInt = a.toInt - b.toInt := by
  have high := Int64.toInt_lt a
  have exact : (a - b).toInt = a.toInt - b.toInt := toInt_sub (by unfold Fits; omega)
  have floor : ¬ a - b < 0 := by
    rw [Int64.lt_iff_toInt_lt, exact, Int64.toInt_zero]
    omega
  rw [if_neg floor, exact]

theorem toInt_max_zero_sub {a b : Int64} (fits : Fits (a.toInt - b.toInt)) :
    (if 0 > a - b then 0 else a - b).toInt = max 0 (a.toInt - b.toInt) := by
  have exact := toInt_sub fits
  split
  · next negative =>
    rw [gt_iff_lt, Int64.lt_iff_toInt_lt, exact, Int64.toInt_zero] at negative
    rw [Int64.toInt_zero]
    omega
  · next nonneg =>
    rw [gt_iff_lt, Int64.lt_iff_toInt_lt, exact, Int64.toInt_zero] at nonneg
    rw [exact]
    omega

end GoInt
