import CloudMonitoring.Double
import Mathlib.Data.Rat.Defs
import Mathlib.Algebra.Field.Rat
import Mathlib.Tactic.Ring
import Mathlib.Tactic.Positivity

/-!
The rational number that a double stands for. Two doubles are the same number only if they have the same
bits or are both zero.
-/

namespace CloudMonitoring

namespace Double

def value (x : Double) : ℚ :=
  (if x.isNegative then -1 else 1) * x.significand * 2 ^ x.scale

def doublings (x : Double) : Nat := x.exponentField - 1

def units (x : Double) : Nat := x.significand * 2 ^ x.doublings

theorem bits_eq (x : Double) : x.bits.toNat =
    (if x.isNegative then 2 ^ 63 else 0) + x.exponentField * 2 ^ 52 + x.fractionField := by
  have bound := x.bits.toNat_lt
  simp only [isNegative, exponentField, fractionField, Nat.pow_eq, decide_eq_true_eq]
  split <;> omega

theorem significand_lt (x : Double) : x.significand < 2 ^ 53 := by
  have fraction : x.fractionField < 2 ^ 52 := Nat.mod_lt _ (by decide)
  simp only [significand, Nat.pow_eq]
  split
  · omega
  · omega

theorem le_significand {x : Double} (doubled : 0 < x.doublings) : 2 ^ 52 ≤ x.significand := by
  simp only [doublings] at doubled
  have normal : x.exponentField ≠ 0 := by omega
  simp only [significand, normal, ↓reduceIte, Nat.pow_eq]
  omega

theorem value_eq (x : Double) :
    x.value = ((if x.isNegative then -1 else 1) * x.units : ℤ) / 2 ^ 1074 := by
  have scaled : x.scale = (x.doublings : ℤ) - 1074 := by
    simp only [scale, doublings]
    split
    · omega
    · omega
  have power : (2 : ℚ) ^ x.scale = 2 ^ x.doublings / 2 ^ 1074 := by
    rw [scaled, zpow_sub₀ (by decide), zpow_natCast]
    rfl
  simp only [value, units, power]
  generalize (2 : ℚ) ^ 1074 = whole
  push_cast
  split
  · ring
  · ring

theorem doublings_le {x y : Double} (same : x.units = y.units) : y.doublings ≤ x.doublings := by
  by_contra more
  obtain ⟨extra, apart⟩ : ∃ extra, y.doublings = x.doublings + 1 + extra :=
    ⟨y.doublings - x.doublings - 1, by omega⟩
  -- the number doubled more often is normal, so its significand alone is already too large
  have large : 2 ^ 52 ≤ y.significand := le_significand (by omega)
  have small := x.significand_lt
  have cancelled : x.significand = y.significand * 2 ^ (1 + extra) := by
    apply Nat.eq_of_mul_eq_mul_right (Nat.two_pow_pos x.doublings)
    rw [Nat.mul_assoc, ← Nat.pow_add, Nat.add_comm _ x.doublings, ← Nat.add_assoc, ← apart]
    exact same
  have doubled : 2 ≤ 2 ^ (1 + extra) := Nat.pow_le_pow_right Nat.two_pos (Nat.le_add_right 1 extra)
  have least := Nat.mul_le_mul large doubled
  omega

theorem fields_of_units {x y : Double} (same : x.units = y.units) :
    x.exponentField = y.exponentField ∧ x.fractionField = y.fractionField := by
  have doublings : x.doublings = y.doublings :=
    Nat.le_antisymm (doublings_le same.symm) (doublings_le same)
  have significands : x.significand = y.significand := by
    rw [units, units, doublings] at same
    exact Nat.eq_of_mul_eq_mul_right (Nat.two_pow_pos _) same
  have fraction (x : Double) : x.fractionField < Nat.pow 2 52 := Nat.mod_lt _ (by decide)
  have fractionX := fraction x
  have fractionY := fraction y
  -- the least normal numbers have the scale of the subnormal ones, and only they have a hidden one
  simp only [Double.doublings, significand] at doublings significands
  split at significands
  · split at significands
    · omega
    · omega
  · split at significands
    · omega
    · omega

theorem isZero_of_units {x : Double} (vanishes : x.units = 0) : x.isZero = true := by
  have significand : x.significand = 0 :=
    (Nat.mul_eq_zero.mp vanishes).resolve_right (Nat.two_pow_pos _).ne'
  simp only [Double.significand, Nat.pow_eq] at significand
  simp only [isZero, decide_eq_true_eq]
  split at significand
  · rename_i subnormal
    exact ⟨subnormal, significand⟩
  · omega

theorem value_of_isZero {x : Double} (zero : x.isZero = true) : x.value = 0 := by
  simp only [isZero, decide_eq_true_eq] at zero
  simp [value, significand, zero.1, zero.2]

def SameNumber (x y : Double) : Prop := x = y ∨ x.isZero ∧ y.isZero

instance (x y : Double) : Decidable (x.SameNumber y) := inferInstanceAs (Decidable (_ ∨ _))

theorem sameNumber_of_value {x y : Double} (same : x.value = y.value) : x.SameNumber y := by
  rw [value_eq, value_eq, div_left_inj' (by positivity), Int.cast_inj] at same
  have units : x.units = y.units := by
    split at same <;> split at same <;> omega
  by_cases vanishes : x.units = 0
  · exact .inr ⟨isZero_of_units vanishes, isZero_of_units (units ▸ vanishes)⟩
  · have signs : x.isNegative = y.isNegative := by
      by_contra differ
      split at same
      · have positive : y.isNegative = false := by simp_all
        simp only [positive, Bool.false_eq_true, ↓reduceIte] at same
        omega
      · have negative : y.isNegative = true := by simp_all
        simp only [negative, ↓reduceIte] at same
        omega
    obtain ⟨exponents, fractions⟩ := fields_of_units units
    have bits : x.bits.toNat = y.bits.toNat := by
      rw [bits_eq, bits_eq y, signs, exponents, fractions]
    cases x; cases y
    exact .inl (congrArg Double.mk (UInt64.toNat_inj.mp bits))

theorem sameNumber_iff {x y : Double} : x.SameNumber y ↔ x.value = y.value := by
  constructor
  · rintro (rfl | ⟨zero, zeroToo⟩)
    · rfl
    · rw [value_of_isZero zero, value_of_isZero zeroToo]
  · exact sameNumber_of_value

end Double

end CloudMonitoring
