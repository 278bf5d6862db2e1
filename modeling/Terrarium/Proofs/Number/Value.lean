import Mathlib.Algebra.Order.Field.Rat
import Mathlib.Algebra.Order.Floor.Semifield
import Mathlib.Data.Rat.Floor
import Mathlib.Tactic.FieldSimp
import Terrarium.Proofs.Number.Order

/-!
The rational number that a finite binary fraction stands for. Its whole part, what it has above that
and its place among others are those that are computed from significand and exponent.
-/

namespace Terrarium.Binary64

def value (x : Binary64) : ℚ :=
  (if x.isNegative then -1 else 1) * x.significand * 2 ^ x.exponent

section Values
variable {x y : Binary64}

theorem value_eq_zero_iff : x.value = 0 ↔ x.isZero = true := by
  have sign : (if x.isNegative = true then (-1 : ℚ) else 1) ≠ 0 := by split <;> decide
  have scale : (2 : ℚ) ^ x.exponent ≠ 0 := zpow_ne_zero _ two_ne_zero
  simp only [value, mul_eq_zero, sign, scale, Nat.cast_eq_zero, false_or, or_false, isZero,
    decide_eq_true_eq, significand]
  split
  · next small => simp [small]
  · next large => simp [large, leadingBit]

theorem ratio_cast_pos (x : Binary64) : (0 : ℚ) < x.ratio.2 := Nat.cast_pos.mpr x.ratio_pos

theorem value_eq_ratio (positive : x.isNegative = false) :
    x.value = (x.ratio.1 : ℚ) / x.ratio.2 := by
  simp only [value, positive, ratio, Nat.pow_eq, Bool.false_eq_true, if_false, one_mul]
  generalize x.exponent = e
  obtain ⟨n, rfl | rfl⟩ := Int.eq_nat_or_neg e
  · simp
  · simp [div_eq_mul_inv]

theorem bits_lt_iff_value (first : x.isNegative = false) (second : y.isNegative = false) :
    x.bits < y.bits ↔ x.value < y.value := by
  rw [bits_lt_iff first second, value_eq_ratio first, value_eq_ratio second,
    div_lt_div_iff₀ x.ratio_cast_pos y.ratio_cast_pos]
  norm_cast

theorem floor_value (positive : x.isNegative = false) : ⌊x.value⌋₊ = x.floor := by
  rw [value_eq_ratio positive, Nat.floor_div_eq_div]
  rfl

theorem value_sub_floor (positive : x.isNegative = false) :
    x.value - ⌊x.value⌋₊ = (x.remainder : ℚ) / x.ratio.2 := by
  have split : (x.ratio.1 : ℚ) = x.ratio.2 * x.floor + x.remainder := by
    exact_mod_cast (Nat.div_add_mod x.ratio.1 x.ratio.2).symm
  have some := x.ratio_cast_pos.ne'
  rw [floor_value positive, value_eq_ratio positive, split]
  field_simp
  ring

/-- A number is whole if nothing is left above its whole part. -/
theorem value_eq_natCast_iff (positive : x.isNegative = false) (n : Nat) :
    x.value = n ↔ x.remainder = 0 ∧ x.floor = n := by
  have rest := value_sub_floor positive
  rw [floor_value positive] at rest
  constructor
  · intro whole
    have floor : x.floor = n := by rw [← floor_value positive, whole, Nat.floor_natCast]
    rw [whole, floor, sub_self, eq_comm, div_eq_zero_iff] at rest
    exact ⟨Nat.cast_eq_zero.mp (rest.resolve_right x.ratio_cast_pos.ne'), floor⟩
  · rintro ⟨none, rfl⟩
    rwa [none, Nat.cast_zero, zero_div, sub_eq_zero] at rest

end Values
end Terrarium.Binary64
