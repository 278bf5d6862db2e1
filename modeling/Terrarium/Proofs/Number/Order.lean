import Mathlib.Algebra.Group.Int.Defs
import Mathlib.Algebra.Group.Nat.Defs
import Terrarium.Number.Binary64

/-!
Numbers that are not negative stand in the order of their bits, so a comparison of bits is one of
magnitudes.
-/

namespace Terrarium.Binary64

def smallest : Nat := 1074

/-- The magnitude of a number with these bits, in units of the smallest one above zero. -/
def unitsOf (bits : Nat) : Nat :=
  if bits / leadingBit = 0 then bits % leadingBit
  else (leadingBit + bits % leadingBit) * 2 ^ (bits / leadingBit - 1)

theorem unitsOf_lt {first second : Nat} (below : first < second) :
    unitsOf first < unitsOf second := by
  have rest (bits : Nat) : bits % leadingBit < leadingBit := Nat.mod_lt _ (by decide)
  have split (bits : Nat) : leadingBit * (bits / leadingBit) + bits % leadingBit = bits :=
    Nat.div_add_mod bits leadingBit
  have fields : first / leadingBit ≤ second / leadingBit :=
    Nat.div_le_div_right (Nat.le_of_lt below)
  have one := split first
  have other := split second
  have small := rest first
  unfold unitsOf
  rcases Nat.eq_or_lt_of_le fields with same | less
  · -- In one binade the significands decide.
    have fraction : first % leadingBit < second % leadingBit := by
      rw [same] at one
      omega
    rw [same]
    split
    · exact fraction
    · exact Nat.mul_lt_mul_of_pos_right (Nat.add_lt_add_left fraction _) (Nat.two_pow_pos _)
  · have later : second / leadingBit ≠ 0 := Nat.ne_zero_of_lt less
    have least : leadingBit * 2 ^ (second / leadingBit - 1) ≤
        (leadingBit + second % leadingBit) * 2 ^ (second / leadingBit - 1) :=
      Nat.mul_le_mul_right _ (Nat.le_add_right _ _)
    rw [if_neg later]
    refine Nat.lt_of_lt_of_le ?_ least
    split
    · -- Without a leading bit it is below every number that has one.
      exact Nat.lt_of_lt_of_le small (Nat.le_mul_of_pos_right _ (Nat.two_pow_pos _))
    · next lead =>
        calc (leadingBit + first % leadingBit) * 2 ^ (first / leadingBit - 1)
            < (2 * leadingBit) * 2 ^ (first / leadingBit - 1) :=
              Nat.mul_lt_mul_of_pos_right (by omega) (Nat.two_pow_pos _)
          _ = leadingBit * 2 ^ (first / leadingBit) := by
              rw [Nat.mul_comm 2, Nat.mul_assoc, ← Nat.pow_succ',
                Nat.succ_eq_add_one, Nat.sub_add_cancel (Nat.pos_of_ne_zero lead)]
          _ ≤ leadingBit * 2 ^ (second / leadingBit - 1) :=
              Nat.mul_le_mul_left _ (Nat.pow_le_pow_right Nat.two_pos (Nat.le_sub_one_of_lt less))

theorem unitsOf_lt_iff {first second : Nat} :
    unitsOf first < unitsOf second ↔ first < second := by
  refine ⟨fun less => ?_, unitsOf_lt⟩
  rcases Nat.lt_trichotomy first second with below | rfl | above
  · exact below
  · exact absurd less (Nat.lt_irrefl _)
  · exact absurd (unitsOf_lt above) (Nat.lt_asymm less)

section Ratios
variable {x y : Binary64}

theorem bits_lt_of_positive (positive : x.isNegative = false) :
    x.bits.toNat < 0x8000000000000000 := by
  have below : ¬ (0x8000000000000000 : UInt64) ≤ x.bits := by simpa [isNegative] using positive
  exact Nat.lt_of_not_le fun above => below (UInt64.le_iff_toNat_le.mpr above)

theorem exponentField_of_positive (positive : x.isNegative = false) :
    x.exponentField = x.bits.toNat / leadingBit := by
  have few := bits_lt_of_positive positive
  refine Nat.mod_eq_of_lt ?_
  rw [leadingBit]
  omega

theorem ratio_units (positive : x.isNegative = false) :
    x.ratio.1 * 2 ^ smallest = unitsOf x.bits.toNat * x.ratio.2 := by
  have field := exponentField_of_positive positive
  have units : unitsOf x.bits.toNat = x.significand * 2 ^ (max x.exponentField 1 - 1) := by
    unfold unitsOf significand fractionField
    rw [field]
    split
    · next none => simp [none]
    · next some => rw [Nat.max_eq_left (Nat.pos_of_ne_zero some)]
  have whole : 1 ≤ max x.exponentField 1 := Nat.le_max_right _ _
  rw [units]
  simp only [ratio, exponent, Nat.pow_eq]
  generalize max x.exponentField 1 = field at whole
  by_cases large : 1075 ≤ field
  · have up : ((field : Int) - 1075).toNat = field - 1075 := by omega
    have down : (-((field : Int) - 1075)).toNat = 0 := by omega
    rw [up, down, Nat.pow_zero, Nat.mul_one, Nat.mul_assoc, ← Nat.pow_add]
    congr 2
    rw [smallest]
    omega
  · have up : ((field : Int) - 1075).toNat = 0 := by omega
    have down : (-((field : Int) - 1075)).toNat = 1075 - field := by omega
    rw [up, down, Nat.pow_zero, Nat.mul_one, Nat.mul_assoc, ← Nat.pow_add]
    congr 2
    rw [smallest]
    omega

theorem ratio_pos (x : Binary64) : 0 < x.ratio.2 := Nat.two_pow_pos _

/-- The order of the bits of two numbers that are not negative is that of their magnitudes. -/
theorem bits_lt_iff (first : x.isNegative = false) (second : y.isNegative = false) :
    x.bits < y.bits ↔ x.ratio.1 * y.ratio.2 < y.ratio.1 * x.ratio.2 := by
  rw [UInt64.lt_iff_toNat_lt, ← unitsOf_lt_iff]
  have scaled : x.ratio.1 * y.ratio.2 < y.ratio.1 * x.ratio.2 ↔
      x.ratio.1 * y.ratio.2 * 2 ^ smallest < y.ratio.1 * x.ratio.2 * 2 ^ smallest :=
    (Nat.mul_lt_mul_right (Nat.two_pow_pos _)).symm
  have left : x.ratio.1 * y.ratio.2 * 2 ^ smallest =
      unitsOf x.bits.toNat * (x.ratio.2 * y.ratio.2) := by
    rw [Nat.mul_right_comm, ratio_units first, Nat.mul_assoc]
  have right : y.ratio.1 * x.ratio.2 * 2 ^ smallest =
      unitsOf y.bits.toNat * (x.ratio.2 * y.ratio.2) := by
    rw [Nat.mul_right_comm, ratio_units second, Nat.mul_assoc, Nat.mul_comm y.ratio.2]
  rw [scaled, left, right]
  exact (Nat.mul_lt_mul_right (Nat.mul_pos x.ratio_pos y.ratio_pos)).symm

end Ratios
end Terrarium.Binary64
