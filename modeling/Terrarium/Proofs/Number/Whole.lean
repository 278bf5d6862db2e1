import Terrarium.Proofs.Number.Order

/-!
Whole numbers as binary fractions. A whole number has its sign, and is carried to one that is finite
unless it is halfway or more from the largest of these to the next power of two.
-/

namespace Terrarium.Binary64

@[irreducible] def halfUnit : Nat := 970

/-- The least whole number that is rounded to infinity: half a unit below the power of two that
would follow on the largest finite number. -/
def overflow : Nat := (2 ^ 54 - 1) * 2 ^ halfUnit

def infiniteBits : Nat := 0x7FF0000000000000

section Bits
variable {x : Binary64}

theorem fields_eq (few : x.bits.toNat < 0x8000000000000000) :
    leadingBit * x.exponentField + x.fractionField = x.bits.toNat := by
  have split := Nat.div_add_mod x.bits.toNat leadingBit
  have field : x.exponentField = x.bits.toNat / leadingBit := by
    refine Nat.mod_eq_of_lt ?_
    rw [leadingBit]
    omega
  rw [field]
  exact split

theorem isNonnegative_of_few (few : x.bits.toNat ≤ infiniteBits) : x.isNonnegative = true := by
  have fields := fields_eq (Nat.lt_of_le_of_lt few (by decide))
  have small : ¬ (0x8000000000000000 : UInt64) ≤ x.bits := by
    rw [UInt64.le_iff_toNat_le]
    exact fun large => absurd (Nat.le_trans large few) (by decide)
  have number : ¬(x.exponentField = 0x7FF ∧ x.fractionField ≠ 0) := by
    rintro ⟨top, rest⟩
    rw [top] at fields
    unfold leadingBit at fields
    unfold infiniteBits at few
    omega
  simp only [isNonnegative, isNaN, isNegative, decide_eq_false number, decide_eq_false small]
  rfl

theorem isInfinite_iff_bits (few : x.bits.toNat ≤ infiniteBits) :
    x.isInfinite = true ↔ x.bits.toNat = infiniteBits := by
  have fields := fields_eq (Nat.lt_of_le_of_lt few (by decide))
  have rest : x.fractionField < leadingBit := Nat.mod_lt _ (by decide)
  simp only [isInfinite, decide_eq_true_eq]
  unfold infiniteBits at few ⊢
  unfold leadingBit at fields rest
  omega

theorem negate_bits (few : x.bits.toNat < 0x8000000000000000) :
    x.negate.bits.toNat = x.bits.toNat + 0x8000000000000000 := by
  have apart : x.bits.toNat ^^^ 2 ^ 63 = 2 ^ 63 + x.bits.toNat := by
    have joined := Nat.two_pow_add_eq_or_of_lt (i := 63) few 1
    rw [Nat.mul_one] at joined
    rw [joined]
    apply Nat.eq_of_testBit_eq
    intro place
    rw [Nat.testBit_xor, Nat.testBit_or, Nat.testBit_two_pow]
    by_cases top : 63 = place
    · subst top
      rw [Nat.testBit_lt_two_pow few]
      rfl
    · simp [top]
  have bits : x.negate.bits.toNat = x.bits.toNat ^^^ 2 ^ 63 := UInt64.toNat_xor _ _
  exact bits.trans (apart.trans (Nat.add_comm _ _))

theorem negate_isNonnegative (some : 0 < x.bits.toNat) (few : x.bits.toNat ≤ infiniteBits) :
    x.negate.isNonnegative = false := by
  have room : x.bits.toNat < 0x8000000000000000 := Nat.lt_of_le_of_lt few (by decide)
  have bits := negate_bits room
  have large : (0x8000000000000000 : UInt64) ≤ x.negate.bits := by
    rw [UInt64.le_iff_toNat_le, bits]
    exact Nat.le_add_left _ _
  have nonzero : ¬(x.negate.exponentField = 0 ∧ x.negate.fractionField = 0) := by
    unfold exponentField fractionField
    rw [bits]
    unfold leadingBit
    omega
  simp [isNonnegative, isNegative, isZero, large, nonzero]

end Bits

def wholeBits (n : Nat) : Nat :=
  (n.log2 + 1022) * leadingBit + roundHalfEven (n * 2 ^ (52 - n.log2)) (2 ^ (n.log2 - 52))

theorem leadingBit_le_shifted {n : Nat} (some : n ≠ 0) :
    leadingBit * 2 ^ (n.log2 - 52) ≤ n * 2 ^ (52 - n.log2) := by
  have leading : leadingBit = 2 ^ 52 := rfl
  rw [leading, ← Nat.pow_add]
  calc 2 ^ (52 + (n.log2 - 52))
      = 2 ^ n.log2 * 2 ^ (52 - n.log2) := by
        rw [← Nat.pow_add]
        congr 1
        omega
    _ ≤ n * 2 ^ (52 - n.log2) := Nat.mul_le_mul_right _ (Nat.log2_self_le some)

theorem shifted_lt (n : Nat) :
    n * 2 ^ (52 - n.log2) < 2 * leadingBit * 2 ^ (n.log2 - 52) :=
  calc n * 2 ^ (52 - n.log2)
      < 2 ^ (n.log2 + 1) * 2 ^ (52 - n.log2) :=
        Nat.mul_lt_mul_of_pos_right Nat.lt_log2_self (Nat.two_pow_pos _)
    _ = 2 * leadingBit * 2 ^ (n.log2 - 52) := by
        have leading : 2 * leadingBit = 2 ^ 53 := rfl
        rw [leading, ← Nat.pow_add, ← Nat.pow_add]
        congr 1
        omega

theorem ofRatio_whole {n : Nat} (some : n ≠ 0) :
    ofRatio n 1 = if infiniteBits ≤ wholeBits n then infinity else ⟨(wholeBits n).toUInt64⟩ := by
  have estimate : max ((Nat.log2 n : Int) - Nat.log2 1 - 52) (-1074) = (n.log2 : Int) - 52 := by
    have one : Nat.log2 1 = 0 := by decide
    rw [one]
    omega
  have up : ((n.log2 : Int) - 52).toNat = n.log2 - 52 := by omega
  have down : (-((n.log2 : Int) - 52)).toNat = 52 - n.log2 := by omega
  have scale : ((n.log2 : Int) - 52 + 1074).toNat = n.log2 + 1022 := by omega
  have fits := leadingBit_le_shifted some
  unfold ofRatio
  simp only [some, ↓reduceIte, estimate, up, down, fits, decide_true, scale, Nat.one_mul, Nat.pow_eq,
    wholeBits]
  split
  · next large => exact (if_pos large).symm
  · next small => exact (if_neg small).symm

theorem wholeBits_pos (n : Nat) : 0 < wholeBits n := by
  unfold wholeBits leadingBit
  omega

theorem ofRatio_whole_bits {n : Nat} (some : n ≠ 0) :
    (ofRatio n 1).bits.toNat = min infiniteBits (wholeBits n) := by
  rw [ofRatio_whole some]
  split
  · next large =>
      rw [Nat.min_eq_left large]
      rfl
  · next small =>
      have below : wholeBits n < infiniteBits := Nat.lt_of_not_le small
      rw [Nat.min_eq_right (Nat.le_of_lt below)]
      exact UInt64.toNat_ofNat_of_lt' (Nat.lt_trans below (by decide))

theorem roundHalfEven_bounds (num den : Nat) :
    num / den ≤ roundHalfEven num den ∧ roundHalfEven num den ≤ num / den + 1 := by
  unfold roundHalfEven
  dsimp only
  split <;> omega

/-- Rounding to an even multiple of `h` reaches a power of two from `h` below it on. -/
theorem roundHalfEven_top {n h : Nat} (positive : 0 < h) (most : n < 2 ^ 54 * h) :
    2 * leadingBit ≤ roundHalfEven n (2 * h) ↔ (2 ^ 54 - 1) * h ≤ n := by
  unfold roundHalfEven leadingBit
  have split := Nat.div_add_mod n (2 * h)
  have rest := Nat.mod_lt n (show 0 < 2 * h by omega)
  generalize n / (2 * h) = quotient at *
  generalize n % (2 * h) = remainder at *
  have few : quotient < 9007199254740992 := by
    refine Nat.lt_of_not_le fun many => ?_
    have large := Nat.mul_le_mul_left (2 * h) many
    omega
  rcases Nat.lt_or_ge quotient 9007199254740991 with small | last
  · have large := Nat.mul_le_mul_left (2 * h) (Nat.le_sub_one_of_lt small)
    dsimp only
    constructor
    · intro reached
      split at reached <;> omega
    · intro enough
      omega
  · have last : quotient = 9007199254740991 := by omega
    subst last
    dsimp only
    split <;> omega

theorem infiniteBits_le_wholeBits {n : Nat} (some : n ≠ 0) :
    infiniteBits ≤ wholeBits n ↔ overflow ≤ n := by
  have least : 2 ^ n.log2 ≤ n := Nat.log2_self_le some
  have most : n < 2 ^ (n.log2 + 1) := Nat.lt_log2_self
  have bounds := roundHalfEven_bounds (n * 2 ^ (52 - n.log2)) (2 ^ (n.log2 - 52))
  -- The significand lies between the leading bit and its double.
  have quotient : n * 2 ^ (52 - n.log2) / 2 ^ (n.log2 - 52) < 2 * leadingBit :=
    (Nat.div_lt_iff_lt_mul (Nat.two_pow_pos _)).mpr (shifted_lt n)
  have enough : leadingBit ≤ n * 2 ^ (52 - n.log2) / 2 ^ (n.log2 - 52) :=
    (Nat.le_div_iff_mul_le (Nat.two_pow_pos _)).mpr (leadingBit_le_shifted some)
  unfold wholeBits infiniteBits
  rcases Nat.lt_trichotomy n.log2 1023 with small | top | large
  · have room : n < 2 ^ 53 * 2 ^ halfUnit := by
      rw [← Nat.pow_add]
      exact Nat.lt_of_lt_of_le most (Nat.pow_le_pow_right Nat.two_pos (by unfold halfUnit; omega))
    have far : 2 ^ 53 * 2 ^ halfUnit ≤ overflow := by
      unfold overflow
      omega
    unfold leadingBit at quotient ⊢
    omega
  · have same : n * 2 ^ (52 - n.log2) = n := by simp [top]
    have scale : 2 ^ (n.log2 - 52) = 2 * 2 ^ halfUnit := by
      have down : n.log2 - 52 = 1 + halfUnit := by unfold halfUnit; omega
      rw [down, Nat.pow_add]
    rw [same, scale] at bounds quotient ⊢
    have below : n < 2 ^ 54 * 2 ^ halfUnit := by
      rw [← Nat.pow_add]
      exact Nat.lt_of_lt_of_le most (Nat.pow_le_pow_right Nat.two_pos (by unfold halfUnit; omega))
    rw [top, overflow, ← roundHalfEven_top (Nat.two_pow_pos halfUnit) below]
    unfold leadingBit at quotient ⊢
    omega
  · have same : n * 2 ^ (52 - n.log2) = n := by
      have none : 52 - n.log2 = 0 := by omega
      rw [none, Nat.pow_zero, Nat.mul_one]
    have room : 54 + halfUnit ≤ n.log2 := by unfold halfUnit; omega
    have far : overflow ≤ n :=
      calc overflow
          ≤ 2 ^ 54 * 2 ^ halfUnit := Nat.mul_le_mul_right _ (Nat.sub_le _ _)
        _ = 2 ^ (54 + halfUnit) := (Nat.pow_add 2 54 halfUnit).symm
        _ ≤ 2 ^ n.log2 := Nat.pow_le_pow_right Nat.two_pos room
        _ ≤ n := least
    rw [same] at bounds enough ⊢
    unfold leadingBit at enough ⊢
    omega

/-- A whole number keeps its sign, and is found too large from the overflow on. -/
theorem ofInt?_eq_none_iff {n : Int} : ofInt? n = none ↔ overflow ≤ n.natAbs := by
  by_cases zero : n = 0
  · subst zero
    have taken : ofInt? 0 = Option.some Binary64.zero := by decide
    have far : 0 < overflow := Nat.mul_pos (by decide) (Nat.two_pow_pos halfUnit)
    rw [taken, Int.natAbs_zero]
    simp only [reduceCtorEq, false_iff]
    omega
  · have some : n.natAbs ≠ 0 := by omega
    have bits := ofRatio_whole_bits some
    have few : (ofRatio n.natAbs 1).bits.toNat ≤ infiniteBits := by omega
    rw [← infiniteBits_le_wholeBits some]
    unfold ofInt?
    dsimp only
    by_cases large : (ofRatio n.natAbs 1).isInfinite = true
    · have reached := (isInfinite_iff_bits few).mp large
      simp only [large, ↓reduceIte, true_iff]
      omega
    · have below := mt (isInfinite_iff_bits few).mpr large
      rw [if_neg large]
      split <;> simp only [reduceCtorEq, false_iff] <;> omega

theorem ofInt?_isNonnegative {n : Int} {x : Binary64} (taken : ofInt? n = some x) :
    x.isNonnegative = true ↔ 0 ≤ n := by
  unfold ofInt? at taken
  dsimp only at taken
  split at taken
  · cases taken
  · split at taken
    · next negative =>
        cases taken
        have some : n.natAbs ≠ 0 := by omega
        have bits := ofRatio_whole_bits some
        have positive := wholeBits_pos n.natAbs
        have few : (ofRatio n.natAbs 1).bits.toNat ≤ infiniteBits := by omega
        have above : 0 < (ofRatio n.natAbs 1).bits.toNat := by
          unfold infiniteBits at bits
          omega
        rw [negate_isNonnegative above few]
        simp only [Bool.false_eq_true, false_iff]
        omega
    · next positive =>
        cases taken
        have few : (ofRatio n.natAbs 1).bits.toNat ≤ infiniteBits := by
          by_cases zero : n.natAbs = 0
          · rw [zero]
            decide
          · have bits := ofRatio_whole_bits zero
            omega
        rw [isNonnegative_of_few few]
        simp only [true_iff]
        omega

end Terrarium.Binary64
