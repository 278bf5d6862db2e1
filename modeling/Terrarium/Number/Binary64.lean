/-!
Sixty-four bit binary floating point numbers as data. A finite number is
`± significand · 2 ^ exponent`; every decision about one is made in exact
arithmetic on these two, so none rests on the machine's own operations.
-/

namespace Terrarium

def roundHalfEven (num den : Nat) : Nat :=
  let quotient := num / den
  let rest := 2 * (num % den)
  if den < rest ∨ (rest = den ∧ quotient % 2 = 1) then quotient + 1 else quotient

structure Binary64 where
  bits : UInt64
deriving DecidableEq

namespace Binary64

def zero : Binary64 := ⟨0⟩
def infinity : Binary64 := ⟨0x7FF0000000000000⟩
def notANumber : Binary64 := ⟨0x7FF8000000000000⟩

def isNegative (x : Binary64) : Bool := 0x8000000000000000 ≤ x.bits

def negate (x : Binary64) : Binary64 := ⟨x.bits ^^^ 0x8000000000000000⟩

/-- The leading bit of a significand, which only small numbers lack. -/
def leadingBit : Nat := 0x10000000000000

def exponentField (x : Binary64) : Nat := x.bits.toNat / leadingBit % 0x800

def fractionField (x : Binary64) : Nat := x.bits.toNat % leadingBit

def isNaN (x : Binary64) : Bool := x.exponentField = 0x7FF ∧ x.fractionField ≠ 0

def isInfinite (x : Binary64) : Bool := x.exponentField = 0x7FF ∧ x.fractionField = 0

def isFinite (x : Binary64) : Bool := x.exponentField ≠ 0x7FF

def significand (x : Binary64) : Nat :=
  if x.exponentField = 0 then x.fractionField else leadingBit + x.fractionField

def exponent (x : Binary64) : Int := (max x.exponentField 1 : Nat) - 1075

def isZero (x : Binary64) : Bool := x.exponentField = 0 ∧ x.fractionField = 0

/-- Not below zero. Negative zero is not below zero, and a NaN is not above it. -/
def isNonnegative (x : Binary64) : Bool :=
  !x.isNaN && (!x.isNegative || x.isZero)

def ratio (x : Binary64) : Nat × Nat :=
  (x.significand * Nat.pow 2 x.exponent.toNat, Nat.pow 2 (-x.exponent).toNat)

def floor (x : Binary64) : Nat := x.ratio.1 / x.ratio.2

/-- What the magnitude has above its whole part, in units of `1 / x.ratio.2`. -/
def remainder (x : Binary64) : Nat := x.ratio.1 % x.ratio.2

def isWhole (x : Binary64) : Bool := x.isFinite && x.remainder == 0

def toInt (x : Binary64) : Int := if x.isNegative then -x.floor else x.floor

/-- The number nearest to `num / den`, ties to even. The bits of a magnitude grow
with its value, so a rounding that carries into the next binade needs no repair
and one that carries past the largest number is infinity. -/
def ofRatio (num den : Nat) : Binary64 :=
  if num = 0 then zero else
    let top : Int → Nat := fun q => num * Nat.pow 2 (-q).toNat
    let bottom : Int → Nat := fun q => den * Nat.pow 2 q.toNat
    let fits : Int → Bool := fun q => leadingBit * bottom q ≤ top q
    let estimate := max ((Nat.log2 num : Int) - Nat.log2 den - 52) (-1074)
    let q := if fits estimate then estimate else max (estimate - 1) (-1074)
    let magnitude := (q + 1074).toNat * leadingBit + roundHalfEven (top q) (bottom q)
    if 0x7FF0000000000000 ≤ magnitude then infinity else ⟨magnitude.toUInt64⟩

def ofInt? (n : Int) : Option Binary64 :=
  let magnitude := ofRatio n.natAbs 1
  if magnitude.isInfinite then none
  else if n < 0 then some magnitude.negate else some magnitude

/-- The nearest number to `digits · 10 ^ exponent`. Exponents so far out that the
result is zero or infinity whatever the digits are not written out. -/
def ofDecimal (digits : Nat) (exponent : Int) : Binary64 :=
  let leading := exponent + (Nat.toDigits 10 digits).length
  if digits = 0 ∨ leading < -330 then zero
  else if 310 < leading then infinity
  else ofRatio (digits * Nat.pow 10 exponent.toNat) (Nat.pow 10 (-exponent).toNat)

/-- The remainder of a number by a positive whole one, which has the sign of the latter. That
of a negative number is a difference, and is rounded. -/
def modulo (x : Binary64) (side : Nat) : Binary64 :=
  if !x.isFinite then notANumber
  else
    let rest := x.ratio.1 % (side * x.ratio.2)
    if rest = 0 then zero
    else if x.isNegative then ofRatio (side * x.ratio.2 - rest) x.ratio.2
    else ofRatio rest x.ratio.2

def addNat (x : Binary64) (n : Nat) : Binary64 :=
  if !x.isFinite then x
  else
    let top : Int := (if x.isNegative then -1 else 1) * x.ratio.1 + n * x.ratio.2
    let magnitude := ofRatio top.natAbs x.ratio.2
    if top < 0 then magnitude.negate else magnitude

def toFloat (x : Binary64) : Float := Float.ofBits x.bits

def ofFloat (x : Float) : Binary64 := ⟨x.toBits⟩

end Binary64
end Terrarium
