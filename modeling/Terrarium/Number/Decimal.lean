import Terrarium.Number.Binary64

/-!
Decimal text of binary numbers: the fewest digits that read back as the same
number, and of those the nearest to it.
-/

namespace Terrarium

structure Decimal where
  digits : Nat
  exponent : Int
deriving DecidableEq

namespace Decimal

def digitCount (n : Nat) : Nat := if n = 0 then 0 else (Nat.toDigits 10 n).length

def compareRatio (d : Decimal) (num den : Nat) : Ordering :=
  compare (d.digits * Nat.pow 10 d.exponent.toNat * den) (num * Nat.pow 10 (-d.exponent).toNat)

/-- The reals that round to a positive finite number reach half way to both of its
neighbours, and hold the two ends exactly when its significand is even. Below a
power of two the lower neighbour is half as far away. Ends are in quarters of the
last place. -/
def readsBack (x : Binary64) (d : Decimal) : Bool :=
  let m := x.significand
  let low := if m = Binary64.leadingBit ∧ 1 < x.exponentField then 4 * m - 1 else 4 * m - 2
  let up := Nat.pow 2 x.exponent.toNat
  let down := 4 * Nat.pow 2 (-x.exponent).toNat
  let above := d.compareRatio (low * up) down
  let below := d.compareRatio ((4 * m + 2) * up) down
  let closed := m % 2 == 0
  (above == .gt || (closed && above == .eq)) && (below == .lt || (closed && below == .eq))

/-- The least `k` with `num / den < 10 ^ k`, of a positive ratio. -/
def scale (num den : Nat) : Int :=
  if den ≤ num then digitCount (num / den) else 1 - digitCount ((den - 1) / num)

def neighbours (num den : Nat) (grid : Int) : Decimal × Decimal :=
  let lower := num * Nat.pow 10 (-grid).toNat / (den * Nat.pow 10 grid.toNat)
  (⟨lower, grid⟩, ⟨lower + 1, grid⟩)

/-- The neighbour on the grid that reads back; of two the nearer, a tie to even. -/
def onGrid (x : Binary64) (grid : Int) : Option Decimal :=
  let (num, den) := x.ratio
  let (lower, upper) := neighbours num den grid
  match readsBack x lower, readsBack x upper with
  | false, false => none
  | true, false => some lower
  | false, true => some upper
  | true, true =>
      match Decimal.compareRatio ⟨lower.digits + upper.digits, grid⟩ (2 * num) den with
      | .gt => some lower
      | .lt => some upper
      | .eq => some (if lower.digits % 2 = 0 then lower else upper)

def stripZeros : Nat → Decimal → Decimal
  | 0, d => d
  | fuel + 1, d =>
      if d.digits ≠ 0 ∧ d.digits % 10 = 0 then
        stripZeros fuel ⟨d.digits / 10, d.exponent + 1⟩
      else d

/-- The shortest decimal of a positive finite number. Seventeen digits always
suffice; were they not to, the exact value would be written out. -/
def shortest (x : Binary64) : Decimal :=
  let (num, den) := x.ratio
  let top := scale num den
  let found := (List.range 17).findSome? fun n => onGrid x (top - (n + 1 : Nat))
  let exact : Decimal :=
    ⟨x.significand * Nat.pow 2 x.exponent.toNat * Nat.pow 5 (-x.exponent).toNat,
      -((-x.exponent).toNat : Int)⟩
  let d := found.getD exact
  stripZeros (digitCount d.digits) d

end Decimal

structure NumberStyle where
  positionalFrom : Int
  positionalBelow : Int
  exponentWidth : Nat

namespace NumberStyle

def padLeft (width : Nat) (text : String) : String :=
  "".pushn '0' (width - text.length) ++ text

/-- The digits with a point after the first `place` of them. A whole number keeps
one zero after its point. -/
def positional (digits : String) (place : Int) : String :=
  let length := digits.length
  if place ≤ 0 then "0." ++ "".pushn '0' (-place).toNat ++ digits
  else if (length : Int) ≤ place then
    digits ++ "".pushn '0' (place.toNat - length) ++ ".0"
  else String.ofList (digits.toList.take place.toNat) ++ "." ++
    String.ofList (digits.toList.drop place.toNat)

def scientific (style : NumberStyle) (digits : String) (leading : Int) : String :=
  let tail := String.ofList (digits.toList.drop 1)
  let sign := if leading < 0 then "-" else "+"
  String.ofList (digits.toList.take 1) ++ (if tail.isEmpty then "" else "." ++ tail) ++ "e" ++
    sign ++ padLeft style.exponentWidth (toString leading.natAbs)

def magnitude (style : NumberStyle) (x : Binary64) : String :=
  if x.isZero then "0.0" else
    let d := Decimal.shortest x
    let digits := toString d.digits
    let place := d.exponent + digits.length
    if style.positionalFrom < place ∧ place ≤ style.positionalBelow then
      positional digits place
    else scientific style digits (place - 1)

def render (style : NumberStyle) (x : Binary64) : String :=
  if x.isNaN then "nan"
  else
    (if x.isNegative then "-" else "") ++
      (if x.isInfinite then "inf" else style.magnitude x)

/-- Numbers in logs and messages are positional from `0.0001` and below `10 ^ 16`,
otherwise scientific with a signed exponent of at least two digits. -/
def report : NumberStyle where
  positionalFrom := -4
  positionalBelow := 16
  exponentWidth := 2

end NumberStyle
end Terrarium
