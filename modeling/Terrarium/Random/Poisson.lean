import Terrarium.Random.Draw

/-!
Poisson counts. Small means multiply fractions until the product falls to `exp (-mean)`;
large ones use transformed rejection. Both work in machine floating point, and their
loops stop after a number of rounds that is never reached in practice.
-/

namespace Terrarium.Generator

def unit (g : Generator) : Float × Generator :=
  let (n, g) := g.fraction
  (n.toFloat * (1.0 / 9007199254740992.0), g)

def roundLimit : Nat := 100000

/-- How many fractions can be multiplied before the product is at most `threshold`. -/
def countProducts (threshold : Float) : Nat → Float → Nat → Generator → Nat × Generator
  | 0, _, count, g => (count, g)
  | fuel + 1, product, count, g =>
      let (u, g) := g.unit
      let product := product * u
      if threshold < product then countProducts threshold fuel product (count + 1) g
      else (count, g)

/-- Coefficients of the series for the logarithm of the gamma function, last first. -/
def gammaSeries : List Float :=
  [-1.39243221690590e+00, 1.796443723688307e-01, -2.955065359477124e-02,
   6.410256410256410e-03, -1.917526917526918e-03, 8.417508417508418e-04,
   -5.952380952380952e-04, 7.936507936507937e-04, -2.777777777777778e-03,
   8.333333333333333e-02]

def stepDown : Nat → Float → Float → Float
  | 0, _, value => value
  | steps + 1, x, value => stepDown steps (x - 1.0) (value - (x - 1.0).log)

/-- The logarithm of the gamma function at a positive whole number. Below seven the
series is taken at seven and brought down. -/
def logGamma (n : Nat) : Float :=
  if n = 1 ∨ n = 2 then 0.0
  else
    let steps := 7 - n
    let x := (n + steps).toFloat
    let x2 := (1.0 / x) * (1.0 / x)
    let sum := gammaSeries.foldl (fun sum coefficient => sum * x2 + coefficient) 0.0
    let value := sum / x + 0.5 * 1.8378770664093453 + (x - 0.5) * x.log - x
    stepDown steps x value

structure Rejection where
  mean : Float
  logMean : Float
  b : Float
  a : Float
  inverseAlpha : Float
  vr : Float

def Rejection.ofMean (mean : Float) : Rejection :=
  let b := 0.931 + 2.53 * mean.sqrt
  { mean := mean
    logMean := mean.log
    b := b
    a := -0.059 + 0.02483 * b
    inverseAlpha := 1.1239 + 1.1328 / (b - 3.4)
    vr := 0.9277 - 3.6224 / (b - 2.0) }

def Rejection.accept (r : Rejection) (u v : Float) : Option Nat :=
  let u := u - 0.5
  let us := 0.5 - u.abs
  let proposed := ((2.0 * r.a / us + r.b) * u + r.mean + 0.43).floor
  if ¬ (0.0 ≤ proposed ∧ proposed < 9223372036854775808.0) then none
  else
    let k := (Binary64.ofFloat proposed).floor
    if 0.07 ≤ us ∧ v ≤ r.vr then some k
    else if us < 0.013 ∧ us < v then none
    else if v.log + r.inverseAlpha.log - (r.a / (us * us) + r.b).log ≤
        -r.mean + k.toFloat * r.logMean - logGamma (k + 1) then some k
    else none

def rejectionCount (r : Rejection) : Nat → Generator → Nat × Generator
  | 0, g => (0, g)
  | fuel + 1, g =>
      let (u, g) := g.unit
      let (v, g) := g.unit
      match r.accept u v with
      | some k => (k, g)
      | none => rejectionCount r fuel g

def poisson (mean : Binary64) (g : Generator) : Nat × Generator :=
  let mean := mean.toFloat
  if mean < 10.0 then countProducts (Float.exp (-mean)) roundLimit 1.0 0 g
  else rejectionCount (Rejection.ofMean mean) roundLimit g

end Terrarium.Generator
