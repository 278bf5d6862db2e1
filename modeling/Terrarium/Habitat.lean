import Terrarium.Attempt
import Terrarium.Random.Poisson
import Terrarium.Settings.Basic
import Terrarium.Torus.Grid

/-!
What organisms live on: the grid, and the noise that corrupts it. All noise draws
from one generator, in a fixed order:

* a write of `k` bytes draws `k` trials when each write is tried, then one byte for
  every hit; tried as one instruction it draws one trial, then `k` bytes on a hit;
* cosmic rays draw their number, then column, row and byte of each strike.

Noise that is off draws nothing.
-/

namespace Terrarium

structure Habitat where
  grid : Grid
  generator : Generator
  writeErrors : Nat := 0
  strikes : Nat := 0

/-- Whether the fraction `draw / fractionCount` is below a finite positive number. -/
def Binary64.exceeds (x : Binary64) (draw : Nat) : Bool :=
  draw * x.ratio.2 < x.ratio.1 * Generator.fractionCount

def Binary64.remainderExceeds (x : Binary64) (draw : Nat) : Bool :=
  draw * x.ratio.2 < x.remainder * Generator.fractionCount

namespace NoiseSettings

/-- The probability that a write is corrupted, none when write errors are off. It is
the nearest binary fraction to `1 / n`, and `n` itself is rounded first. -/
def writeErrorProbability (noise : NoiseSettings) : Except Fault (Option Binary64) :=
  match noise.writeErrorChance with
  | none => .ok none
  | some 0 => .ok none
  | some n =>
      let divisor := Binary64.ofRatio n 1
      if divisor.isInfinite then .error .integerTooLarge
      else .ok (some (Binary64.ofRatio divisor.ratio.2 divisor.ratio.1))

/-- Means above this have no Poisson count. -/
def largestMean : Binary64 := ⟨0x43DFFFFFFE3B73A0⟩

end NoiseSettings

def replaceHits : List UInt8 → List Bool → List UInt8 → List UInt8
  | _ :: values, true :: hits, byte :: bytes => byte :: replaceHits values hits bytes
  | value :: values, _ :: hits, bytes => value :: replaceHits values hits bytes
  | values, _, _ => values

namespace Habitat

def trials (scope : WriteErrorScope) (p : Binary64) (count : Nat) (g : Generator) :
    List Bool × Generator :=
  match scope with
  | .perInstruction =>
      let (draw, g) := g.fraction
      (List.replicate count (p.exceeds draw), g)
  | .perWrite =>
      let (draws, g) := g.fractions count
      (draws.map p.exceeds, g)

def corrupt (noise : NoiseSettings) (h : Habitat) (values : List UInt8) :
    Attempt Habitat (List UInt8) :=
  match noise.writeErrorProbability with
  | .error fault => .fail h fault
  | .ok none => .done h values
  | .ok (some p) =>
      if values.isEmpty then .done h values
      else
        let (hits, g) := trials noise.writeErrorScope p values.length h.generator
        let count := hits.count true
        if count = 0 then .done { h with generator := g } values
        else
          let (bytes, g) := g.bytes count
          { state := { h with generator := g, writeErrors := h.writeErrors + count }
            events := [.writeErrors count]
            answer := .ok (replaceHits values hits bytes) }

def write (noise : NoiseSettings) (h : Habitat) (p : Point) (value : UInt8) :
    Attempt Habitat Unit :=
  (h.corrupt noise [value]).andThen fun h landed =>
    .done { h with grid := h.grid.write p (landed.headD value) } ()

def writeSquare (noise : NoiseSettings) (h : Habitat) (center : Point) (buffer : List UInt8) :
    Attempt Habitat Unit :=
  (h.corrupt noise buffer).andThen fun h landed =>
    match h.grid.writeSquare center landed with
    | .ok grid => .done { h with grid := grid } ()
    | .error fault => .fail h fault

/-- How many cosmic rays strike in one cycle. The expected number is the whole part
of the rate, and one more with the probability of the rest. -/
def strikeCount (noise : NoiseSettings) (h : Habitat) : Attempt Habitat Nat :=
  let rate := noise.cosmicRayRate
  if rate.isZero then .done h 0
  else
    match noise.cosmicRayMode with
    | .poisson =>
        if NoiseSettings.largestMean.bits < rate.bits then .fail h .rateTooLarge
        else
          let (count, g) := h.generator.poisson rate
          .done { h with generator := g } count
    | .expected =>
        if rate.isInfinite then .fail h .infiniteRate
        else if rate.remainder = 0 then .done h rate.floor
        else
          let (draw, g) := h.generator.fraction
          .done { h with generator := g }
            (if rate.remainderExceeds draw then rate.floor + 1 else rate.floor)

def strike (h : Habitat) : Habitat :=
  let (x, g) := h.generator.below h.grid.width
  let (y, g) := g.below h.grid.height
  let (value, g) := g.below 256
  { h with grid := h.grid.write ⟨x, y⟩ value.toUInt8, generator := g }

def strikeTimes : Nat → Habitat → Habitat
  | 0, h => h
  | count + 1, h => strikeTimes count h.strike

def cosmicRays (noise : NoiseSettings) (h : Habitat) : Attempt Habitat Nat :=
  (h.strikeCount noise).andThen fun h count =>
    let struck := strikeTimes count h
    { state := { struck with strikes := struck.strikes + count }
      events := if count = 0 then [] else [.strikes count]
      answer := .ok count }

end Habitat
end Terrarium
