import Terrarium.Number.Binary64

/-!
The settings of a simulation. World settings are fixed when it is built; run settings
may change between cycles.
-/

namespace Terrarium

inductive WriteErrorScope where
  | perWrite
  | perInstruction
deriving DecidableEq

def WriteErrorScope.name : WriteErrorScope → String
  | perWrite => "per_write"
  | perInstruction => "per_instruction"

inductive CosmicRayMode where
  | expected
  | poisson
deriving DecidableEq

def CosmicRayMode.name : CosmicRayMode → String
  | expected => "expected"
  | poisson => "poisson"

/-- A write error chance of `n` corrupts one write in `n`; none and zero are off. -/
structure NoiseSettings where
  writeErrorChance : Option Nat := none
  writeErrorScope : WriteErrorScope := .perWrite
  cosmicRayRate : Binary64 := Binary64.zero
  cosmicRayMode : CosmicRayMode := .expected
deriving DecidableEq

/-- Population cap, and the lifespan and child budget of newcomers; none is unlimited. -/
structure Limits where
  maxPopulation : Option Nat := none
  lifespan : Option Nat := none
  maxChildren : Option Nat := none
deriving DecidableEq

structure RunSettings where
  cycleSpeed : Nat := 100
  noise : NoiseSettings := {}
  limits : Limits := {}
  autoDedupPeriod : Nat := 0
  instructionCosts : Bool := false
  logInterval : Nat := 100
  maxCycles : Option Nat := none
deriving DecidableEq

structure WorldSettings where
  width : Nat := 500
  height : Nat := 500
  fill : UInt8 := 1
  seed : Option Nat := none
deriving DecidableEq

end Terrarium
