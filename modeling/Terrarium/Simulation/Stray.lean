import Terrarium.Simulation.Operation
import Terrarium.Simulation.RunLoop

/-!
Simulations in which organisms may stand between cells. Such a stray is there like any other
organism until it is to execute: no cell can be read under it, and the cycle fails. Its place
in the simulation is only a mark, so it is shown by its spot.
-/

namespace Terrarium

structure Planted where
  simulation : Simulation
  strays : List (SlotId × Spot) := []

namespace Planted

def isStray (p : Planted) (slot : SlotId) : Bool := p.strays.any (·.1 == slot)

def spot? (p : Planted) (slot : SlotId) : Option Spot := p.strays.lookup slot

/-- A cycle goes as far as the first stray whose turn it is. -/
def cycle (p : Planted) (s : Simulation) : Attempt Simulation Unit :=
  match s.ready.find? p.isStray with
  | none => s.stepCycle
  | some stray =>
      (Attempt.forEach Simulation.executeSlot (s.ready.takeWhile (· ≠ stray)) s).andThen
        fun s _ => .fail s .betweenCells

def runCycles (p : Planted) (s : Simulation) (count : Int) : Attempt Simulation Unit :=
  s.runCyclesAs p.cycle count

def run (p : Planted) (schedule : List (List Call)) : Attempt Watched Unit :=
  p.simulation.runAs p.cycle schedule

def perform (p : Planted) (s : Simulation) (operation : Operation) :
    Attempt Simulation Answer :=
  match operation with
  | .step => (p.cycle s).map fun _ => .nothing
  | .runCycles count => (p.runCycles s count).map fun _ => .nothing
  | operation => s.perform operation

def stray (p : Planted) (spot : Spot) (direction : Direction) : Attempt Planted Unit :=
  let s := p.simulation
  let spawned :=
    s.onPopulation (s.population.spawn s.settings.limits spot.mark direction)
  match spawned.answer with
  | .error fault => .fail { p with simulation := spawned.state } fault
  | .ok slot =>
      let metrics := { spawned.state.metrics with spawned := spawned.state.metrics.spawned + 1 }
      .tell { simulation := { spawned.state with metrics := metrics }
              strays := p.strays ++ [(slot, spot)] } (.strayed slot spot direction)

def spawn (p : Planted) (spot : Spot) (direction : Direction) : Attempt Planted Unit :=
  match spot.cell? with
  | none => p.stray spot direction
  | some cell =>
      ((p.simulation.spawn cell direction).inside fun s => { p with simulation := s }).map
        fun _ => ()

end Planted
end Terrarium
