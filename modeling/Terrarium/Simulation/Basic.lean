import Terrarium.Instruction.Execution
import Terrarium.Population.Basic
import Terrarium.Settings.Fields

/-!
A simulation: one habitat, one population, one generator seeded once. Everything it does
is a function of this record; what it reports are events that nothing here reads back,
except that removals are counted as they are reported.
-/

namespace Terrarium

/-- Besides its own state a simulation has the number of digits of the longest integer that can be
printed where its events are told, if there is a limit to them. -/
structure Simulation where
  seed : Nat
  settings : RunSettings
  remover : Remover
  habitat : Habitat
  population : Population
  metrics : Metrics
  cycle : Nat
  running : Bool
  paused : Bool
  digitLimit : Option Nat := none

def Metrics.witness (m : Metrics) (events : List Event) : Metrics :=
  (Event.removals events).foldl (fun m removal => m.recordRemoval removal.2.2 1) m

namespace Simulation

/-- A new simulation. A world without a seed takes the one offered. -/
def build (world : WorldSettings) (settings : RunSettings) (remover : Remover) (offered : Nat)
    (digitLimit : Option Nat := none) : Attempt Unit Simulation :=
  match Grid.build world.width world.height world.fill.toNat with
  | .error fault => .fail () fault
  | .ok grid =>
      let seed := world.seed.getD offered
      { state := ()
        events := [.built grid.width grid.height seed remover.title]
        answer := .ok {
          seed := seed
          settings := settings
          remover := remover
          habitat := { grid := grid, generator := Generator.ofSeed seed }
          population := .empty
          metrics := {}
          cycle := 0
          running := false
          paused := false
          digitLimit := digitLimit } }

def rules (s : Simulation) : Rules where
  noise := s.settings.noise
  instructionCosts := s.settings.instructionCosts

def grid (s : Simulation) : Grid := s.habitat.grid

def withGrid (s : Simulation) (grid : Grid) : Simulation :=
  { s with habitat := { s.habitat with grid := grid } }

def focus (s : Simulation) : Option SlotId := s.population.focus

def onPopulation {α : Type} (s : Simulation) (attempt : Attempt Population α) :
    Attempt Simulation α :=
  { state := { s with
      population := attempt.state
      metrics := s.metrics.witness attempt.events }
    events := attempt.events
    answer := attempt.answer }

def adopt (s : Simulation) (child : Organism) : Attempt Simulation SlotId :=
  (s.onPopulation (s.population.insertChild s.settings.limits child)).andThen fun s slot =>
    .done { s with metrics := { s.metrics with births := s.metrics.births + 1 } } slot

def adoptAll : List Organism → Simulation → Attempt Simulation (List SlotId)
  | [], s => .done s []
  | child :: rest, s =>
      (s.adopt child).andThen fun s slot =>
        (adoptAll rest s).map fun slots => slot :: slots

def syncMetrics (s : Simulation) : Simulation :=
  { s with metrics := { s.metrics with
      cycles := s.cycle
      writeErrors := s.habitat.writeErrors
      strikes := s.habitat.strikes } }

def status (s : Simulation) : Status where
  running := s.running
  paused := s.paused
  population := s.population.size
  focus := s.focus
  metrics := s.metrics

end Simulation
end Terrarium
