import Terrarium.Simulation.Control

/-!
Everything that can be asked of a simulation between cycles, as data, and a history of
such requests as a fold.
-/

namespace Terrarium

inductive Operation where
  | step
  | runCycles (count : Int)
  | pause
  | resume
  | stop
  | spawn (p : Point) (direction : Direction)
  | insert (o : Organism)
  | writeByte (p : Point) (value : Int)
  | writeInstruction (p : Point) (mnemonic : String)
  | writeInstructions (p : Point) (mnemonics : List String)
  | setFocus (slot : Option SlotId)
  | focusOrdinal (ordinal : Int)
  | killFocused
  | moveCursor (direction : Direction) (steps : Int)
  | moveIp (direction : Direction) (steps : Int)
  | runFocused (mnemonics : List String)
  | dedup
  | set (knob : Knob) (v : Value)
  | setSpeed (v : Value)
  | seed
  | focus
  | ordinal (ordinal : Int)
  | list
  | status
  | isRunning
  | grid
  | generator
  | settings

inductive Answer where
  | nothing
  | truth (b : Bool)
  | number (n : Nat)
  | taken (steps : Option Nat)
  | handle (slot : Option SlotId)
  | views (views : List View)
  | status (status : Status)
  | report (report : Option RunReport)
  | grid (grid : Grid)
  | generator (generator : Generator)
  | settings (settings : RunSettings)

namespace Simulation

def perform (s : Simulation) : Operation → Attempt Simulation Answer
  | .step => s.stepCycle.map fun _ => .nothing
  | .runCycles count => (s.runCycles count).map fun _ => .nothing
  | .pause => .done s.pause .nothing
  | .resume => .done s.resume .nothing
  | .stop => .done s.stop .nothing
  | .spawn p direction => (s.spawn p direction).map fun slot => .handle (some slot)
  | .insert o => (s.insert o).map fun slot => .handle (some slot)
  | .writeByte p value => (s.writeByte p value).map fun _ => .nothing
  | .writeInstruction p mnemonic => (s.writeInstruction p mnemonic).map fun _ => .nothing
  | .writeInstructions p mnemonics => (s.writeInstructions p mnemonics).map fun _ => .nothing
  | .setFocus slot => (s.setFocus slot).map .truth
  | .focusOrdinal ordinal => (s.setFocus (s.population.slotFor ordinal)).map .truth
  | .killFocused => s.killFocused.map .truth
  | .moveCursor direction steps => (s.moveCursor direction steps).map .taken
  | .moveIp direction steps => (s.moveIp direction steps).map .truth
  | .runFocused mnemonics => (s.runFocused mnemonics).map .report
  | .dedup => s.dedup.map .number
  | .set knob v => (s.set knob v).map fun _ => .nothing
  | .setSpeed v => (s.setSpeed v).map fun _ => .nothing
  | .seed => .done s (.number s.seed)
  | .focus => .done s (.handle s.focus)
  | .ordinal ordinal => .done s (.handle (s.population.slotFor ordinal))
  | .list => .done s (.views s.population.views)
  | .status => .done s (.status s.status)
  | .isRunning => .done s (.truth s.running)
  | .grid => .done s (.grid s.grid)
  | .generator => .done s (.generator s.habitat.generator)
  | .settings => .done s (.settings s.settings)

/-- A history of operations. One that fails does not end it: the next starts from the
state it left. -/
def performAll (s : Simulation) (operations : List Operation) : Simulation :=
  operations.foldl (fun s operation => (s.perform operation).state) s

end Simulation
end Terrarium
