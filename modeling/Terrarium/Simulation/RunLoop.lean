import Terrarium.Simulation.Control

/-!
The run loop: a cycle, then a sleep, until the simulation is stopped or has reached its
cycle cap. While paused it only sleeps. Others act on the simulation while the loop
sleeps, so a run is told what they do in each of its sleeps.
-/

namespace Terrarium

inductive Pass where
  | asleep
  | left
deriving DecidableEq

structure Sleep where
  milliseconds : Nat
  cycle : Nat
  running : Bool
deriving DecidableEq

/-- A run under observation. While it goes on the last sleep comes first. -/
structure Watched where
  simulation : Simulation
  sleeps : List Sleep

abbrev Call := Simulation → Attempt Simulation Unit

namespace Simulation

def reachedCap? (s : Simulation) : Option Nat :=
  s.settings.maxCycles.filter fun cap => cap ≤ s.cycle

/-- A cycle of the loop; a failure is reported with the number of its cycle. -/
def loopCycle (cycle : Simulation → Attempt Simulation Unit) (s : Simulation) :
    Attempt Simulation Unit :=
  let stepped := cycle s
  match stepped.answer with
  | .error fault => { stepped with answer := .error (.cycleFailed stepped.state.cycle fault) }
  | .ok _ => stepped

def reportIfDue (s : Simulation) : Attempt Simulation Unit :=
  if every s.cycle s.settings.logInterval then .tell s (.report s.status) else .done s ()

def pass (cycle : Simulation → Attempt Simulation Unit) (s : Simulation) :
    Attempt Simulation Pass :=
  if !s.running then .done s .left
  else if s.paused then .done s .asleep
  else
    match s.reachedCap? with
    | some cap => (Attempt.tell s (.reachedCap cap)).map fun _ => .left
    | none =>
        (s.loopCycle cycle).andThen fun s _ => s.reportIfDue.map fun _ => .asleep

/-- The sleep after a pass. Its length in seconds has to be a finite number. -/
def sleep (s : Simulation) : Except Fault Sleep :=
  if (Binary64.ofRatio s.settings.cycleSpeed 1000).isInfinite then .error .quotientTooLarge
  else .ok {
    milliseconds := s.settings.cycleSpeed
    cycle := s.cycle
    running := s.running }

end Simulation

namespace Watched

def lift (w : Watched) {α : Type} (attempt : Attempt Simulation α) : Attempt Watched α :=
  attempt.inside fun s => { w with simulation := s }

def pass (cycle : Simulation → Attempt Simulation Unit) (w : Watched) : Attempt Watched Pass :=
  (w.lift (w.simulation.pass cycle)).andThen fun w outcome =>
    match outcome with
    | .left => .done w .left
    | .asleep =>
        match w.simulation.sleep with
        | .error fault => .fail w fault
        | .ok sleep => .done { w with sleeps := sleep :: w.sleeps } .asleep

def act (w : Watched) (calls : List Call) : Attempt Watched Unit :=
  w.lift (Attempt.forEach (fun s call => call s) calls w.simulation)

/-- The rest of a run in which nobody acts any more. A simulation that would never reach
a cap by itself is stopped in its next sleep. The count is that of the cycles left below
the cap. -/
def coast (cycle : Simulation → Attempt Simulation Unit) :
    Nat → Watched → Attempt Watched Unit
  | left, w =>
      (w.pass cycle).andThen fun w outcome =>
        match outcome with
        | .left => .done w ()
        | .asleep =>
            if w.simulation.paused || w.simulation.settings.maxCycles.isNone then
              (({ w with simulation := w.simulation.stop } : Watched).pass cycle).map fun _ => ()
            else
              match left with
              | 0 => .done w ()
              | left + 1 => coast cycle left w

def cyclesLeft (w : Watched) : Nat :=
  w.simulation.settings.maxCycles.getD 0 - w.simulation.cycle

def loop (cycle : Simulation → Attempt Simulation Unit) :
    List (List Call) → Watched → Attempt Watched Unit
  | [], w => coast cycle w.cyclesLeft w
  | calls :: rest, w =>
      (w.pass cycle).andThen fun w outcome =>
        match outcome with
        | .left => .done w ()
        | .asleep => (w.act calls).andThen fun w _ => loop cycle rest w

/-- The simulation is not running once the loop is over, however it ended, and its
sleeps are in order. -/
def finish (run : Attempt Watched Unit) : Attempt Watched Unit :=
  let s := run.state.simulation
  { run with
    state := { simulation := s.stop, sleeps := run.state.sleeps.reverse }
    events := run.events ++ [.stopped s.cycle] }

end Watched

namespace Simulation

def runAs (cycle : Simulation → Attempt Simulation Unit) (s : Simulation)
    (schedule : List (List Call)) : Attempt Watched Unit :=
  let started : Watched := { simulation := { s with running := true }, sleeps := [] }
  (Attempt.tell started .started).andThen fun w _ =>
    Watched.finish (Watched.loop cycle schedule w)

def run (s : Simulation) (schedule : List (List Call)) : Attempt Watched Unit :=
  s.runAs stepCycle schedule

end Simulation

end Terrarium
