import Terrarium.Shutdown
import Terrarium.Simulation.RunLoop

/-!
A run loop as the only task that is served. It gets turns, in which it makes a pass, and
between them come signals and the end of the grace period. The only stop callback stops the
simulation. A loop that has been cancelled finds out at its next turn, and is left there.
-/

namespace Terrarium
open Shutdown

inductive Moment where
  | turn
  | signal (signal : Signal)
  | elapses (ticks : Nat)

structure Served where
  watched : Watched
  fault : Option Fault := none
  service : Service
  told : List Event

namespace Served

def loopOver (v : Served) : Bool := (running v.service.tasks).isEmpty

def endless (v : Served) : Bool :=
  v.watched.simulation.paused || v.watched.simulation.settings.maxCycles.isNone

def react (v : Served) (occurrence : Occurrence) : Served :=
  let service := v.service.occur occurrence
  if v.service.waits && !service.waits then
    { v with
      service := service
      watched := { v.watched with simulation := v.watched.simulation.stop } }
  else { v with service := service }

/-- The loop is over, and has told so before anyone hears of it. -/
def leave (v : Served) (run : Attempt Watched Unit) (ending : Ending) : Served :=
  let finished := Watched.finish run
  let left : Served := { v with watched := finished.state, told := v.told ++ finished.events }
  left.react (.ends 0 ending)

def pass (cycle : Simulation → Attempt Simulation Unit) (v : Served) : Served :=
  let passed := v.watched.pass cycle
  match passed.answer with
  | .ok .asleep => { v with watched := passed.state, told := v.told ++ passed.events }
  | .ok .left => v.leave { passed with answer := .ok () } .done
  | .error fault =>
      ({ v with fault := some fault } : Served).leave { passed with answer := .error fault }
        (.failed fault.kind fault.message)

def turn (cycle : Simulation → Attempt Simulation Unit) (v : Served) : Served :=
  if v.loopOver then v
  else if 0 ∈ v.service.cancelled then v.leave (.done v.watched ()) .cancelled
  else v.pass cycle

def meet (cycle : Simulation → Attempt Simulation Unit) (v : Served) : Moment → Served
  | .turn => v.turn cycle
  | .signal signal => v.react (.signal signal)
  | .elapses ticks => v.react (.elapses ticks)

/-- The grace period is five seconds, in milliseconds. The loop has its first turn before
anything can come from outside. -/
def start (cycle : Simulation → Attempt Simulation Unit) (s : Simulation) : Served :=
  turn cycle
    { watched := { simulation := { s with running := true }, sleeps := [] }
      service := .start 1 5000 [none]
      told := [.started] }

def turns (cycle : Simulation → Attempt Simulation Unit) : Nat → Served → Served
  | 0, v => v
  | left + 1, v => if v.service.isFinished then v else turns cycle left (v.turn cycle)

/-- The rest, in which nothing comes from outside any more but the signal without which the
loop would not end. -/
def rest (cycle : Simulation → Attempt Simulation Unit) (v : Served) : Served :=
  let v := if v.endless then v.react (.signal .interrupt) else v
  v.turns cycle (v.watched.cyclesLeft + 1)

def whole (cycle : Simulation → Attempt Simulation Unit) (s : Simulation)
    (moments : List Moment) : Served :=
  (moments.foldl (meet cycle) (start cycle s)).rest cycle

def answer (v : Served) : Except Fault Unit :=
  match v.service.raised, v.fault with
  | some _, some fault => .error fault
  | _, _ => .ok ()

end Served
end Terrarium
