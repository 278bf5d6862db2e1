import Terrarium.Attempt
import Terrarium.Instruction.Table

/-!
How an organism changes on a grid: phases, delays, and moves of its instruction
pointer and its cursor. A cursor never moves onto a wall.
-/

namespace Terrarium.Organism

def checked (o : Organism) : Except Fault Organism :=
  if 0 ≤ o.radius ∧ o.radius ≤ maxRadius then
    match squareSide o.clipboard.length with
    | .ok _ => .ok o
    | .error fault => .error fault
  else .error (.radiusOutside o.radius)

def clipboardSide (o : Organism) : Except Fault Nat := squareSide o.clipboard.length

def setPhase (o : Organism) (next : Phase) : Attempt Organism Unit :=
  if o.phase.allows next then .done { o with phase := next } ()
  else .fail o (.rejectedTransition o.phase next)

def advance (o : Organism) (g : Grid) : Organism := { o with ip := g.step o.ip o.direction 1 }

/-- A delay without a cycle is no delay. -/
def beginDelay (o : Organism) (cycles : Int) : Attempt Organism Unit :=
  if cycles ≤ 0 then .done o () else setPhase { o with delay := cycles } .delaying

/-- Counts down one cycle. At the end of its delay the organism takes the step it
owes and is ready again; the answer is whether it is. -/
def tickDelay (o : Organism) (g : Grid) : Attempt Organism Bool :=
  let o := if 0 < o.delay then { o with delay := o.delay - 1 } else o
  if o.delay = 0 then ((o.advance g).setPhase .ready).map fun _ => true
  else .done o false

/-- The answer is whether the cursor moved. -/
def tryMoveCursor (o : Organism) (g : Grid) (target : Point) : Organism × Bool :=
  if g.read target = Instruction.wallByte then (o, false)
  else ({ o with cursor := target }, true)

def walkCursor (g : Grid) (direction : Direction) : Nat → Nat → Organism → Organism × Nat
  | 0, taken, o => (o, taken)
  | left + 1, taken, o =>
      match o.tryMoveCursor g (g.step o.cursor direction 1) with
      | (o, true) => walkCursor g direction left (taken + 1) o
      | (o, false) => (o, taken)

/-- Steps the cursor up to `steps` times; the answer is how many were taken. -/
def moveCursor (o : Organism) (g : Grid) (direction : Direction) (steps : Int) :
    Organism × Nat :=
  walkCursor g direction steps.toNat 0 o

end Terrarium.Organism
