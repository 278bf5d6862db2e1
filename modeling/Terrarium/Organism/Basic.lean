import Terrarium.Organism.Phase
import Terrarium.Torus.Point

/-!
An organism is what one program counter on the grid carries with it. Lifespan and
children are `none` where they are unlimited; otherwise they count what is left.
Fields are integers, as settings and callers may give any; execution keeps the
registers in a byte and the radius within `maxRadius`.
-/

namespace Terrarium

inductive Register where
  | a
  | b
deriving DecidableEq

def Register.other : Register → Register
  | a => b
  | b => a

structure Organism where
  ip : Point
  direction : Direction := .right
  ax : Int := 0
  bx : Int := 0
  flag : Bool := false
  cursor : Point
  radius : Int := 0
  clipboard : List UInt8 := [0]
  lifespan : Option Int := none
  children : Option Int := none
  delay : Int := 0
  phase : Phase := .ready
deriving DecidableEq

/-- All that the future behaviour of an organism hangs on, its phase left out. -/
structure StateKey where
  ip : Point
  direction : Direction
  ax : Int
  bx : Int
  flag : Bool
  radius : Int
  cursor : Point
  clipboard : List UInt8
  lifespan : Option Int
  children : Option Int
  delay : Int
deriving DecidableEq

namespace Organism

def maxRadius : Int := 10

/-- A newcomer's cursor starts on its instruction pointer. -/
def newborn (ip : Point) (direction : Direction) : Organism :=
  { ip := ip, direction := direction, cursor := ip }

def key (o : Organism) : StateKey where
  ip := o.ip
  direction := o.direction
  ax := o.ax
  bx := o.bx
  flag := o.flag
  radius := o.radius
  cursor := o.cursor
  clipboard := o.clipboard
  lifespan := o.lifespan
  children := o.children
  delay := o.delay

def sameButPhase (o p : Organism) : Bool := { o with phase := p.phase } = p

def describe (o : Organism) : String :=
  o.direction.symbol ++ "(" ++ toString o.ip.x ++ ", " ++ toString o.ip.y ++ ")\tax=" ++
    toString o.ax ++ " bx=" ++ toString o.bx

def isAlive (o : Organism) : Bool := o.phase ≠ .dead

def isDelaying (o : Organism) : Bool := o.phase = .delaying

def register (o : Organism) : Register → Int
  | .a => o.ax
  | .b => o.bx

def setRegister (o : Organism) (r : Register) (value : Int) : Organism :=
  match r with
  | .a => { o with ax := value }
  | .b => { o with bx := value }

/-- Radii outside the bounds are ignored. -/
def setRadius (o : Organism) (radius : Int) : Organism :=
  if 0 ≤ radius ∧ radius ≤ maxRadius then { o with radius := radius } else o

/-- Charges one cycle of life; the answer is whether none is left. -/
def tickLifespan (o : Organism) : Organism × Bool :=
  match o.lifespan with
  | none => (o, false)
  | some left =>
      let left := max 0 (left - 1)
      ({ o with lifespan := some left }, left = 0)

def takeChild (o : Organism) : Organism × Bool :=
  match o.children with
  | none => (o, true)
  | some left => if left = 0 then (o, false) else ({ o with children := some (left - 1) }, true)

def kill (o : Organism) : Organism := if o.isAlive then { o with phase := .dead } else o

theorem sameButPhase_iff_key (o p : Organism) : o.sameButPhase p = true ↔ o.key = p.key := by
  cases o
  cases p
  simp only [sameButPhase, key, decide_eq_true_eq, Organism.mk.injEq, StateKey.mk.injEq]
  constructor
  · rintro ⟨h1, h2, h3, h4, h5, h6, h7, h8, h9, h10, h11, _⟩
    exact ⟨h1, h2, h3, h4, h5, h7, h6, h8, h9, h10, h11⟩
  · rintro ⟨h1, h2, h3, h4, h5, h6, h7, h8, h9, h10, h11⟩
    exact ⟨h1, h2, h3, h4, h5, h7, h6, h8, h9, h10, h11, trivial⟩

end Organism
end Terrarium
