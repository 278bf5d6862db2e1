/-!
Directions of travel and the mirrors that turn a traveller. Columns grow to
the right and rows grow downwards, so going up lowers the row.
-/

namespace Terrarium

inductive Direction where
  | left
  | right
  | up
  | down
deriving DecidableEq

namespace Direction

def all : List Direction := [left, right, up, down]

def symbol : Direction → String
  | left => "<"
  | right => ">"
  | up => "^"
  | down => "v"

def ofSymbol? (text : String) : Option Direction :=
  all.find? fun direction => direction.symbol == text

def dx : Direction → Int
  | left => -1
  | right => 1
  | up => 0
  | down => 0

def dy : Direction → Int
  | left => 0
  | right => 0
  | up => -1
  | down => 1

def isHorizontal : Direction → Bool
  | left => true
  | right => true
  | up => false
  | down => false

def reverse : Direction → Direction
  | left => right
  | right => left
  | up => down
  | down => up

end Direction

inductive Mirror where
  | solid
  | upright
  | level
  | rising
  | falling
deriving DecidableEq

/-- A solid mirror turns every traveller around, an upright one only horizontal
travel, a level one only vertical travel. The two diagonals trade the axes. -/
def Direction.reflect (direction : Direction) : Mirror → Direction
  | .solid => direction.reverse
  | .upright => if direction.isHorizontal then direction.reverse else direction
  | .level => if direction.isHorizontal then direction else direction.reverse
  | .rising =>
      match direction with
      | .left => .down
      | .right => .up
      | .up => .right
      | .down => .left
  | .falling =>
      match direction with
      | .left => .up
      | .right => .down
      | .up => .left
      | .down => .right

theorem Direction.dx_reverse (direction : Direction) :
    direction.reverse.dx = -direction.dx := by
  cases direction <;> rfl

theorem Direction.dy_reverse (direction : Direction) :
    direction.reverse.dy = -direction.dy := by
  cases direction <;> rfl

end Terrarium
