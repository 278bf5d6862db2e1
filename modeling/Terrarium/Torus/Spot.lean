import Terrarium.Number.Decimal
import Terrarium.Torus.Point

/-!
Places as they may be asked for. A coordinate can be a binary fraction, and stays one on the
torus; such a place lies between cells, even if the fraction has nothing behind its point.
-/

namespace Terrarium

inductive Coordinate where
  | whole (n : Int)
  | fraction (x : Binary64)
deriving DecidableEq

namespace Coordinate

def text : Coordinate → String
  | whole n => toString n
  | fraction x => NumberStyle.report.render x

def wrap (side : Nat) : Coordinate → Coordinate
  | whole n => whole (n % side)
  | fraction x => fraction (x.modulo side)

/-- A whole number in place of a coordinate, the same for coordinates that are the same
number and for no others. -/
def mark : Coordinate → Int
  | whole n => n
  | fraction x => if x.isWhole then x.toInt else 0x10000000000000000 + x.bits.toNat

end Coordinate

structure Spot where
  x : Coordinate
  y : Coordinate
deriving DecidableEq

namespace Spot

def cell? : Spot → Option Point
  | ⟨.whole x, .whole y⟩ => some ⟨x, y⟩
  | _ => none

def mark (spot : Spot) : Point := ⟨spot.x.mark, spot.y.mark⟩

def describe (spot : Spot) : String :=
  "Point(x=" ++ spot.x.text ++ ", y=" ++ spot.y.text ++ ")"

end Spot
end Terrarium
