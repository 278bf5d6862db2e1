import Terrarium.Torus.Direction

/-!
Integer points and their places on a torus. Travel is counted in whole cells
and may be negative or longer than the torus; wrapping is taken once, at the end.
-/

namespace Terrarium

structure Point where
  x : Int
  y : Int
deriving DecidableEq

namespace Point

def origin : Point := ⟨0, 0⟩

def shift (p : Point) (direction : Direction) (n : Int) : Point :=
  ⟨p.x + direction.dx * n, p.y + direction.dy * n⟩

def offset (p : Point) (dx dy : Int) : Point := ⟨p.x + dx, p.y + dy⟩

/-- The representative of `p` on a torus with the given sides. A remainder has
the sign of its side, so on positive sides it lies in `0 ≤ x < width` and
`0 ≤ y < height`. -/
def wrap (p : Point) (width height : Int) : Point :=
  ⟨p.x.fmod width, p.y.fmod height⟩

def describe (p : Point) : String :=
  "Point(x=" ++ toString p.x ++ ", y=" ++ toString p.y ++ ")"

end Point
end Terrarium
