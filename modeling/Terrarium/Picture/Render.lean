import Terrarium.Instruction.Table

/-!
The grid as a picture: every cell has the colour of its category, on a square of pixels.
-/

namespace Terrarium

abbrev Colour := UInt8 × UInt8 × UInt8

namespace Picture

def indices (cells : List (List UInt8)) : List (List Nat) :=
  cells.map fun row => row.map fun byte => (Instruction.categoryOf byte).index

def stretch {α : Type} (scale : Nat) (items : List α) : List α :=
  items.flatMap fun item => List.replicate scale item

/-- Each pixel becomes a square of `scale` by `scale`; a scale below one is one. -/
def enlarge {α : Type} (scale : Int) (pixels : List (List α)) : List (List α) :=
  let side := (max 1 scale).toNat
  stretch side (pixels.map (stretch side))

def palette : List Colour := Category.all.map Category.rgb

/-- The colour at a place in the palette, black past its end. -/
def colourAt (place : Nat) : Colour := palette.getD place (0, 0, 0)

def render (cells : List (List UInt8)) (scale : Int) : List (List Colour) :=
  enlarge scale ((indices cells).map fun row => row.map colourAt)

/-- The sides of the array that rows of cells make. Without a row there is no width. -/
def sidesOf (cells : List (List UInt8)) : List Nat :=
  match cells with
  | [] => [0]
  | row :: _ => [cells.length, row.length]

/-- The sides of the picture of an array and its depth, of which the first two are enlarged. An
array without a width has the depth in its place. -/
def shape (sides : List Nat) (scale : Int) : List Nat :=
  let side := (max 1 scale).toNat
  let unscaled := sides ++ [3]
  (unscaled.take 2).map (· * side) ++ unscaled.drop 2

end Picture
end Terrarium
