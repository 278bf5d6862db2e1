import Terrarium.Fault
import Terrarium.Torus.Point

/-!
The world: a torus of bytes. Every coordinate is wrapped before it is used, so no
address is out of bounds; but squares and windows that are read at once have theirs
added up in words before that. They are gathered row by row from their top left corner;
a square larger than the torus meets its own cells again, and the last byte written to
a cell stays.
-/

namespace Terrarium

def lowByte (n : Int) : UInt8 := UInt8.ofNat (n % 256).toNat

/-- Travel on a torus with sides of any sign. There is no torus with a side of zero. -/
def Point.step (p : Point) (direction : Direction) (n width height : Int) :
    Except Fault Point :=
  if width = 0 ∨ height = 0 then .error .zeroSide
  else .ok ((p.shift direction n).wrap width height)

def maxSide : Nat := 21

def squareSide (length : Nat) : Except Fault Nat :=
  match (List.range (maxSide + 1)).find? fun side => side % 2 = 1 ∧ side * side = length with
  | some side => .ok side
  | none => .error (.notOddSquare length)

/-- The side of a square of any integer as its size. It is a root, so sizes without a
binary fraction and sizes below zero are refused for themselves. -/
def rootOf (size : Int) : Except Fault Nat :=
  if (Binary64.ofInt? size).isNone then .error .integerTooLarge
  else if size < 0 then .error .imaginarySide
  else squareSide size.toNat

def offsets (radius : Int) : List Int :=
  (List.range (2 * radius + 1).toNat).map fun (i : Nat) => (i : Int) - radius

def span (count : Int) : List Int := (List.range count.toNat).map Int.ofNat

def wordEnd : Nat := Nat.pow 2 63

def IsWord (n : Int) : Prop := -wordEnd ≤ n ∧ n < wordEnd

instance : DecidablePred IsWord := fun n => inferInstanceAs (Decidable (-wordEnd ≤ n ∧ n < wordEnd))

/-- The coordinates some way off one, along a side of the torus. They are sums of words, which go
round where words end; what is no word is refused. One on the torus is below its side, and no
memory holds a side that comes near the end of words, so that nothing goes round there. -/
def beside (side : Nat) (coordinate : Int) (shifts : List Int) : Except Fault (List Int) :=
  if 0 ≤ coordinate ∧ coordinate < side then .ok (shifts.map (coordinate + ·))
  else if IsWord coordinate then
    .ok (shifts.map fun shift => (coordinate + shift).bmod (2 * wordEnd))
  else .error .coordinateTooLarge

theorem wrapped_lt (a : Int) {side : Nat} (positive : 0 < side) : (a % side).toNat < side := by
  have side_pos : 0 < (side : Int) := by omega
  have nonneg := Int.emod_nonneg a (Int.ne_of_gt side_pos)
  have below := Int.emod_lt_of_pos a side_pos
  omega

structure Grid where
  width : Nat
  height : Nat
  width_pos : 0 < width
  height_pos : 0 < height
  rows : Vector (Vector UInt8 width) height

namespace Grid

def uniform (width height : Nat) (width_pos : 0 < width) (height_pos : 0 < height)
    (value : UInt8) : Grid where
  width := width
  height := height
  width_pos := width_pos
  height_pos := height_pos
  rows := Vector.replicate height (Vector.replicate width value)

def build (width height fill : Int) : Except Fault Grid :=
  if hw : 0 < width then
    if hh : 0 < height then
      .ok (uniform width.toNat height.toNat (by omega) (by omega) (lowByte fill))
    else .error .emptyHeight
  else .error .emptyWidth

def describe (g : Grid) : String :=
  "Grid(" ++ toString g.width ++ "x" ++ toString g.height ++ ")"

def normalize (g : Grid) (p : Point) : Point := ⟨p.x % g.width, p.y % g.height⟩

def column (g : Grid) (x : Int) : Fin g.width := ⟨(x % g.width).toNat, wrapped_lt x g.width_pos⟩

def row (g : Grid) (y : Int) : Fin g.height := ⟨(y % g.height).toNat, wrapped_lt y g.height_pos⟩

def read (g : Grid) (p : Point) : UInt8 := (g.rows.get (g.row p.y)).get (g.column p.x)

def write (g : Grid) (p : Point) (value : UInt8) : Grid :=
  let y := g.row p.y
  let x := g.column p.x
  { g with rows := g.rows.set y ((g.rows.get y).set x value x.isLt) y.isLt }

def fill (g : Grid) (value : UInt8) : Grid :=
  { g with rows := Vector.replicate g.height (Vector.replicate g.width value) }

def step (g : Grid) (p : Point) (direction : Direction) (n : Int) : Point :=
  g.normalize (p.shift direction n)

def squarePoints (g : Grid) (center : Point) (radius : Int) : List Point :=
  (offsets radius).flatMap fun dy =>
    (offsets radius).map fun dx => g.normalize (center.offset dx dy)

def gather (g : Grid) (ys xs : List Int) : List (List UInt8) :=
  ys.map fun y =>
    let cells := g.rows.get (g.row y)
    xs.map fun x => cells.get (g.column x)

def around (g : Grid) (p : Point) (down right : List Int) : Except Fault (List (List UInt8)) :=
  (beside g.height p.y down).bind fun ys =>
    (beside g.width p.x right).map fun xs => g.gather ys xs

def readSquare (g : Grid) (center : Point) (radius : Int) : Except Fault (List UInt8) :=
  (g.around center (offsets radius) (offsets radius)).map List.flatten

def writeCells (g : Grid) (cells : List (Point × UInt8)) : Grid :=
  cells.foldl (fun g cell => g.write cell.1 cell.2) g

def writeSquare (g : Grid) (center : Point) (buffer : List UInt8) : Except Fault Grid :=
  match squareSide buffer.length with
  | .ok side => .ok (g.writeCells ((g.squarePoints center (side / 2 : Nat)).zip buffer))
  | .error fault => .error fault

def view (g : Grid) (start : Point) (width height : Int) : Except Fault (List (List UInt8)) :=
  g.around start (span height) (span width)

def snapshot (g : Grid) : List (List UInt8) := g.rows.toList.map Vector.toList

def changes (before after : Grid) : List (Nat × Nat × UInt8) :=
  (before.snapshot.zip after.snapshot).zipIdx.flatMap fun ((old, new), y) =>
    if old = new then [] else
      (old.zip new).zipIdx.filterMap fun ((was, is), x) =>
        if was = is then none else some (x, y, is)

theorem step_eq_point_step (g : Grid) (p : Point) (direction : Direction) (n : Int) :
    p.step direction n g.width g.height = .ok (g.step p direction n) := by
  have hw : (g.width : Int) ≠ 0 := by have := g.width_pos; omega
  have hh : (g.height : Int) ≠ 0 := by have := g.height_pos; omega
  simp only [Point.step, hw, hh, or_self, if_false, step, normalize, Point.wrap]
  rw [Int.fmod_eq_emod_of_nonneg _ (by omega), Int.fmod_eq_emod_of_nonneg _ (by omega)]

end Grid
end Terrarium
