import Terrarium.Proofs.Torus.Reading

/-!
The torus has no special place. A translation carries every point by the same amounts and wraps
it; a grid is carried with what it holds. Whatever reads, writes or travels on a grid does the
same on the carried grid at the carried places.
-/

namespace Terrarium

structure Translation where
  width : Nat
  height : Nat
  right : Int
  down : Int

namespace Translation
variable (t : Translation)

def point (p : Point) : Point := ⟨(p.x + t.right) % t.width, (p.y + t.down) % t.height⟩

/-- What a cell holds comes from the place that is carried to it. -/
def grid (g : Grid) : Grid :=
  { g with rows := Vector.ofFn fun y => Vector.ofFn fun x =>
      g.read ⟨(x : Int) - t.right, (y : Int) - t.down⟩ }

structure Fits (g : Grid) : Prop where
  width : g.width = t.width
  height : g.height = t.height

variable {t} {g : Grid}

@[simp] theorem width_grid (g : Grid) : (t.grid g).width = g.width := rfl

@[simp] theorem height_grid (g : Grid) : (t.grid g).height = g.height := rfl

@[simp] theorem normalize_grid (g : Grid) (p : Point) : (t.grid g).normalize p = g.normalize p := rfl

theorem Fits.write (fits : t.Fits g) (p : Point) (value : UInt8) : t.Fits (g.write p value) :=
  ⟨fits.width, fits.height⟩

theorem Fits.carried (fits : t.Fits g) : t.Fits (t.grid g) := ⟨fits.width, fits.height⟩

theorem point_eq (fits : t.Fits g) (p : Point) :
    t.point p = g.normalize (p.offset t.right t.down) := by
  simp only [point, Grid.normalize, Point.offset, fits.width, fits.height]

theorem normalize_point (fits : t.Fits g) (p : Point) : g.normalize (t.point p) = t.point p := by
  rw [point_eq fits, Grid.normalize_normalize]

theorem point_normalize (fits : t.Fits g) (p : Point) : t.point (g.normalize p) = t.point p := by
  simp only [point, Grid.normalize, fits.width, fits.height, Int.emod_add_emod]

theorem point_eq_iff (fits : t.Fits g) (p q : Point) :
    t.point p = t.point q ↔ g.normalize p = g.normalize q := by
  simp only [point, Grid.normalize, Point.mk.injEq, fits.width, fits.height,
    Int.emod_add_cancel_right]

theorem point_injective (fits : t.Fits g) {p q : Point} (inside : p.Within t.width t.height)
    (inside' : q.Within t.width t.height) (same : t.point p = t.point q) : p = q := by
  rw [← fits.width, ← fits.height] at inside inside'
  rw [point_eq_iff fits, g.normalize_of_within inside, g.normalize_of_within inside'] at same
  exact same

theorem step_point (fits : t.Fits g) (p : Point) (direction : Direction) (n : Int) :
    (t.grid g).step (t.point p) direction n = t.point (g.step p direction n) := by
  simp only [Grid.step, normalize_grid]
  rw [point_normalize fits]
  simp only [Grid.normalize, Point.shift, point, fits.width, fits.height, Int.emod_add_emod]
  rw [Int.add_right_comm, Int.add_right_comm p.y]

theorem offset_point (fits : t.Fits g) (p : Point) (dx dy : Int) :
    g.normalize ((t.point p).offset dx dy) = t.point (p.offset dx dy) := by
  simp only [Grid.normalize, Point.offset, point, fits.width, fits.height, Int.emod_add_emod]
  rw [Int.add_right_comm, Int.add_right_comm p.y]

theorem read_grid (g : Grid) (p : Point) :
    (t.grid g).read p = g.read ⟨p.x - t.right, p.y - t.down⟩ := by
  have here : (t.grid g).read p =
      (Vector.ofFn fun y : Fin g.height => Vector.ofFn fun x : Fin g.width =>
        g.read ⟨(x : Int) - t.right, (y : Int) - t.down⟩)[(g.row p.y).val][(g.column p.x).val] := rfl
  rw [here, Vector.getElem_ofFn, Vector.getElem_ofFn]
  apply g.read_congr
  have column : ((g.column p.x : Nat) : Int) = p.x % g.width :=
    Int.toNat_of_nonneg (Int.emod_nonneg _ (Int.ne_of_gt g.width_pos'))
  have row : ((g.row p.y : Nat) : Int) = p.y % g.height :=
    Int.toNat_of_nonneg (Int.emod_nonneg _ (Int.ne_of_gt g.height_pos'))
  simp only [Grid.normalize, column, row, Int.emod_sub_emod]

theorem read_point (fits : t.Fits g) (p : Point) : (t.grid g).read (t.point p) = g.read p := by
  rw [read_grid]
  apply g.read_congr
  simp only [Grid.normalize, point, fits.width, fits.height, Int.emod_sub_emod,
    Int.add_sub_cancel]

theorem read_beside (fits : t.Fits g) (p : Point) (dx dy : Int) :
    (t.grid g).read ((t.point p).offset dx dy) = g.read (p.offset dx dy) := by
  rw [← read_point fits (p.offset dx dy), ← offset_point fits.carried, Grid.read_normalize]

theorem readSquare_point (fits : t.Fits g) {center : Point}
    (inside : center.Within g.width g.height) (radius : Int) :
    (t.grid g).readSquare (t.point center) radius = g.readSquare center radius := by
  have carried : (t.point center).Within (t.grid g).width (t.grid g).height := by
    rw [point_eq fits]
    exact g.normalize_within _
  rw [Grid.readSquare_of_clear (Grid.clearSquare_of_within carried radius),
    Grid.readSquare_of_clear (Grid.clearSquare_of_within inside radius)]
  simp only [Grid.squarePoints, List.map_flatMap, List.map_map, Function.comp_def,
    Grid.read_normalize, read_beside fits]

/-- The one write there is on a carried grid is the write of the place that is carried there. -/
theorem write_point (fits : t.Fits g) (p : Point) (value : UInt8) :
    (t.grid g).write (t.point p) value = t.grid (g.write p value) := by
  have width : ((t.grid g).write (t.point p) value).width = (t.grid (g.write p value)).width := rfl
  have height : ((t.grid g).write (t.point p) value).height = (t.grid (g.write p value)).height := rfl
  apply Grid.ext_read width height
  intro q
  -- The cell `q` is hit on the carried grid just when the cell it came from is hit.
  have back : q.offset (-t.right) (-t.down) = ⟨q.x - t.right, q.y - t.down⟩ := by
    simp only [Point.offset, Int.sub_eq_add_neg]
  have forth : g.normalize q = t.point (q.offset (-t.right) (-t.down)) := by
    rw [point_eq fits]
    simp only [Point.offset, Int.neg_add_cancel_right]
  have hit : (t.grid g).normalize (t.point p) = (t.grid g).normalize q ↔
      g.normalize p = g.normalize ⟨q.x - t.right, q.y - t.down⟩ := by
    rw [normalize_grid, normalize_grid, normalize_point fits, forth, point_eq_iff fits, back]
  rw [read_grid, Grid.read_write, Grid.read_write, read_grid]
  simp only [hit]

theorem squarePoints_point (fits : t.Fits g) (center : Point) (radius : Int) :
    (t.grid g).squarePoints (t.point center) radius = (g.squarePoints center radius).map t.point := by
  simp only [Grid.squarePoints, List.map_flatMap, List.map_map, Function.comp_def, normalize_grid,
    offset_point fits, point_normalize fits]

theorem writeCells_point (fits : t.Fits g) (cells : List (Point × UInt8)) :
    (t.grid g).writeCells (cells.map fun cell => (t.point cell.1, cell.2)) =
      t.grid (g.writeCells cells) := by
  induction cells generalizing g with
  | nil => rfl
  | cons cell rest ih =>
      have first := write_point fits cell.1 cell.2
      have later := ih (fits.write cell.1 cell.2)
      rw [← first] at later
      exact later

theorem writeSquare_point (fits : t.Fits g) (center : Point) (buffer : List UInt8) :
    (t.grid g).writeSquare (t.point center) buffer = (g.writeSquare center buffer).map t.grid := by
  unfold Grid.writeSquare
  split
  · rw [squarePoints_point fits, List.zip_map_left]
    exact congrArg Except.ok (writeCells_point fits _)
  · rfl

end Translation
end Terrarium
