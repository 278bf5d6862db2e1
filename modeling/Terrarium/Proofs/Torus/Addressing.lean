import Terrarium.Torus.Grid

/-!
Addressing a torus: where a point lies once it is wrapped, and what a write leaves to be read.
Two addresses are one cell exactly when they wrap to the same point.
-/

namespace Terrarium

structure Point.Within (width height : Nat) (p : Point) : Prop where
  left : 0 ≤ p.x
  right : p.x < width
  top : 0 ≤ p.y
  bottom : p.y < height

theorem squareSide_eq_ok_iff {length side : Nat} :
    squareSide length = .ok side ↔ side % 2 = 1 ∧ side ≤ maxSide ∧ length = side * side := by
  unfold squareSide
  cases found : (List.range (maxSide + 1)).find? fun side =>
      side % 2 = 1 ∧ side * side = length with
  | none =>
      refine ⟨nofun, fun ⟨odd, most, square⟩ => ?_⟩
      have none := List.find?_eq_none.mp found side (List.mem_range.mpr (Nat.lt_succ_of_le most))
      simp [odd, square] at none
  | some other =>
      have holds := List.find?_some found
      have below := List.mem_range.mp (List.mem_of_find?_eq_some found)
      simp only [decide_eq_true_eq] at holds
      obtain ⟨odd, rfl⟩ := holds
      simp only [Except.ok.injEq]
      constructor
      · rintro rfl
        exact ⟨odd, Nat.le_of_lt_succ below, rfl⟩
      · exact fun ⟨_, _, square⟩ => Nat.mul_self_inj.mp square

theorem squareSide_eq_error {length : Nat} (none : ∀ side, squareSide length ≠ .ok side) :
    squareSide length = .error (.notOddSquare length) := by
  unfold squareSide at none ⊢
  split
  · next side found => exact absurd (by rw [found]) (none side)
  · rfl

namespace Grid
variable (g : Grid)

theorem width_pos' : 0 < (g.width : Int) := by have := g.width_pos; omega

theorem height_pos' : 0 < (g.height : Int) := by have := g.height_pos; omega

theorem normalize_within (p : Point) : (g.normalize p).Within g.width g.height where
  left := Int.emod_nonneg _ (Int.ne_of_gt g.width_pos')
  right := Int.emod_lt_of_pos _ g.width_pos'
  top := Int.emod_nonneg _ (Int.ne_of_gt g.height_pos')
  bottom := Int.emod_lt_of_pos _ g.height_pos'

theorem normalize_of_within {p : Point} (inside : p.Within g.width g.height) :
    g.normalize p = p := by
  cases p
  simp only [normalize, Int.emod_eq_of_lt inside.left inside.right,
    Int.emod_eq_of_lt inside.top inside.bottom]

@[simp] theorem normalize_normalize (p : Point) : g.normalize (g.normalize p) = g.normalize p :=
  g.normalize_of_within (g.normalize_within p)

theorem step_within (p : Point) (direction : Direction) (n : Int) :
    (g.step p direction n).Within g.width g.height :=
  g.normalize_within _

theorem step_step (p : Point) (direction : Direction) (m n : Int) :
    g.step (g.step p direction m) direction n = g.step p direction (m + n) := by
  simp only [step, normalize, Point.shift, Int.emod_add_emod, Int.mul_add, Int.add_assoc]

theorem step_zero {p : Point} (inside : p.Within g.width g.height) (direction : Direction) :
    g.step p direction 0 = p := by
  simp only [step, Point.shift, Int.mul_zero, Int.add_zero]
  exact g.normalize_of_within inside

theorem column_eq_iff (x x' : Int) : g.column x = g.column x' ↔ x % g.width = x' % g.width := by
  have nonneg := Int.emod_nonneg x (Int.ne_of_gt g.width_pos')
  have nonneg' := Int.emod_nonneg x' (Int.ne_of_gt g.width_pos')
  simp only [column, Fin.mk.injEq]
  omega

theorem row_eq_iff (y y' : Int) : g.row y = g.row y' ↔ y % g.height = y' % g.height := by
  have nonneg := Int.emod_nonneg y (Int.ne_of_gt g.height_pos')
  have nonneg' := Int.emod_nonneg y' (Int.ne_of_gt g.height_pos')
  simp only [row, Fin.mk.injEq]
  omega

theorem normalize_eq_iff (p q : Point) :
    g.normalize p = g.normalize q ↔ g.column p.x = g.column q.x ∧ g.row p.y = g.row q.y := by
  simp only [normalize, Point.mk.injEq, column_eq_iff, row_eq_iff]

theorem read_congr {p q : Point} (same : g.normalize p = g.normalize q) : g.read p = g.read q := by
  obtain ⟨column, row⟩ := (g.normalize_eq_iff p q).mp same
  simp only [read, column, row]

@[simp] theorem read_normalize (p : Point) : g.read (g.normalize p) = g.read p :=
  g.read_congr (g.normalize_normalize p)

@[simp] theorem normalize_write (p q : Point) (value : UInt8) :
    (g.write p value).normalize q = g.normalize q := rfl

theorem write_congr {p q : Point} (same : g.normalize p = g.normalize q) (value : UInt8) :
    g.write p value = g.write q value := by
  obtain ⟨column, row⟩ := (g.normalize_eq_iff p q).mp same
  simp only [write, column, row]

@[simp] theorem write_normalize (p : Point) (value : UInt8) :
    g.write (g.normalize p) value = g.write p value :=
  g.write_congr (g.normalize_normalize p) value

theorem read_eq_getElem (p : Point) : g.read p = g.rows[g.row p.y][g.column p.x] := rfl

theorem read_natCast {x y : Nat} (x_lt : x < g.width) (y_lt : y < g.height) :
    g.read ⟨x, y⟩ = g.rows[y][x] := by
  have x_eq : ((x : Int) % g.width).toNat = x := by rw [Int.emod_eq_of_lt] <;> omega
  have y_eq : ((y : Int) % g.height).toNat = y := by rw [Int.emod_eq_of_lt] <;> omega
  simp [read_eq_getElem, row, column, x_eq, y_eq]

theorem read_write (p q : Point) (value : UInt8) :
    (g.write p value).read q = if g.normalize p = g.normalize q then value else g.read q := by
  have here : (g.write p value).read q =
      (g.rows.set (g.row p.y) (g.rows[g.row p.y].set (g.column p.x) value
        (g.column p.x).isLt) (g.row p.y).isLt)[g.row q.y][g.column q.x] := rfl
  rw [here, read_eq_getElem]
  simp only [normalize_eq_iff, Fin.getElem_fin, Vector.getElem_set, ← Fin.ext_iff]
  by_cases row : g.row p.y = g.row q.y
  · by_cases column : g.column p.x = g.column q.x
    · simp [row, column]
    · have apart : (g.column p.x).val ≠ (g.column q.x).val := fun same => column (Fin.ext same)
      simp [row, column, apart]
  · simp [row]

theorem ext_read {g h : Grid} (width : g.width = h.width) (height : g.height = h.height)
    (cells : ∀ p, g.read p = h.read p) : g = h := by
  obtain ⟨w, ht, w_pos, ht_pos, rows⟩ := g
  obtain ⟨w', ht', w_pos', ht_pos', rows'⟩ := h
  cases width
  cases height
  congr
  apply Vector.ext
  intro y y_lt
  apply Vector.ext
  intro x x_lt
  have cell := cells ⟨x, y⟩
  rwa [read_natCast _ x_lt y_lt, read_natCast _ x_lt y_lt] at cell

theorem writeCells_shape (cells : List (Point × UInt8)) :
    (g.writeCells cells).width = g.width ∧ (g.writeCells cells).height = g.height := by
  induction cells generalizing g with
  | nil => exact ⟨rfl, rfl⟩
  | cons cell rest ih => exact ih (g.write cell.1 cell.2)

theorem writeSquare_shape {g h : Grid} {center : Point} {buffer : List UInt8}
    (written : g.writeSquare center buffer = .ok h) : h.width = g.width ∧ h.height = g.height := by
  unfold writeSquare at written
  split at written
  · cases written
    exact g.writeCells_shape _
  · cases written

end Grid
end Terrarium
