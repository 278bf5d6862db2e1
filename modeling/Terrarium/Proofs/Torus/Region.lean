import Mathlib.Data.List.Nodup
import Terrarium.Proofs.Torus.Reading

/-!
Regions of a torus. The cells of a square are counted row by row, and each has its place in closed
form; a square that is wider or higher than the torus meets cells again. Main statement: squares,
windows and single cells are read alike as far as they do not go beyond the words, and how often a
square meets a cell.
-/

namespace Terrarium

/-- Cells counted row by row: that of a number stands in the column of its remainder and the row of
its quotient. -/
theorem rows_eq_map {α : Type} (f : Nat → Nat → α) (rows columns : Nat) :
    ((List.range rows).flatMap fun y => (List.range columns).map fun x => f x y) =
      (List.range (rows * columns)).map fun i => f (i % columns) (i / columns) := by
  induction rows with
  | zero => simp
  | succ rows ih =>
      have last : ((List.range columns).map fun x => f x rows) =
          ((List.range columns).map (rows * columns + ·)).map fun i =>
            f (i % columns) (i / columns) := by
        rw [List.map_map]
        apply List.map_congr_left
        intro x member
        have below : x < columns := List.mem_range.mp member
        have positive : 0 < columns := Nat.zero_lt_of_lt below
        have column : (rows * columns + x) % columns = x := by
          rw [Nat.add_comm, Nat.add_mul_mod_self_right, Nat.mod_eq_of_lt below]
        have row : (rows * columns + x) / columns = rows := by
          rw [Nat.add_comm, Nat.add_mul_div_right x rows positive, Nat.div_eq_of_lt below,
            Nat.zero_add]
        rw [Function.comp_apply, column, row]
      rw [List.range_succ, List.flatMap_append, ih, List.flatMap_singleton, last, Nat.succ_mul,
        List.range_add, List.map_append]

def sideOf (radius : Int) : Nat := (2 * radius + 1).toNat

namespace Grid
variable (g : Grid) (center : Point) (radius : Int)

/-- Where the cell of a number lies, counted row by row from the top left corner of a square. -/
def place (i : Nat) : Point :=
  g.normalize (center.offset ((i % sideOf radius : Nat) - radius) ((i / sideOf radius : Nat) - radius))

theorem squarePoints_eq :
    g.squarePoints center radius =
      (List.range (sideOf radius * sideOf radius)).map (g.place center radius) := by
  simp only [squarePoints, offsets, List.flatMap_map, List.map_map]
  exact rows_eq_map (fun x y => g.normalize (center.offset ((x : Int) - radius) ((y : Int) - radius)))
    (sideOf radius) (sideOf radius)

theorem squarePoints_length :
    (g.squarePoints center radius).length = sideOf radius * sideOf radius := by
  simp [squarePoints_eq]

theorem place_within (i : Nat) : (g.place center radius i).Within g.width g.height :=
  g.normalize_within _

theorem offsets_eq_span : offsets radius = (span (2 * radius + 1)).map (· - radius) := by
  simp only [offsets, span, List.map_map]
  rfl

theorem readSquare_eq_view (clear : g.ClearSquare center radius)
    (clear' : g.ClearWindow ⟨center.x - radius, center.y - radius⟩ (2 * radius + 1)
      (2 * radius + 1)) :
    g.readSquare center radius =
      (g.view ⟨center.x - radius, center.y - radius⟩ (2 * radius + 1) (2 * radius + 1)).map
        List.flatten := by
  have shifted (middle shift : Int) : middle + (shift - radius) = middle - radius + shift := by omega
  rw [readSquare, view, around_of_clear clear.columns clear.rows (fun _ => within_offsets)
    fun _ => within_offsets, around_of_clear clear'.columns clear'.rows (fun _ => within_span)
    fun _ => within_span]
  simp only [offsets_eq_span, List.map_map, Function.comp_def, Point.offset, shifted]

theorem place_eq_iff (i j : Nat) :
    g.place center radius i = g.place center radius j ↔
      i % sideOf radius % g.width = j % sideOf radius % g.width ∧
        i / sideOf radius % g.height = j / sideOf radius % g.height := by
  have apart (middle : Int) (a : Nat) : middle + (a - radius) = a + (middle - radius) := by omega
  simp only [place, normalize, Point.offset, Point.mk.injEq, apart, Int.emod_add_cancel_right]
  omega

theorem place_injective (wide : sideOf radius ≤ g.width) (high : sideOf radius ≤ g.height)
    {i j : Nat} (first : i < sideOf radius * sideOf radius) (second : j < sideOf radius * sideOf radius)
    (same : g.place center radius i = g.place center radius j) : i = j := by
  have positive : 0 < sideOf radius := Nat.pos_of_mul_pos_left (Nat.zero_lt_of_lt first)
  have column (n : Nat) : n % sideOf radius % g.width = n % sideOf radius :=
    Nat.mod_eq_of_lt (Nat.lt_of_lt_of_le (Nat.mod_lt n positive) wide)
  have row {n : Nat} (inside : n < sideOf radius * sideOf radius) :
      n / sideOf radius % g.height = n / sideOf radius :=
    Nat.mod_eq_of_lt (Nat.lt_of_lt_of_le (Nat.div_lt_of_lt_mul inside) high)
  obtain ⟨columns, rows⟩ := (g.place_eq_iff center radius i j).mp same
  rw [column, column] at columns
  rw [row first, row second] at rows
  rw [← Nat.div_add_mod i (sideOf radius), ← Nat.div_add_mod j (sideOf radius), columns, rows]

/-- In a row that is longer than the torus the first cell is met again. -/
theorem place_width (wide : g.width < sideOf radius) :
    g.place center radius g.width = g.place center radius 0 := by
  rw [place_eq_iff]
  simp [Nat.mod_eq_of_lt wide, Nat.div_eq_of_lt wide]

theorem place_height (high : g.height < sideOf radius) :
    g.place center radius (g.height * sideOf radius) = g.place center radius 0 := by
  rw [place_eq_iff]
  simp [Nat.mul_div_cancel g.height (Nat.zero_lt_of_lt high)]

theorem squarePoints_nodup_iff (positive : 0 < sideOf radius) :
    (g.squarePoints center radius).Nodup ↔
      sideOf radius ≤ g.width ∧ sideOf radius ≤ g.height := by
  rw [squarePoints_eq, List.nodup_map_iff_inj_on List.nodup_range]
  simp only [List.mem_range]
  constructor
  · intro distinct
    constructor
    · refine Nat.le_of_not_lt fun wide => ?_
      have inside : g.width < sideOf radius * sideOf radius :=
        Nat.lt_of_lt_of_le wide (Nat.le_mul_of_pos_left _ positive)
      have none := distinct _ inside 0 (Nat.mul_pos positive positive) (g.place_width center radius wide)
      exact Nat.ne_of_gt g.width_pos none
    · refine Nat.le_of_not_lt fun high => ?_
      have inside : g.height * sideOf radius < sideOf radius * sideOf radius :=
        Nat.mul_lt_mul_of_pos_right high positive
      have none := distinct _ inside 0 (Nat.mul_pos positive positive)
        (g.place_height center radius high)
      exact Nat.ne_of_gt (Nat.mul_pos g.height_pos positive) none
  · rintro ⟨wide, high⟩ i first j second same
    exact g.place_injective center radius wide high first second same

/-- A square that does not go beyond the words is the list of its cells, each read by itself, and
there are none if its radius is negative; such a window has at each row and column the cell so far
down and right of its corner; and such a square is a window, one row after another. At a place beyond
the words nothing is read. A square has as many cells as its side by its side, all of them on the
torus, and they are different exactly if it is neither wider nor higher than that. -/
theorem regions_read_alike (g : Grid) (p : Point) (radius width height : Int) :
    (g.ClearSquare p radius →
      g.readSquare p radius = .ok ((g.squarePoints p radius).map g.read)) ∧
    (g.ClearSquare p radius → radius < 0 → g.readSquare p radius = .ok []) ∧
    (g.ClearWindow p width height →
      g.view p width height = .ok ((List.range height.toNat).map fun (j : Nat) =>
        (List.range width.toNat).map fun (i : Nat) => g.read ⟨p.x + i, p.y + j⟩)) ∧
    (g.ClearSquare p radius →
      g.ClearWindow ⟨p.x - radius, p.y - radius⟩ (2 * radius + 1) (2 * radius + 1) →
      g.readSquare p radius =
        (g.view ⟨p.x - radius, p.y - radius⟩ (2 * radius + 1) (2 * radius + 1)).map
          List.flatten) ∧
    (g.Beyond p → g.readSquare p radius = .error .coordinateTooLarge ∧
      g.view p width height = .error .coordinateTooLarge) ∧
    (0 ≤ radius →
      (g.squarePoints p radius).length = (2 * radius + 1) * (2 * radius + 1) ∧
      (∀ q ∈ g.squarePoints p radius, q.Within g.width g.height) ∧
      ((g.squarePoints p radius).Nodup ↔ 2 * radius + 1 ≤ min (g.width : Int) g.height)) := by
  refine ⟨readSquare_of_clear, ?_, view_of_clear, g.readSquare_eq_view p radius, ?_, ?_⟩
  · intro clear negative
    have none : sideOf radius = 0 := by
      unfold sideOf
      omega
    rw [readSquare_of_clear clear, squarePoints_eq, none]
    rfl
  · intro beyond
    rw [readSquare, view, around_of_beyond beyond, around_of_beyond beyond]
    exact ⟨rfl, rfl⟩
  · intro nonneg
    have side : (sideOf radius : Int) = 2 * radius + 1 := by
      unfold sideOf
      omega
    refine ⟨?_, ?_, ?_⟩
    · rw [squarePoints_length, Int.natCast_mul, side]
    · intro q member
      rw [squarePoints_eq] at member
      obtain ⟨i, _, rfl⟩ := List.mem_map.mp member
      exact g.place_within p radius i
    · rw [g.squarePoints_nodup_iff p radius (by omega), ← side]
      omega

/-- A square of radius one fits in a torus of four by three, but not in one of four by two. -/
theorem regions_read_alike_small :
    let low := uniform 4 2 (by decide) (by decide) 7
    let high := uniform 4 3 (by decide) (by decide) 7
    low.readSquare ⟨5, -1⟩ (-1) = .ok [] ∧
      low.readSquare ⟨5, -1⟩ 1 = .ok ((low.squarePoints ⟨5, -1⟩ 1).map low.read) ∧
      low.view ⟨5, -1⟩ 2 1 = .ok [[7, 7]] ∧
      low.readSquare ⟨5, 0x8000000000000000⟩ 1 = .error .coordinateTooLarge ∧
      ¬ (low.squarePoints ⟨5, -1⟩ 1).Nodup ∧ (high.squarePoints ⟨5, -1⟩ 1).Nodup := by
  intro low high
  obtain ⟨_, none, _⟩ := regions_read_alike low ⟨5, -1⟩ (-1) 0 0
  obtain ⟨square, _, window, _, _, shape⟩ := regions_read_alike low ⟨5, -1⟩ 1 2 1
  obtain ⟨_, _, _, _, beyond, _⟩ := regions_read_alike low ⟨5, 0x8000000000000000⟩ 1 0 0
  obtain ⟨_, _, _, _, _, shape'⟩ := regions_read_alike high ⟨5, -1⟩ 1 0 0
  refine ⟨none ⟨by decide, by decide⟩ (by decide), square ⟨by decide, by decide⟩,
    (window ⟨by decide, by decide⟩).trans (congrArg Except.ok (by decide +kernel)),
    (beyond (.inr (by decide))).1, ?_, ?_⟩
  · rw [(shape (by decide)).2.2]
    decide
  · rw [(shape' (by decide)).2.2]
    decide

def stack : Grid :=
  ((uniform 1 3 Nat.one_pos (by decide) 1).write ⟨0, 1⟩ 2).write ⟨0, 2⟩ 3

/-- Around the last word a square and a window meet the row of the middle again, and not the one
below it, which the places of the square and single cells do. -/
theorem rows_go_round_after_the_last_word :
    let last : Point := ⟨0, 0x7fffffffffffffff⟩
    IsWord last.x ∧ IsWord last.y ∧
      (stack.readSquare last 1).toOption = some [1, 1, 1, 2, 2, 2, 2, 2, 2] ∧
      (stack.squarePoints last 1).map stack.read = [1, 1, 1, 2, 2, 2, 3, 3, 3] ∧
      (stack.view last 1 2).toOption = some [[2], [2]] ∧
      stack.read (last.offset 0 0) = 2 ∧ stack.read (last.offset 0 1) = 3 := by
  decide +kernel

end Grid
end Terrarium
