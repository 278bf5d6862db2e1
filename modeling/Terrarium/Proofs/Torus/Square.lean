import Mathlib.Order.Lattice.Nat
import Terrarium.Proofs.Torus.Region
import Terrarium.Proofs.Torus.Writing

/-!
Squares written and read again. A square larger than the torus falls on its own cells, and in each of
these the byte of its last position stays. What is read of a square can be put back with no effect.
-/

namespace Terrarium

theorem sideOf_radius (r : Nat) : sideOf r = 2 * r + 1 := by
  unfold sideOf
  omega

theorem squareSide_of_radius {r : Nat} (small : r ≤ 10) :
    squareSide ((2 * r + 1) * (2 * r + 1)) = .ok (2 * r + 1) :=
  squareSide_eq_ok_iff.mpr ⟨by omega, by unfold maxSide; omega, rfl⟩

theorem sideless_of_radius {length : Nat}
    (other : ∀ q ≤ 10, length ≠ (2 * q + 1) * (2 * q + 1)) (side : Nat) :
    squareSide length ≠ .ok side := by
  intro found
  obtain ⟨odd, most, square⟩ := squareSide_eq_ok_iff.mp found
  unfold maxSide at most
  have whole : side = 2 * (side / 2) + 1 := by omega
  exact other (side / 2) (by omega) (whole ▸ square)

namespace Grid
variable {g h : Grid} {center p : Point} {r : Nat} {buffer : List UInt8}

theorem squarePoints_of_sides (width : h.width = g.width) (height : h.height = g.height)
    (center : Point) (radius : Int) : h.squarePoints center radius = g.squarePoints center radius := by
  simp only [squarePoints, normalize_of_sides width height]

theorem squarePoints_normalized {q : Point} {radius : Int} (member : q ∈ g.squarePoints center radius) :
    g.normalize q = q := by
  rw [squarePoints_eq] at member
  obtain ⟨i, _, rfl⟩ := List.mem_map.mp member
  exact g.normalize_of_within (g.place_within center radius i)

theorem squarePoints_square (g : Grid) (center : Point) (r : Nat) :
    (g.squarePoints center r).length = (2 * r + 1) * (2 * r + 1) := by
  rw [squarePoints_length, sideOf_radius]

theorem ClearSquare.of_sides {radius : Int} (clear : g.ClearSquare center radius)
    (width : h.width = g.width) (height : h.height = g.height) : h.ClearSquare center radius :=
  ⟨width ▸ clear.columns, height ▸ clear.rows⟩

theorem writeSquare_of_radius (g : Grid) (center : Point) (small : r ≤ 10)
    (length : buffer.length = (2 * r + 1) * (2 * r + 1)) :
    g.writeSquare center buffer = .ok (g.writeCells ((g.squarePoints center r).zip buffer)) := by
  have half : (2 * r + 1) / 2 = r := by omega
  simp only [writeSquare, length, squareSide_of_radius small, half]

/-- To write what the cells of a square hold changes none of them. -/
theorem writeSquare_held (g : Grid) (center : Point) (small : r ≤ 10) :
    g.writeSquare center ((g.squarePoints center r).map g.read) = .ok g := by
  rw [writeSquare_of_radius g center small
    ((List.length_map _).trans (g.squarePoints_square center r)), writeCells_read]

theorem writeSquare_sideless (g : Grid) (center : Point)
    (none : ∀ side, squareSide buffer.length ≠ .ok side) :
    g.writeSquare center buffer = .error (.notOddSquare buffer.length) := by
  simp only [writeSquare, squareSide_eq_error none]

def covering (g : Grid) (center : Point) (radius : Int) (p : Point) : Set Nat :=
  {i | (g.squarePoints center radius)[i]? = some (g.normalize p)}

theorem covering_bounded (g : Grid) (center : Point) (radius : Int) (p : Point) :
    BddAbove (g.covering center radius p) :=
  ⟨(g.squarePoints center radius).length, fun _ covers =>
    Nat.le_of_lt (List.getElem?_eq_some_iff.mp covers).1⟩

theorem covering_last {radius : Int} (covered : (g.covering center radius p).Nonempty) :
    ∃ i, IsGreatest (g.covering center radius p) i :=
  ⟨_, Nat.sSup_mem covered (g.covering_bounded center radius p), fun _ covers =>
    le_csSup (g.covering_bounded center radius p) covers⟩

theorem read_written (length : buffer.length = (2 * r + 1) * (2 * r + 1)) (p : Point) :
    g.covering center r p = ∅ ∧
        (g.writeCells ((g.squarePoints center r).zip buffer)).read p = g.read p ∨
      ∃ i, IsGreatest (g.covering center r p) i ∧
        buffer[i]? = some ((g.writeCells ((g.squarePoints center r).zip buffer)).read p) := by
  rcases (g.covering center r p).eq_empty_or_nonempty with none | covered
  · refine .inl ⟨none, g.read_writeCells_apart fun cell written here => ?_⟩
    have member := (List.of_mem_zip written).1
    obtain ⟨i, found⟩ := List.mem_iff_getElem?.mp member
    rw [squarePoints_normalized member] at here
    have covers : i ∈ g.covering center r p := found.trans (congrArg some here)
    exact Set.notMem_empty i (none ▸ covers)
  · obtain ⟨i, covers, last⟩ := covering_last covered
    refine .inr ⟨i, ⟨covers, last⟩, ?_⟩
    refine g.read_writeCells_zip (by rw [squarePoints_square, length]) covers (by simp) ?_
    intro j q later found here
    rw [squarePoints_normalized (List.mem_of_getElem? found)] at here
    exact Nat.not_le_of_lt later (last (found.trans (congrArg some here)))

/-- What a square holds that has been written: each time the byte of the last position on the same
cell. -/
theorem held_written (length : buffer.length = (2 * r + 1) * (2 * r + 1)) {i : Nat} {q : Point}
    (found : (g.squarePoints center r)[i]? = some q) :
    ∃ j, IsGreatest (g.covering center r q) j ∧
      ((g.squarePoints center r).map
        (g.writeCells ((g.squarePoints center r).zip buffer)).read)[i]? = buffer[j]? := by
  have here : g.normalize q = q := squarePoints_normalized (List.mem_of_getElem? found)
  rcases read_written length q with ⟨none, _⟩ | ⟨j, last, landed⟩
  · have covers : i ∈ g.covering center r q := found.trans (congrArg some here.symm)
    exact absurd (none ▸ covers) (Set.notMem_empty i)
  · refine ⟨j, last, ?_⟩
    rw [List.getElem?_map, found, landed]
    rfl

theorem held_written_apart (length : buffer.length = (2 * r + 1) * (2 * r + 1))
    (fits : 2 * r + 1 ≤ min g.width g.height) :
    (g.squarePoints center r).map (g.writeCells ((g.squarePoints center r).zip buffer)).read =
      buffer := by
  have side := sideOf_radius r
  have distinct := (g.squarePoints_nodup_iff center r (by omega)).mpr (by omega)
  refine List.ext_getElem? fun i => ?_
  by_cases inside : i < (g.squarePoints center r).length
  · obtain ⟨j, last, landed⟩ := held_written length (List.getElem?_eq_getElem inside)
    have here : g.normalize (g.squarePoints center r)[i] = (g.squarePoints center r)[i] :=
      squarePoints_normalized (List.getElem_mem inside)
    have again : (g.squarePoints center r)[i]? = (g.squarePoints center r)[j]? := by
      rw [last.1, here, List.getElem?_eq_getElem inside]
    rw [landed, (List.getElem?_inj inside distinct).mp again]
  · rw [squarePoints_square] at inside
    have beyond := Nat.le_of_not_lt inside
    rw [List.getElem?_eq_none (by rwa [List.length_map, squarePoints_square]),
      List.getElem?_eq_none (by rwa [length])]

end Grid
end Terrarium
