import Mathlib.Data.Set.Card
import Terrarium.Proofs.Torus.Addressing
import Terrarium.Simulation.Control

/-!
What a number of writes leaves on a torus: at each address the last byte written to it, or what
was there before. A row of bytes is written like its cells one after another.
-/

namespace Terrarium.Grid
variable (g : Grid)

theorem normalize_of_sides {g h : Grid} (width : h.width = g.width) (height : h.height = g.height)
    (p : Point) : h.normalize p = g.normalize p := by
  rw [normalize, width, height, normalize]

theorem normalize_writeCells (cells : List (Point × UInt8)) (p : Point) :
    (g.writeCells cells).normalize p = g.normalize p :=
  normalize_of_sides (g.writeCells_shape cells).1 (g.writeCells_shape cells).2 p

theorem writeCells_append (first rest : List (Point × UInt8)) :
    g.writeCells (first ++ rest) = (g.writeCells first).writeCells rest := List.foldl_append

theorem read_writeCells_apart {cells : List (Point × UInt8)} {p : Point}
    (apart : ∀ cell ∈ cells, g.normalize cell.1 ≠ g.normalize p) :
    (g.writeCells cells).read p = g.read p := by
  induction cells generalizing g with
  | nil => rfl
  | cons cell rest ih =>
      have later : ((g.write cell.1 cell.2).writeCells rest).read p =
          (g.write cell.1 cell.2).read p :=
        ih (g.write cell.1 cell.2) fun cell member => apart cell (List.mem_cons_of_mem _ member)
      exact later.trans (by rw [read_write, if_neg (apart cell List.mem_cons_self)])

theorem read_writeCells_last {before after : List (Point × UInt8)} {p q : Point} {value : UInt8}
    (here : g.normalize q = g.normalize p)
    (apart : ∀ cell ∈ after, g.normalize cell.1 ≠ g.normalize p) :
    (g.writeCells (before ++ (q, value) :: after)).read p = value := by
  have same (r : Point) : (g.writeCells before).normalize r = g.normalize r :=
    g.normalize_writeCells before r
  rw [writeCells_append]
  refine (read_writeCells_apart ((g.writeCells before).write q value) fun cell member => ?_).trans ?_
  · rw [normalize_write, normalize_write, same, same]
    exact apart cell member
  · rw [read_write, same, same, if_pos here]

/-- Either some write is the last one to an address, or nothing has been written there. -/
theorem read_writeCells_cases (cells : List (Point × UInt8)) (p : Point) :
    (∃ before q value after, cells = before ++ (q, value) :: after ∧
        g.normalize q = g.normalize p ∧ (∀ cell ∈ after, g.normalize cell.1 ≠ g.normalize p) ∧
        (g.writeCells cells).read p = value) ∨
      ((∀ cell ∈ cells, g.normalize cell.1 ≠ g.normalize p) ∧
        (g.writeCells cells).read p = g.read p) := by
  induction cells generalizing g with
  | nil => exact Or.inr ⟨by simp, rfl⟩
  | cons cell rest ih =>
      rcases ih (g.write cell.1 cell.2) with
        ⟨before, q, value, after, rfl, here, last, found⟩ | ⟨apart, same⟩
      · exact Or.inl ⟨cell :: before, q, value, after, rfl, here, last, found⟩
      · have first : (g.writeCells (cell :: rest)).read p = (g.write cell.1 cell.2).read p := same
        rw [read_write] at first
        by_cases here : g.normalize cell.1 = g.normalize p
        · exact Or.inl ⟨[], cell.1, cell.2, rest, rfl, here, apart, by rw [first, if_pos here]⟩
        · exact Or.inr ⟨List.forall_mem_cons.mpr ⟨here, apart⟩, by rw [first, if_neg here]⟩

theorem differing_encard_le (cells : List (Point × UInt8)) :
    {p : Point | p.Within g.width g.height ∧
      (g.writeCells cells).read p ≠ g.read p}.encard ≤ cells.length := by
  have places : {p : Point | p.Within g.width g.height ∧
      (g.writeCells cells).read p ≠ g.read p} ⊆
        ((cells.map fun cell => g.normalize cell.1).toFinset : Set Point) := by
    rintro p ⟨inside, differs⟩
    by_contra spared
    refine differs (g.read_writeCells_apart fun cell member here => spared ?_)
    rw [g.normalize_of_within inside] at here
    exact List.mem_toFinset.mpr (List.mem_map.mpr ⟨cell, member, here⟩)
  calc _ ≤ _ := Set.encard_le_encard places
    _ = ((cells.map fun cell => g.normalize cell.1).toFinset.card : ℕ∞) :=
        Set.encard_coe_eq_coe_finsetCard _
    _ ≤ cells.length := by
        rw [← List.length_map fun cell : Point × UInt8 => g.normalize cell.1]
        exact_mod_cast List.toFinset_card_le _

theorem write_read (p : Point) : g.write p (g.read p) = g := by
  refine ext_read rfl rfl fun q => ?_
  rw [read_write]
  split
  · next same => exact g.read_congr same
  · rfl

theorem writeCells_read (points : List Point) :
    g.writeCells (points.zip (points.map g.read)) = g := by
  induction points with
  | nil => rfl
  | cons p points ih =>
      have first : (g.write p (g.read p)).writeCells (points.zip (points.map g.read)) = g := by
        rw [write_read, ih]
      exact first

theorem read_writeCells_zip {points : List Point} {buffer : List UInt8} {i : Nat} {p q : Point}
    (length : points.length = buffer.length) (place : points[i]? = some q)
    (here : g.normalize q = g.normalize p)
    (last : ∀ j r, i < j → points[j]? = some r → g.normalize r ≠ g.normalize p) :
    buffer[i]? = some ((g.writeCells (points.zip buffer)).read p) := by
  obtain ⟨below, found⟩ := List.getElem?_eq_some_iff.mp place
  have inside : i < buffer.length := length ▸ below
  have cells : points.zip buffer =
      (points.zip buffer).take i ++ (q, buffer[i]) :: (points.zip buffer).drop (i + 1) := by
    have bound : i < (points.zip buffer).length := by
      rw [List.length_zip]
      omega
    have split := (List.take_append_drop i (points.zip buffer)).symm
    rwa [List.drop_eq_getElem_cons bound, List.getElem_zip, found] at split
  rw [cells, g.read_writeCells_last here, List.getElem?_eq_getElem inside]
  intro cell later
  obtain ⟨k, there⟩ := List.mem_iff_getElem?.mp later
  rw [List.getElem?_drop, List.getElem?_zip_eq_some] at there
  exact last _ cell.1 (by omega) there.1

theorem read_uniform {width height : Nat} (width_pos : 0 < width) (height_pos : 0 < height)
    (value : UInt8) (p : Point) : (uniform width height width_pos height_pos value).read p = value := by
  simp [read, uniform, Vector.get]

theorem lowByte_toNat (byte : UInt8) : lowByte byte.toNat = byte := by
  have small := byte.toNat_lt
  unfold lowByte
  rw [Int.emod_eq_of_lt (by omega) (by omega)]
  simp

theorem build_eq {width height : Nat} (width_pos : 0 < width) (height_pos : 0 < height)
    (fill : UInt8) :
    build width height fill.toNat = .ok (uniform width height width_pos height_pos fill) := by
  simp [build, width_pos, height_pos, lowByte_toNat]

def rowCells {α : Type} (p : Point) (start : Nat) (row : List α) : List (Point × α) :=
  (row.zipIdx start).map fun (item, i) => (⟨p.x + i, p.y⟩, item)

theorem rowCells_map {α β : Type} (f : α → β) (p : Point) (start : Nat) (row : List α) :
    rowCells p start (row.map f) = (rowCells p start row).map fun cell => (cell.1, f cell.2) := by
  simp [rowCells, List.zipIdx_map, List.map_map, Function.comp_def]

theorem writeRow_eq (p : Point) (start : Nat) (bytes : List UInt8) :
    g.writeRow (g.normalize ⟨p.x + start, p.y⟩) bytes = g.writeCells (rowCells p start bytes) := by
  induction bytes generalizing g start with
  | nil => rfl
  | cons byte rest ih =>
      have next : g.step (g.normalize ⟨p.x + start, p.y⟩) .right 1 =
          g.normalize ⟨p.x + (start + 1 : Nat), p.y⟩ := by
        simp [step, normalize, Point.shift, Direction.dx, Direction.dy, Int.add_assoc]
      rw [writeRow, write_normalize, next]
      exact ih (g.write ⟨p.x + start, p.y⟩ byte) (start + 1)

end Terrarium.Grid
