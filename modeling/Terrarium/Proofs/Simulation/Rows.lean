import Mathlib.Order.Lattice.Nat
import Terrarium.Proofs.Simulation.Planting
import Terrarium.Proofs.Simulation.Refusal

/-!
Rows of instructions. A row that is longer than the torus is wide goes round and writes over itself,
so a column keeps the last instruction that comes to it. Main statement: what a row leaves in each
cell, and that it is laid out like its instructions one by one.
-/

namespace Terrarium

theorem Instruction.isUnknown_of_known {mnemonic : String} (known : IsKnown mnemonic) :
    isUnknown mnemonic = false := by
  obtain ⟨row, found⟩ := (resolves_map Prod.fst).known mnemonic known
  have found : byteOf mnemonic = .ok row := found
  simp [isUnknown, found, Except.isOk, Except.toBool]

namespace Grid
variable (g : Grid) (p : Point)

theorem row_place_eq_iff (i j : Nat) :
    g.normalize ⟨p.x + i, p.y⟩ = g.normalize ⟨p.x + j, p.y⟩ ↔ i % g.width = j % g.width := by
  simp only [normalize, Point.mk.injEq, and_true, Int.emod_add_cancel_left]
  omega

theorem rowCells_eq_zip {α : Type} (p : Point) (row : List α) :
    rowCells p 0 row =
      ((List.range row.length).map fun (i : Nat) => (⟨p.x + i, p.y⟩ : Point)).zip row := by
  apply List.ext_getElem
  · simp [rowCells]
  · intro i _ _
    simp [rowCells]

def comingTo (length : Nat) (j : Nat) : Set Nat := {i | i < length ∧ i % g.width = j}

theorem comingTo_last {length j : Nat} (below : j < min length g.width) :
    ∃ i, IsGreatest (g.comingTo length j) i := by
  have bounded : BddAbove (g.comingTo length j) := ⟨length, fun _ comes => Nat.le_of_lt comes.1⟩
  have first : j ∈ g.comingTo length j := ⟨by omega, Nat.mod_eq_of_lt (by omega)⟩
  exact ⟨_, Nat.sSup_mem ⟨j, first⟩ bounded, fun _ comes => le_csSup bounded comes⟩

/-- A column keeps the last byte that comes to it. -/
theorem read_row {bytes : List UInt8} {i j : Nat}
    (last : IsGreatest (g.comingTo bytes.length j) i) :
    bytes[i]? = some ((g.writeCells (rowCells p 0 bytes)).read ⟨p.x + j, p.y⟩) := by
  obtain ⟨⟨inside, column⟩, greatest⟩ := last
  have below : j < g.width := column ▸ Nat.mod_lt i g.width_pos
  rw [rowCells_eq_zip]
  have place : ((List.range bytes.length).map fun (i : Nat) => (⟨p.x + i, p.y⟩ : Point))[i]? =
      some ⟨p.x + i, p.y⟩ := by simp [inside]
  refine g.read_writeCells_zip (by simp) place ?_ ?_
  · rw [row_place_eq_iff, column, Nat.mod_eq_of_lt below]
  · intro k r later found here
    obtain ⟨ranged, rfl⟩ := List.getElem?_eq_some_iff.mp found
    rw [List.getElem_map, List.getElem_range, row_place_eq_iff, Nat.mod_eq_of_lt below] at here
    have comes : k ∈ g.comingTo bytes.length j := ⟨by simpa using ranged, here⟩
    exact Nat.not_lt_of_le (greatest comes) later

theorem read_row_apart {bytes : List UInt8} {q : Point}
    (apart : ∀ j < min bytes.length g.width, g.normalize q ≠ g.normalize ⟨p.x + j, p.y⟩) :
    (g.writeCells (rowCells p 0 bytes)).read q = g.read q := by
  refine g.read_writeCells_apart fun cell member here => ?_
  obtain ⟨⟨byte, i⟩, listed, rfl⟩ := List.mem_map.mp member
  have inside : i < bytes.length := by
    have := List.snd_lt_of_mem_zipIdx listed
    omega
  have below : i % g.width < g.width := Nat.mod_lt i g.width_pos
  have first : i % g.width ≤ i := Nat.mod_le i g.width
  refine apart (i % g.width) (by omega) ?_
  rw [← here, row_place_eq_iff, Nat.mod_mod]

end Grid

namespace Simulation
variable {mnemonics : List String}

theorem writeInstructions_known (s : Simulation) (p : Point)
    (known : ∀ mnemonic ∈ mnemonics, Instruction.isUnknown mnemonic = false) :
    s.writeInstructions p mnemonics = .done (s.withGrid (s.grid.writeCells
      (Grid.rowCells p 0 (mnemonics.map Instruction.opcode)))) () := by
  have start : s.grid.normalize p = s.grid.normalize ⟨p.x + (0 : Nat), p.y⟩ := by simp
  rw [writeInstructions, Instruction.resolveAll_known known, start]
  exact congrArg (fun grid => Attempt.done (s.withGrid grid) ()) (s.grid.writeRow_eq p 0 _)

/-- One instruction after another, each in its place, is written like the row of them. -/
theorem forEach_writeInstruction (s : Simulation) (p : Point) (start : Nat)
    (known : ∀ mnemonic ∈ mnemonics, Instruction.isUnknown mnemonic = false) :
    Attempt.forEach (fun (s : Simulation) (item : String × Nat) =>
        s.writeInstruction ⟨p.x + item.2, p.y⟩ item.1) (mnemonics.zipIdx start) s =
      .done (s.withGrid (s.grid.writeCells
        (Grid.rowCells p start (mnemonics.map Instruction.opcode)))) () := by
  induction mnemonics generalizing s start with
  | nil => rfl
  | cons first rest ih =>
      have written : s.writeInstruction ⟨p.x + start, p.y⟩ first =
          .done (s.withGrid (s.grid.write ⟨p.x + start, p.y⟩ (Instruction.opcode first))) () := by
        rw [writeInstruction, Instruction.byteOf_known (known first List.mem_cons_self)]
      rw [List.zipIdx_cons, Attempt.forEach, written, Attempt.done_andThen,
        ih _ (start + 1) fun other later => known other (List.mem_cons_of_mem _ later)]
      rfl

/-- A row of known mnemonics leaves in each column the opcode of the last that comes to it, and
nothing else of the simulation is touched: no cell beside its columns, and no part but the grid. It
is laid out like its instructions one by one. -/
theorem rows_go_round (s : Simulation) (p : Point) {mnemonics : List String}
    (known : ∀ mnemonic ∈ mnemonics, Instruction.IsKnown mnemonic) :
    ∃ g : Grid,
      s.writeInstructions p mnemonics = .done (s.withGrid g) () ∧
      Attempt.forEach (fun (s : Simulation) (item : String × Nat) =>
        s.writeInstruction ⟨p.x + item.2, p.y⟩ item.1) mnemonics.zipIdx s =
          .done (s.withGrid g) () ∧
      g.width = s.grid.width ∧ g.height = s.grid.height ∧
      (∀ j < min mnemonics.length g.width, ∃ i mnemonic,
        IsGreatest {i | i < mnemonics.length ∧ i % g.width = j} i ∧
        mnemonics[i]? = some mnemonic ∧
        Instruction.byteOf mnemonic = .ok (g.read ⟨(p.x + j) % g.width, p.y % g.height⟩)) ∧
      ∀ q : Point, (∀ j < min mnemonics.length g.width,
          g.normalize q ≠ ⟨(p.x + j) % g.width, p.y % g.height⟩) →
        g.read q = s.grid.read q := by
  have known (mnemonic : String) (member : mnemonic ∈ mnemonics) :
      Instruction.isUnknown mnemonic = false := Instruction.isUnknown_of_known (known mnemonic member)
  obtain ⟨bytes, encoded⟩ : ∃ bytes, mnemonics.map Instruction.opcode = bytes := ⟨_, rfl⟩
  have length : bytes.length = mnemonics.length := by rw [← encoded, List.length_map]
  obtain ⟨g, laid⟩ : ∃ g, s.grid.writeCells (Grid.rowCells p 0 bytes) = g := ⟨_, rfl⟩
  obtain ⟨wide, high⟩ := s.grid.writeCells_shape (Grid.rowCells p 0 bytes)
  have row := writeInstructions_known s p known
  have each := forEach_writeInstruction s p 0 known
  rw [encoded, laid] at row each
  rw [laid] at wide high
  refine ⟨g, row, each, wide, high, ?_, ?_⟩
  · intro j below
    rw [wide, ← length] at below ⊢
    obtain ⟨i, last⟩ := s.grid.comingTo_last below
    have found := s.grid.read_row p last
    rw [laid, ← encoded, List.getElem?_map, Option.map_eq_some_iff] at found
    obtain ⟨mnemonic, listed, byte⟩ := found
    refine ⟨i, mnemonic, last, listed, ?_⟩
    rw [Instruction.byteOf_known (known mnemonic (List.mem_of_getElem? listed)), byte, ← wide]
    exact congrArg Except.ok (g.read_normalize ⟨p.x + j, p.y⟩).symm
  · intro q apart
    rw [← laid]
    refine s.grid.read_row_apart p fun j below => ?_
    rw [length, ← wide] at below
    rw [← s.grid.normalize_writeCells (Grid.rowCells p 0 bytes) q,
      ← s.grid.normalize_writeCells (Grid.rowCells p 0 bytes) ⟨p.x + j, p.y⟩, laid]
    exact apart j below

/-- On two cells the third of three instructions replaces the first. -/
theorem rows_go_round_twoCells :
    (∀ mnemonic ∈ ["@@", "+b", "+a"], Instruction.IsKnown mnemonic) ∧
      ∃ t, twoCells.writeInstructions ⟨-1, 5⟩ ["@@", "+b", "+a"] = .done t () ∧
        t.grid.read ⟨1, 0⟩ = 14 ∧ t.grid.read ⟨0, 0⟩ = 15 := by
  have known : ∀ mnemonic ∈ ["@@", "+b", "+a"], Instruction.IsKnown mnemonic := by decide +kernel
  obtain ⟨g, laid, _, wide, high, column, _⟩ := rows_go_round twoCells ⟨-1, 5⟩ known
  have wide : g.width = 2 := wide
  have high : g.height = 1 := high
  rw [wide, high] at column
  refine ⟨known, _, laid, ?_, ?_⟩
  · obtain ⟨i, mnemonic, ⟨⟨below, even⟩, greatest⟩, listed, found⟩ := column 0 (by decide)
    have again : 2 ≤ i := greatest ⟨by decide, by decide⟩
    have third : i = 2 := Nat.le_antisymm (Nat.le_of_lt_succ below) again
    subst third
    cases listed
    exact Except.ok.inj found.symm
  · obtain ⟨i, mnemonic, ⟨⟨below, odd⟩, _⟩, listed, found⟩ := column 1 (by decide)
    have second : i = 1 := by
      have below : i < 3 := below
      omega
    subst second
    cases listed
    exact Except.ok.inj found.symm

end Simulation
end Terrarium
