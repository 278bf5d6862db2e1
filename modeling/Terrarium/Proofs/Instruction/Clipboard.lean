import Terrarium.Proofs.Habitat.Corruption
import Terrarium.Proofs.Instruction.Cursor
import Terrarium.Proofs.Torus.Square

/-!
Copies of a square and pastes of it. Main statement: what is read of a square can be written back,
and what is written can be read back, as far as the square does not fall on its own cells.
-/

namespace Terrarium

namespace Habitat

theorem writeSquare_off {noise : NoiseSettings}
    (off : noise.writeErrorChance = none ∨ noise.writeErrorChance = some 0) {h : Habitat}
    {center : Point} {buffer : List UInt8} {grid : Grid}
    (written : h.grid.writeSquare center buffer = .ok grid) :
    h.writeSquare noise center buffer = .done { h with grid := grid } () := by
  simp only [writeSquare, corrupt_off off, Attempt.done_andThen, written]

theorem writeSquare_unwritten (noise : NoiseSettings) (h : Habitat) (center : Point)
    {buffer : List UInt8} (none : ∀ side, squareSide buffer.length ≠ .ok side) :
    (h.writeSquare noise center buffer).state.grid = h.grid := by
  have reached := writeSquare_within noise h center buffer
  exact Grid.ext_read reached.width reached.height fun p =>
    reached.elsewhere p fun ⟨side, found, _⟩ => none side found

end Habitat

namespace Scene

theorem moveOn_clipboard (s : Scene) (advance : Bool) :
    (s.moveOn advance).organism.clipboard = s.organism.clipboard :=
  s.moveOn_keeps advance [] .clipboard (by simp)

theorem run_copy (s : Scene) (rules : Rules) (advance : Bool) {cells : List UInt8}
    (read : s.habitat.grid.readSquare s.organism.cursor s.organism.radius = .ok cells) :
    let ran := s.run rules advance (some .copy)
    ran.answer = .ok .proceed ∧ ran.state.organism.cursor = s.organism.cursor ∧
      ran.state.organism.clipboard = cells := by
  intro ran
  have copied : s.act rules .copy =
      .done { s with organism := { s.organism with clipboard := cells } } .proceed := by
    simp only [act, copy, read]
  have reached : ran = .done
      (moveOn { s with organism := { s.organism with clipboard := cells } } advance) .proceed := by
    simp only [ran, run, copied, Attempt.done_andThen]
  rw [reached]
  exact ⟨rfl, moveOn_cursor _ advance, moveOn_clipboard _ advance⟩

/-- To paste what the square around the cursor holds already changes nothing. -/
theorem run_paste_same {rules : Rules}
    (off : rules.noise.writeErrorChance = none ∨ rules.noise.writeErrorChance = some 0) (s : Scene)
    (advance : Bool) {r : Nat} (small : r ≤ 10)
    (held : s.organism.clipboard =
      (s.habitat.grid.squarePoints s.organism.cursor r).map s.habitat.grid.read) :
    (s.run rules advance (some .paste)).state.habitat = s.habitat := by
  have written := s.habitat.grid.writeSquare_held s.organism.cursor small
  rw [run_habitat, act_paste_habitat, held, Habitat.writeSquare_off off written]
  rfl

/-- Reading a square and writing it undo each other, where the square does not go beyond the words.
What is read can be written back, and a paste of what has been copied at the same cursor changes
nothing while write errors are off. A square that is written, wherever its middle is, leaves in each
of its cells the byte of the last of its positions that fall there, and no other cell changes; the
square is read back from there, and as it was written if it does not fall on its own cells. A buffer
of any other size is refused, and no cell changes. Around a place beyond the words nothing is read. -/
theorem squares_written_and_read (g : Grid) (center : Point) {r : Nat} (small : r ≤ 10) :
    (g.ClearSquare center r →
      ∃ cells, g.readSquare center r = .ok cells ∧ g.writeSquare center cells = .ok g) ∧
    (∀ (s t : Scene) (rules : Rules) (advance advance' : Bool),
      rules.noise.writeErrorChance = none ∨ rules.noise.writeErrorChance = some 0 →
      s.habitat.grid = g → s.organism.cursor = center → s.organism.radius = r →
      g.ClearSquare center r →
      let copied := s.run rules advance (some .copy)
      copied.answer = .ok .proceed ∧ copied.state.habitat = s.habitat ∧
        copied.state.organism.cursor = center ∧
        (t.habitat.grid = g → t.organism.cursor = center →
          t.organism.clipboard = copied.state.organism.clipboard →
          (t.run rules advance' (some .paste)).state.habitat = t.habitat)) ∧
    (∀ buffer : List UInt8, buffer.length = (2 * r + 1) * (2 * r + 1) →
      ∃ h, g.writeSquare center buffer = .ok h ∧ h.width = g.width ∧ h.height = g.height ∧
        (∀ p : Point, g.covering center r p = ∅ ∧ h.read p = g.read p ∨
          ∃ i : Nat, IsGreatest (g.covering center r p) i ∧ buffer[i]? = some (h.read p)) ∧
        (g.ClearSquare center r → ∃ cells, h.readSquare center r = .ok cells ∧
          (∀ (i : Nat) (q : Point), (g.squarePoints center r)[i]? = some q →
            ∃ j : Nat, IsGreatest (g.covering center r q) j ∧ cells[i]? = buffer[j]?) ∧
          (2 * r + 1 ≤ min g.width g.height → cells = buffer))) ∧
    (∀ buffer : List UInt8, (∀ q ≤ 10, buffer.length ≠ (2 * q + 1) * (2 * q + 1)) →
      ∃ fault, g.writeSquare center buffer = .error fault ∧ fault.kind = "ValueError" ∧
        ∀ (noise : NoiseSettings) (h : Habitat), h.grid = g →
          (h.writeSquare noise center buffer).state.grid = g) ∧
    (g.Beyond center → g.readSquare center r = .error .coordinateTooLarge) := by
  refine ⟨?_, ?_, ?_, ?_, ?_⟩
  · exact fun clear => ⟨_, Grid.readSquare_of_clear clear, g.writeSquare_held center small⟩
  · rintro s t rules advance advance' off rfl rfl radius clear copied
    have read := Grid.readSquare_of_clear clear
    obtain ⟨answer, still, held⟩ := s.run_copy rules advance (radius ▸ read)
    refine ⟨answer, ?_, still, fun grid cursor clipboard => ?_⟩
    · exact (s.run_habitat rules advance .copy).trans (s.act_habitat rules rfl)
    · refine run_paste_same off t advance' small ?_
      rw [clipboard, grid, cursor, ← radius]
      exact held
  · intro buffer length
    have shape := g.writeCells_shape ((g.squarePoints center r).zip buffer)
    refine ⟨_, g.writeSquare_of_radius center small length, shape.1, shape.2,
      Grid.read_written length, fun clear => ?_⟩
    have read := Grid.readSquare_of_clear (clear.of_sides shape.1 shape.2)
    rw [Grid.squarePoints_of_sides shape.1 shape.2] at read
    exact ⟨_, read, fun i q => Grid.held_written length, Grid.held_written_apart length⟩
  · intro buffer other
    have none := sideless_of_radius other
    refine ⟨_, g.writeSquare_sideless center none, rfl, ?_⟩
    rintro noise h rfl
    exact h.writeSquare_unwritten noise center none
  · intro beyond
    rw [Grid.readSquare, Grid.around_of_beyond beyond]
    rfl

/-- Nine bytes on a torus of four cells. The four corners of the square are one cell, and the last of
them stays; on a torus of nine cells the square is read back. -/
theorem squares_written_and_read_small :
    let low := Grid.uniform 2 2 (by decide) (by decide) 0
    let high := Grid.uniform 3 3 (by decide) (by decide) 0
    let buffer : List UInt8 := [1, 2, 3, 4, 5, 6, 7, 8, 9]
    let s : Scene := ⟨{ Organism.newborn ⟨0, 0⟩ .right with radius := 1 },
      { grid := low, generator := Generator.ofSeed 7 }⟩
    let copied := (s.run {} true (some .copy)).state
    (∃ cells, low.readSquare ⟨0, 0⟩ 1 = .ok cells ∧ low.writeSquare ⟨0, 0⟩ cells = .ok low) ∧
      (copied.run {} true (some .paste)).state.habitat = s.habitat ∧
      (∃ h, low.writeSquare ⟨0, 0⟩ buffer = .ok h ∧ h.read ⟨1, 1⟩ = 9) ∧
      (∃ h, high.writeSquare ⟨0, 0⟩ buffer = .ok h ∧ h.readSquare ⟨0, 0⟩ 1 = .ok buffer) ∧
      (∃ fault, low.writeSquare ⟨0, 0⟩ [1, 2] = .error fault ∧ fault.kind = "ValueError") ∧
      low.readSquare ⟨0, 0x8000000000000000⟩ 1 = .error .coordinateTooLarge := by
  intro low high buffer s copied
  have small : 1 ≤ 10 := by decide
  obtain ⟨back, pasted, lands, refused, _⟩ := squares_written_and_read low ⟨0, 0⟩ small
  obtain ⟨_, _, lands', _⟩ := squares_written_and_read high ⟨0, 0⟩ small
  obtain ⟨_, _, _, _, beyond⟩ := squares_written_and_read low ⟨0, 0x8000000000000000⟩ small
  have clear : low.ClearSquare ⟨0, 0⟩ (1 : Nat) := ⟨by decide, by decide⟩
  have clear' : high.ClearSquare ⟨0, 0⟩ (1 : Nat) := ⟨by decide, by decide⟩
  obtain ⟨_, same, still, unchanged⟩ := pasted s copied {} true true (Or.inl rfl) rfl rfl rfl clear
  obtain ⟨h, written, _, _, cells, _⟩ := lands buffer rfl
  obtain ⟨h', written', _, _, _, readBack⟩ := lands' buffer rfl
  obtain ⟨_, read, _, whole⟩ := readBack clear'
  obtain ⟨fault, error, kind, _⟩ := refused [1, 2] (by decide)
  refine ⟨back clear, (unchanged (congrArg Habitat.grid same) still rfl).trans same,
    ⟨h, written, ?_⟩, ⟨h', written', whole (by decide) ▸ read⟩, ⟨fault, error, kind⟩,
    beyond (.inr (by decide))⟩
  have covers : 8 ∈ low.covering ⟨0, 0⟩ 1 ⟨1, 1⟩ := by
    show (low.squarePoints ⟨0, 0⟩ 1)[8]? = some (low.normalize ⟨1, 1⟩)
    decide +kernel
  rcases cells ⟨1, 1⟩ with ⟨none, _⟩ | ⟨i, last, landed⟩
  · exact absurd (none ▸ covers) (Set.notMem_empty 8)
  · have later : 8 ≤ i := last.2 covers
    have below : i < 9 := (List.getElem?_eq_some_iff.mp landed).1
    have corner : i = 8 := by omega
    rw [corner] at landed
    exact (Option.some.inj landed).symm

/-- Around the last word a square is read that is another when it is written back: the cell below the
middle takes the byte of the middle. -/
theorem square_written_back_after_the_last_word :
    let last : Point := ⟨0, 0x7fffffffffffffff⟩
    ∃ cells h, Grid.stack.readSquare last 1 = .ok cells ∧
      Grid.stack.writeSquare last cells = .ok h ∧
      Grid.stack.read ⟨0, 2⟩ = 3 ∧ h.read ⟨0, 2⟩ = 2 := by
  refine ⟨[1, 1, 1, 2, 2, 2, 2, 2, 2], _, rfl,
    Grid.stack.writeSquare_of_radius _ (r := 1) (by decide) rfl, rfl, by decide +kernel⟩

end Scene
end Terrarium
