import Terrarium.Proofs.Instruction.Failure
import Terrarium.Proofs.Instruction.Footprint
import Terrarium.Proofs.Torus.Writing

/-!
How far an instruction reaches. Only a write and a paste touch the habitat at all, and the torus
there no further than the cell at the cursor or the square around it. Main statement: which
mnemonics may change which trait of the organism and which of them what of its habitat, also
where the instruction fails.
-/

namespace Terrarium

namespace Grid

/-- In the square of so many cells a side around a point, that is half a side away from it at most
in either direction. -/
def InSquare (g : Grid) (center : Point) (side : Nat) (p : Point) : Prop :=
  ∃ dx dy : Int, dx.natAbs ≤ side / 2 ∧ dy.natAbs ≤ side / 2 ∧
    g.normalize p = g.normalize (center.offset dx dy)

theorem mem_offsets_iff (radius n : Int) : n ∈ offsets radius ↔ -radius ≤ n ∧ n ≤ radius := by
  simp only [offsets, List.mem_map, List.mem_range]
  constructor
  · rintro ⟨i, below, rfl⟩
    omega
  · rintro ⟨low, high⟩
    exact ⟨(n + radius).toNat, by omega, by omega⟩

theorem inSquare_of_mem_squarePoints {g : Grid} {center p q : Point} {side : Nat}
    (member : q ∈ g.squarePoints center (side / 2 : Nat)) (here : g.normalize q = g.normalize p) :
    g.InSquare center side p := by
  obtain ⟨dy, column, inner⟩ := List.mem_flatMap.mp member
  obtain ⟨dx, row, rfl⟩ := List.mem_map.mp inner
  have vertical := (mem_offsets_iff _ dy).mp column
  have horizontal := (mem_offsets_iff _ dx).mp row
  refine ⟨dx, dy, by omega, by omega, ?_⟩
  rw [← here, normalize_normalize]

end Grid

namespace Habitat
open Attempt

/-- The torus is another one in these cells at most, and nothing has struck it. -/
structure WritesWithin (cells : Point → Prop) (before after : Habitat) : Prop where
  width : after.grid.width = before.grid.width
  height : after.grid.height = before.grid.height
  strikes : after.strikes = before.strikes
  elsewhere : ∀ p, ¬ cells p → after.grid.read p = before.grid.read p

theorem WritesWithin.refl (cells : Point → Prop) (h : Habitat) : WritesWithin cells h h :=
  ⟨rfl, rfl, rfl, fun _ _ => rfl⟩

theorem corrupt_within (noise : NoiseSettings) (h : Habitat) (values : List UInt8)
    (cells : Point → Prop) : WritesWithin cells h (h.corrupt noise values).state := by
  obtain ⟨_, _, reached⟩ := corrupt_state noise h values
  rw [reached]
  exact ⟨rfl, rfl, rfl, fun _ _ => rfl⟩

theorem write_within (noise : NoiseSettings) (h : Habitat) (p : Point) (value : UInt8) :
    WritesWithin (fun q => h.grid.normalize q = h.grid.normalize p) h
      (h.write noise p value).state := by
  have grid := corrupt_grid noise h [value]
  have unwritten := corrupt_within noise h [value]
  unfold write
  cases answer : (h.corrupt noise [value]).answer with
  | error fault =>
      rw [andThen_of_error _ answer]
      exact unwritten _
  | ok landed =>
      rw [andThen_of_ok _ answer]
      simp only [done_state, grid]
      constructor
      case width => rfl
      case height => rfl
      case strikes => exact (unwritten fun _ => True).strikes
      case elsewhere =>
        intro q apart
        rw [Grid.read_write, if_neg (Ne.symm apart)]

theorem writeSquare_within (noise : NoiseSettings) (h : Habitat) (center : Point)
    (buffer : List UInt8) :
    WritesWithin (fun p => ∃ side, squareSide buffer.length = .ok side ∧
      h.grid.InSquare center side p) h (h.writeSquare noise center buffer).state := by
  have grid := corrupt_grid noise h buffer
  have unwritten := corrupt_within noise h buffer
  unfold writeSquare
  cases answer : (h.corrupt noise buffer).answer with
  | error fault =>
      rw [andThen_of_error _ answer]
      exact unwritten _
  | ok landed =>
      have length := (corrupt_length noise h buffer).value landed answer
      rw [andThen_of_ok _ answer]
      simp only [Grid.writeSquare, length, grid]
      cases found : squareSide buffer.length with
      | error fault => exact unwritten _
      | ok side =>
          have shape := h.grid.writeCells_shape
            ((h.grid.squarePoints center (side / 2 : Nat)).zip landed)
          constructor
          case width => exact shape.1
          case height => exact shape.2
          case strikes => exact (unwritten fun _ => True).strikes
          case elsewhere =>
            -- Every cell that is written is one of the square, so one outside of it is none of them.
            intro p outside
            refine Grid.read_writeCells_apart h.grid fun cell written here => outside ?_
            have member := (List.of_mem_zip written).1
            exact ⟨side, rfl, Grid.inSquare_of_mem_squarePoints member here⟩

end Habitat

namespace Scene
open Attempt
variable {s : Scene}

def reach (s : Scene) (p : Point) : Instruction → Prop
  | .writeCell _ => s.habitat.grid.normalize p = s.habitat.grid.normalize s.organism.cursor
  | .paste => ∃ side, s.organism.clipboardSide = .ok side ∧
      s.habitat.grid.InSquare s.organism.cursor side p
  | _ => False

theorem act_habitat (s : Scene) (rules : Rules) {instruction : Instruction}
    (writes : instruction.writes = false) :
    (s.act rules instruction).state.habitat = s.habitat := by
  cases instruction with
  | writeCell r => cases writes
  | paste => cases writes
  | cursorRun direction r =>
      simp only [act]
      split <;> rfl
  | copy =>
      simp only [act, copy]
      split <;> rfl
  | _ => rfl

theorem act_paste_habitat (s : Scene) (rules : Rules) :
    (s.act rules .paste).state.habitat =
      (s.habitat.writeSquare rules.noise s.organism.cursor s.organism.clipboard).state := by
  simp only [act]
  cases answer : ((s.habitat.writeSquare rules.noise s.organism.cursor
      s.organism.clipboard).inside fun h => ({ s with habitat := h } : Scene)).answer with
  | error fault =>
      rw [andThen_of_error _ answer]
      rfl
  | ok _ =>
      rw [andThen_of_ok _ answer]
      dsimp only
      split
      · split <;> rfl
      · rfl

theorem act_within (s : Scene) (rules : Rules) (instruction : Instruction) :
    s.habitat.WritesWithin (s.reach · instruction) (s.act rules instruction).state.habitat := by
  cases instruction with
  | writeCell r => exact Habitat.write_within rules.noise s.habitat s.organism.cursor _
  | paste =>
      rw [act_paste_habitat]
      exact Habitat.writeSquare_within rules.noise s.habitat s.organism.cursor s.organism.clipboard
  | _ =>
      rw [act_habitat s rules rfl]
      exact .refl _ s.habitat

theorem moveOn_habitat (s : Scene) (advance : Bool) : (s.moveOn advance).habitat = s.habitat := by
  unfold moveOn
  split <;> rfl

theorem fork_habitat (s : Scene) (kind : ForkKind) : (s.fork kind).state.habitat = s.habitat := by
  rw [(s.fork_eq kind).1]

theorem run_habitat (s : Scene) (rules : Rules) (advance : Bool) (instruction : Instruction) :
    (s.run rules advance (some instruction)).state.habitat =
      (s.act rules instruction).state.habitat := by
  rcases s.run_cases rules advance instruction with ⟨same, _⟩ | ⟨_, stepped⟩ | ⟨kind, rfl, forked⟩
  · rw [same]
  · rw [stepped, moveOn_habitat]
  · rw [forked, fork_habitat, moveOn_habitat]
    rfl

theorem run_within (s : Scene) (rules : Rules) (advance : Bool) (instruction : Instruction) :
    s.habitat.WritesWithin (s.reach · instruction)
      (s.run rules advance (some instruction)).state.habitat := by
  rw [run_habitat]
  exact act_within s rules instruction

theorem run_halted {rules : Rules} {advance : Bool} {instruction : Option Instruction}
    (halted : (s.run rules advance instruction).answer = .ok .halt) :
    (s.run rules advance instruction).state = s := by
  cases instruction with
  | none => cases halted
  | some instruction =>
      rcases (run_halts_iff s rules advance instruction).mp halted with rfl | ⟨rfl, flag⟩
      · rfl
      · simp [run, act, flag]

end Scene

namespace Instruction
variable {byte : UInt8}

theorem writes_of_glyph {instruction : Instruction} (decoded : ofByte? byte = some instruction)
    (unnamed : glyph byte ∉ ["ma", "mb", "mc"]) : instruction.writes = false := by
  have rows : ∀ entry ∈ table, entry.mnemonic ∉ ["ma", "mb", "mc"] →
      entry.instruction.writes = false := by decide +kernel
  obtain ⟨entry, here, rfl, named⟩ := entry_of_byte decoded
  exact rows entry here (named ▸ unnamed)

theorem writeCell_of_glyph (named : glyph byte ∈ ["ma", "mb"]) :
    ∃ r, ofByte? byte = some (.writeCell r) := by
  simp only [List.mem_cons, List.not_mem_nil, or_false] at named
  rcases named with named | named
  · exact ⟨.a, (decoded_iff_glyph (by decide +kernel) (by decide) byte).mpr named⟩
  · exact ⟨.b, (decoded_iff_glyph (by decide +kernel) (by decide) byte).mpr named⟩

theorem paste_iff_glyph (byte : UInt8) : ofByte? byte = some .paste ↔ glyph byte = "mc" :=
  decoded_iff_glyph (by decide +kernel) (by decide) byte

theorem idle_of_glyph (named : glyph byte ∈ ["..", "##"]) :
    ofByte? byte = some .nop ∨ ofByte? byte = some .wall := by
  simp only [List.mem_cons, List.not_mem_nil, or_false] at named
  rcases named with named | named
  · exact Or.inl ((decoded_iff_glyph (by decide +kernel) (by decide) byte).mpr named)
  · exact Or.inr ((decoded_iff_glyph (by decide +kernel) (by decide) byte).mpr named)

end Instruction

namespace Scene

theorem run_still (s : Scene) (rules : Rules) (advance : Bool) {byte : UInt8}
    (unnamed : Instruction.glyph byte ∉ ["ma", "mb", "mc"]) :
    (s.run rules advance (Instruction.ofByte? byte)).state.habitat = s.habitat := by
  cases decoded : Instruction.ofByte? byte with
  | none => exact moveOn_habitat s advance
  | some instruction =>
      rw [run_habitat]
      exact act_habitat s rules (Instruction.writes_of_glyph decoded unnamed)

theorem run_idle (s : Scene) (rules : Rules) (advance : Bool) {byte : UInt8}
    (idle : Instruction.ofByte? byte = none ∨ Instruction.glyph byte ∈ ["..", "##"]) :
    (s.run rules advance (Instruction.ofByte? byte)).state = s.moveOn advance := by
  rcases idle with decoded | named
  · rw [decoded]
    rfl
  · rcases Instruction.idle_of_glyph named with decoded | decoded <;> rw [decoded] <;> rfl

/-- Whatever byte an organism runs, with or without the step to the next one: of its traits only
those change that go with its mnemonic. The habitat is as before, its generator and its counters
with it, unless the byte is a write or a paste; of the torus a write reaches the cell at the cursor
only, and a paste the square of the size of its clipboard around the cursor. Without the step the
instruction pointer stays; bytes without a meaning, no-ops and walls change nothing else, and
who halts has changed nothing. -/
theorem instruction_keeps_to_its_footprint (s : Scene) (rules : Rules) (advance : Bool)
    (byte : UInt8) :
    let ran := s.run rules advance (Instruction.ofByte? byte)
    let after := ran.state
    let name := Instruction.glyph byte
    let g := s.habitat.grid
    let o := s.organism
    (∀ trait : Trait, name ∉ trait.mnemonics rules.instructionCosts →
      trait.Same o after.organism) ∧
    (name ∉ ["ma", "mb", "mc"] → after.habitat = s.habitat) ∧
    (name ∈ ["ma", "mb"] →
      s.habitat.WritesWithin (fun p => g.normalize p = g.normalize o.cursor) after.habitat) ∧
    (name = "mc" → s.habitat.WritesWithin
      (fun p => ∃ side, o.clipboardSide = .ok side ∧ g.InSquare o.cursor side p) after.habitat) ∧
    (advance = false → after.organism.ip = o.ip) ∧
    (Instruction.ofByte? byte = none ∨ name ∈ ["..", "##"] →
      after = { s with organism := { o with ip := after.organism.ip } }) ∧
    (ran.answer = .ok .halt → after = s) := by
  intro ran after name g o
  refine ⟨?_, s.run_still rules advance, ?_, ?_, ?_, ?_, run_halted⟩
  · exact fun trait => s.run_same rules advance byte trait
  · intro named
    obtain ⟨r, decoded⟩ := Instruction.writeCell_of_glyph named
    have written := s.run_within rules advance (.writeCell r)
    rwa [← decoded] at written
  · intro named
    have written := s.run_within rules advance .paste
    rwa [← (Instruction.paste_iff_glyph byte).mpr named] at written
  · rintro rfl
    exact (run_stays s rules _).ip
  · intro idle
    have reached : after = s.moveOn advance := s.run_idle rules advance idle
    rw [reached]
    unfold moveOn
    split <;> rfl

/-- A write beside its organism, which leaves the cell under it and its registers alone, and a
halt under it. -/
theorem instruction_keeps_to_its_footprint_twoCells :
    let o := { Organism.newborn ⟨0, 0⟩ .right with ax := 5, cursor := ⟨1, 0⟩ }
    let s : Scene := ⟨o, {
      grid := Grid.uniform 2 1 (by decide) (by decide) 0
      generator := Generator.ofSeed 7 }⟩
    let after := (s.run {} true (Instruction.ofByte? 87)).state
    Instruction.glyph 87 = "ma" ∧ after.habitat.grid.read ⟨1, 0⟩ = 5 ∧
      after.habitat.grid.read ⟨0, 0⟩ = s.habitat.grid.read ⟨0, 0⟩ ∧
      after.organism.ax = 5 ∧ after.organism.ip = ⟨1, 0⟩ ∧
      (s.run {} true (Instruction.ofByte? 0)).state = s := by
  intro o s after
  have named : Instruction.glyph 87 = "ma" := by decide +kernel
  obtain ⟨same, _, writes, _⟩ := instruction_keeps_to_its_footprint s {} true 87
  obtain ⟨_, _, _, _, _, _, halted⟩ := instruction_keeps_to_its_footprint s {} true 0
  have beside := (writes (by rw [named]; decide)).elsewhere ⟨0, 0⟩ (by decide)
  exact ⟨named, by decide +kernel, beside, same .ax (by rw [named]; decide), by decide +kernel,
    halted rfl⟩

end Scene
end Terrarium
