import Mathlib.Logic.Function.Iterate
import Mathlib.Order.Bounds.Defs
import Terrarium.Proofs.Instruction.Reach

/-!
Where a cursor goes. A walk takes as many steps as it is asked for, but none onto a wall; a run of
the cursor ends where that many single steps would. Main statement: how far a walk gets and where it
ends, and that no instruction puts a cursor on a wall.
-/

namespace Terrarium

namespace Grid

def Clear (g : Grid) (p : Point) (direction : Direction) (count : Nat) : Prop :=
  ∀ i < count, g.read (g.step p direction (i + 1)) ≠ Instruction.wallByte

instance (g : Grid) (p : Point) (direction : Direction) (count : Nat) :
    Decidable (g.Clear p direction count) :=
  inferInstanceAs (Decidable (∀ i < count, _))

/-- A walk of at most so many steps ends after `count` of them: nothing is in its way up to there,
and a wall is next if it was to go on. -/
structure Stops (g : Grid) (p : Point) (direction : Direction) (limit count : Nat) : Prop where
  within : count ≤ limit
  clear : g.Clear p direction count
  blocked : count < limit → g.read (g.step p direction (count + 1)) = Instruction.wallByte

def nudge (g : Grid) (direction : Direction) (p : Point) : Point :=
  if g.read (g.step p direction 1) = Instruction.wallByte then p else g.step p direction 1

variable (g : Grid) (p : Point) (direction : Direction)

theorem clear_succ (count : Nat) :
    g.Clear p direction (count + 1) ↔
      g.read (g.step p direction 1) ≠ Instruction.wallByte ∧
        g.Clear (g.step p direction 1) direction count := by
  have later (i : Nat) : g.step (g.step p direction 1) direction (i + 1) =
      g.step p direction ((i + 1 : Nat) + 1) := by
    rw [step_step, Int.add_comm 1]
    rfl
  constructor
  · intro clear
    refine ⟨clear 0 (Nat.succ_pos count), fun i below => ?_⟩
    rw [later]
    exact clear (i + 1) (Nat.succ_lt_succ below)
  · rintro ⟨first, rest⟩ i below
    cases i with
    | zero => exact first
    | succ i =>
        rw [← later]
        exact rest i (Nat.lt_of_succ_lt_succ below)

namespace Stops
variable {g p direction} {limit count : Nat}

theorem start : g.Stops p direction 0 0 := ⟨Nat.le_refl 0, nofun, nofun⟩

theorem at_wall (wall : g.read (g.step p direction 1) = Instruction.wallByte) :
    g.Stops p direction limit 0 :=
  ⟨Nat.zero_le limit, nofun, fun _ => wall⟩

theorem onwards (free : g.read (g.step p direction 1) ≠ Instruction.wallByte)
    (rest : g.Stops (g.step p direction 1) direction limit count) :
    g.Stops p direction (limit + 1) (count + 1) where
  within := Nat.succ_le_succ rest.within
  clear := (g.clear_succ p direction count).mpr ⟨free, rest.clear⟩
  blocked more := by
    have wall := rest.blocked (Nat.lt_of_succ_lt_succ more)
    rw [step_step, Int.add_comm 1] at wall
    exact wall

theorem isGreatest (stops : g.Stops p direction limit count) :
    IsGreatest {k | k ≤ limit ∧ g.Clear p direction k} count := by
  refine ⟨⟨stops.within, stops.clear⟩, ?_⟩
  rintro k ⟨asked, clear⟩
  -- To go further is to pass the wall that is next.
  refine Nat.le_of_not_lt fun further => ?_
  exact clear count further (stops.blocked (Nat.lt_of_lt_of_le further asked))

theorem eq_limit (stops : g.Stops p direction limit count)
    (free : ∀ k, g.Clear p direction k) : count = limit := by
  apply Nat.le_antisymm stops.within
  exact stops.isGreatest.2 ⟨Nat.le_refl limit, free limit⟩

end Stops

theorem nudge_cases :
    g.nudge direction p = p ∨ g.read (g.nudge direction p) ≠ Instruction.wallByte := by
  unfold nudge
  split
  · exact Or.inl rfl
  · next free => exact Or.inr free

theorem nudges_cases (count : Nat) :
    (g.nudge direction)^[count] p = p ∨
      g.read ((g.nudge direction)^[count] p) ≠ Instruction.wallByte := by
  induction count with
  | zero => exact Or.inl rfl
  | succ count ih =>
      rw [Function.iterate_succ_apply']
      rcases g.nudge_cases ((g.nudge direction)^[count] p) direction with stayed | moved
      · rwa [stayed]
      · exact Or.inr moved

end Grid

namespace Organism
variable (o : Organism) (g : Grid) (direction : Direction)

theorem tryMoveCursor_blocked {target : Point} (wall : g.read target = Instruction.wallByte) :
    o.tryMoveCursor g target = (o, false) := if_pos wall

theorem tryMoveCursor_free {target : Point} (free : g.read target ≠ Instruction.wallByte) :
    o.tryMoveCursor g target = ({ o with cursor := target }, true) := if_neg free

theorem cursor_tryMoveCursor (target : Point) :
    (o.tryMoveCursor g target).1.cursor = o.cursor ∨
      g.read (o.tryMoveCursor g target).1.cursor ≠ Instruction.wallByte := by
  by_cases wall : g.read target = Instruction.wallByte
  · rw [tryMoveCursor_blocked o g wall]
    exact Or.inl rfl
  · rw [tryMoveCursor_free o g wall]
    exact Or.inr wall

/-- A walk from a cell of the torus changes nothing but the cursor, and stops where it has to. -/
theorem walkCursor_stops (left taken : Nat) (normalised : o.cursor.Within g.width g.height) :
    ∃ count, g.Stops o.cursor direction left count ∧
      walkCursor g direction left taken o =
        ({ o with cursor := g.step o.cursor direction count }, taken + count) := by
  induction left generalizing taken o with
  | zero =>
      refine ⟨0, .start, ?_⟩
      rw [Int.natCast_zero, g.step_zero normalised]
      rfl
  | succ left ih =>
      by_cases wall : g.read (g.step o.cursor direction 1) = Instruction.wallByte
      · refine ⟨0, .at_wall wall, ?_⟩
        rw [walkCursor, tryMoveCursor_blocked o g wall, Int.natCast_zero, g.step_zero normalised]
        rfl
      · obtain ⟨count, stops, walked⟩ := ih { o with cursor := g.step o.cursor direction 1 }
          (taken + 1) (g.step_within _ _ _)
        refine ⟨count + 1, stops.onwards wall, ?_⟩
        rw [walkCursor, tryMoveCursor_free o g wall]
        dsimp only
        rw [walked, Grid.step_step, Int.natCast_succ, Int.add_comm 1, Nat.add_right_comm, Nat.add_assoc]

theorem cursor_nudged :
    (o.tryMoveCursor g (g.step o.cursor direction 1)).1.cursor = g.nudge direction o.cursor := by
  unfold tryMoveCursor Grid.nudge
  split <;> rfl

/-- A walk ends where single steps do, those that a wall holds up included. -/
theorem cursor_walkCursor (left taken : Nat) :
    (walkCursor g direction left taken o).1.cursor = (g.nudge direction)^[left] o.cursor := by
  induction left generalizing taken o with
  | zero => rfl
  | succ left ih =>
      have first := o.cursor_nudged g direction
      rw [walkCursor, Function.iterate_succ_apply, ← first]
      by_cases wall : g.read (g.step o.cursor direction 1) = Instruction.wallByte
      · rw [tryMoveCursor_blocked o g wall] at first ⊢
        exact (Function.iterate_fixed first.symm left).symm
      · rw [tryMoveCursor_free o g wall]
        exact ih _ (taken + 1)

end Organism

theorem Instruction.moves_cursor {costs : Bool} {instruction : Instruction}
    (moves : Trait.cursor ∈ instruction.footprint costs) :
    (∃ direction, instruction = .cursorStep direction) ∨
      (∃ direction r, instruction = .cursorRun direction r) ∨ instruction = .cursorHome := by
  cases instruction with
  | cursorStep direction => exact Or.inl ⟨direction, rfl⟩
  | cursorRun direction r => exact Or.inr (Or.inl ⟨direction, r, rfl⟩)
  | cursorHome => exact Or.inr (Or.inr rfl)
  | calculate r _ | flagTo r | radiusTo r | readCell r =>
      cases r <;> simp [footprint, Register.trait] at moves
  | fork kind => cases kind <;> simp [footprint] at moves
  | paste => cases costs <;> simp [footprint] at moves
  | _ => simp [footprint] at moves

namespace Scene
open Attempt
variable (s : Scene) (rules : Rules) (advance : Bool)

theorem moveOn_cursor : (s.moveOn advance).organism.cursor = s.organism.cursor :=
  moveOn_keeps s advance [] .cursor (by simp)

theorem run_cursor (instruction : Instruction) :
    (s.run rules advance (some instruction)).state.organism.cursor =
      (s.act rules instruction).state.organism.cursor := by
  rcases s.run_cases rules advance instruction with ⟨same, _⟩ | ⟨_, moved⟩ | ⟨kind, rfl, forked⟩
  · rw [same]
  · rw [moved, moveOn_cursor]
  · have kept := fork_keeps (s.moveOn advance) false kind .cursor
      (by cases kind <;> simp [Instruction.footprint])
    rw [forked]
    exact Eq.trans kept (s.moveOn_cursor advance)

theorem act_cursorRun (direction : Direction) (r : Register) :
    (s.act rules (.cursorRun direction r)).state.organism.cursor =
      (s.organism.moveCursor s.habitat.grid direction (s.organism.register r)).1.cursor := by
  simp only [act]
  split
  · exact keeps_delay _ _ .cursor (by simp)
  · rfl

def cursorSteps (direction : Direction) (count : Nat) : Attempt Scene Unit :=
  repeated (fun t => (t.run rules advance (some (.cursorStep direction))).map fun _ => ()) count s

theorem cursorSteps_nudges (direction : Direction) (count : Nat) :
    (s.cursorSteps rules advance direction count).answer = .ok () ∧
      (s.cursorSteps rules advance direction count).state.organism.cursor =
        (s.habitat.grid.nudge direction)^[count] s.organism.cursor := by
  induction count generalizing s with
  | zero => exact ⟨rfl, rfl⟩
  | succ count ih =>
      have stepped : ((s.run rules advance (some (.cursorStep direction))).map fun _ => ()).answer =
          .ok () := rfl
      have cursor : (s.run rules advance (some (.cursorStep direction))).state.organism.cursor =
          s.habitat.grid.nudge direction s.organism.cursor :=
        (s.run_cursor rules advance _).trans (s.organism.cursor_nudged s.habitat.grid direction)
      have habitat := s.run_habitat rules advance (.cursorStep direction)
      rw [act_habitat s rules rfl] at habitat
      obtain ⟨answer, reached⟩ := ih (s.run rules advance (some (.cursorStep direction))).state
      rw [cursor, habitat, ← Function.iterate_succ_apply] at reached
      rw [cursorSteps, repeated, andThen_of_ok _ stepped]
      exact ⟨answer, reached⟩

theorem run_cursor_cases (instruction : Option Instruction) :
    let after := (s.run rules advance instruction).state
    after.organism.cursor = s.organism.cursor ∨
      after.habitat = s.habitat ∧
        s.habitat.grid.read after.organism.cursor ≠ Instruction.wallByte := by
  intro after
  cases instruction with
  | none => exact Or.inl (s.moveOn_cursor advance)
  | some instruction =>
      have acted := s.run_cursor rules advance instruction
      have still (writes : instruction.writes = false) : after.habitat = s.habitat :=
        (s.run_habitat rules advance instruction).trans (act_habitat s rules writes)
      by_cases moves : Trait.cursor ∈ instruction.footprint rules.instructionCosts
      · rcases Instruction.moves_cursor moves with ⟨direction, rfl⟩ | ⟨direction, r, rfl⟩ | rfl
        · have moved := s.organism.cursor_tryMoveCursor s.habitat.grid
            (s.habitat.grid.step s.organism.cursor direction 1)
          exact (acted ▸ moved).imp_right fun free => ⟨still rfl, free⟩
        · have moved := s.habitat.grid.nudges_cases s.organism.cursor direction
            (s.organism.register r).toNat
          rw [act_cursorRun, Organism.moveCursor, Organism.cursor_walkCursor] at acted
          exact (acted ▸ moved).imp_right fun free => ⟨still rfl, free⟩
        · have moved := s.organism.cursor_tryMoveCursor s.habitat.grid s.organism.ip
          exact (acted ▸ moved).imp_right fun free => ⟨still rfl, free⟩
      · exact Or.inl (run_keeps s rules advance instruction .cursor moves)

/-- However many steps a walk of a cursor on the torus is asked for, it takes the most it can without
one onto a wall; it ends that far from where it began, and nothing else of the organism has changed.
So if it falls short a wall is next, and with no wall on its line it does not. The instruction to run
the cursor as often as a register says takes it where that many single steps take it, which all
succeed. And whatever instruction is run, with or without the step to the next one, the cursor is
where it was, or the torus is as it was and the cursor is not on a wall. -/
theorem cursor_stops_at_walls (s : Scene) (direction : Direction) (steps : Int)
    (normalised : s.organism.cursor.Within s.habitat.grid.width s.habitat.grid.height) :
    let g := s.habitat.grid
    let o := s.organism
    let moved := (o.moveCursor g direction steps).1
    let taken := (o.moveCursor g direction steps).2
    IsGreatest {k : Nat | (k : Int) ≤ max 0 steps ∧ g.Clear o.cursor direction k} taken ∧
    moved = { o with cursor := g.step o.cursor direction taken } ∧
    (taken < steps →
      g.read (g.step o.cursor direction (taken + 1)) = Instruction.wallByte) ∧
    ((∀ k, g.Clear o.cursor direction k) → taken = max 0 steps) ∧
    (∀ rules advance r,
      let singles := s.cursorSteps rules advance direction (o.register r).toNat
      singles.answer = .ok () ∧
        (s.run rules advance (some (.cursorRun direction r))).state.organism.cursor =
          singles.state.organism.cursor) ∧
    (∀ rules advance instruction,
      let after := (s.run rules advance instruction).state
      after.organism.cursor = o.cursor ∨
        after.habitat.grid = g ∧ g.read after.organism.cursor ≠ Instruction.wallByte) := by
  intro g o moved taken
  obtain ⟨count, stops, walked⟩ := o.walkCursor_stops g direction steps.toNat 0 normalised
  have limit (k : Nat) : (k : Int) ≤ max 0 steps ↔ k ≤ steps.toNat := by omega
  have counted : taken = count := (congrArg Prod.snd walked).trans (Nat.zero_add count)
  have placed : moved = { o with cursor := g.step o.cursor direction count } :=
    congrArg Prod.fst walked
  rw [counted]
  refine ⟨?_, placed, ?_, ?_, ?_, ?_⟩
  · simp only [limit]
    exact stops.isGreatest
  · exact fun short => stops.blocked (by omega)
  · intro free
    have all := stops.eq_limit free
    omega
  · intro rules advance r singles
    obtain ⟨answer, reached⟩ := s.cursorSteps_nudges rules advance direction (o.register r).toNat
    refine ⟨answer, ?_⟩
    rw [run_cursor, act_cursorRun, reached]
    exact o.cursor_walkCursor g direction _ 0
  · intro rules advance instruction after
    exact (s.run_cursor_cases rules advance instruction).imp_right fun ⟨still, free⟩ =>
      ⟨congrArg Habitat.grid still, free⟩

/-- Five steps are asked for and one is taken, since a wall comes after it. -/
theorem cursor_stops_at_walls_threeCells :
    let o := { Organism.newborn ⟨0, 0⟩ .right with ax := 5 }
    let g := (Grid.uniform 3 1 (by decide) (by decide) 1).write ⟨2, 0⟩ Instruction.wallByte
    let s : Scene := ⟨o, { grid := g, generator := Generator.ofSeed 7 }⟩
    o.cursor.Within g.width g.height ∧
      o.moveCursor g .right 5 = ({ o with cursor := ⟨1, 0⟩ }, 1) ∧
      g.read ⟨2, 0⟩ = Instruction.wallByte ∧ ¬ g.Clear o.cursor .right 2 ∧
      (s.run {} true (some (.cursorRun .right .a))).state.organism.cursor =
        (s.cursorSteps {} true .right 5).state.organism.cursor := by
  intro o g s
  have normalised : o.cursor.Within g.width g.height :=
    ⟨by decide, by decide, by decide, by decide⟩
  have one : (o.moveCursor g .right 5).2 = 1 := by decide +kernel
  obtain ⟨greatest, moved, wall, _, singles, _⟩ := cursor_stops_at_walls s .right 5 normalised
  have next : g.step o.cursor .right 1 = ⟨1, 0⟩ := by decide +kernel
  have landed : (o.moveCursor g .right 5).1 = { o with cursor := ⟨1, 0⟩ } := by
    rw [one] at moved
    exact next ▸ moved
  have five : (s.organism.register .a).toNat = 5 := rfl
  have together := (singles {} true .a).2
  rw [five] at together
  refine ⟨normalised, Prod.ext landed one, ?_, fun clear => ?_, together⟩
  · rw [one] at wall
    exact wall (by decide)
  · have most : 2 ≤ (o.moveCursor g .right 5).2 := greatest.2 ⟨by decide, clear⟩
    omega

end Scene
end Terrarium
