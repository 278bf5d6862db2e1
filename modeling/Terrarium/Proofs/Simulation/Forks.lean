import Terrarium.Proofs.Instruction.Children
import Terrarium.Proofs.Instruction.Footprint
import Terrarium.Proofs.Simulation.Reachability
import Terrarium.Proofs.Simulation.Turns

/-!
What comes of a fork. The parent takes its step first, then its flag is set, then a child is taken
off its budget, and the child is a copy of what it is by then with one trait of its own. Main
statement: whether there is a child, what becomes of the parent either way, and what the child is
before and after it has come into a population.
-/

namespace Terrarium

def ForkKind.mnemonic : ForkKind → String
  | flag => "-="
  | cursor => "m="

theorem ForkKind.decoded_iff (kind : ForkKind) (byte : UInt8) :
    Instruction.ofByte? byte = some (.fork kind) ↔ Instruction.glyph byte = kind.mnemonic := by
  cases kind with
  | flag => exact Instruction.decoded_iff_glyph (by decide +kernel) (by decide) byte
  | cursor => exact Instruction.decoded_iff_glyph (by decide +kernel) (by decide) byte

namespace Organism

theorem takeChild_budget {o : Organism} (solvent : o.Solvent) :
    o.takeChild.1 = { o with children := o.children.map fun left => max 0 (left - 1) } := by
  rw [takeChild_eq]
  by_cases used : o.children = some 0
  · have same : o.children.map (fun left => max 0 (left - 1)) = o.children := by
      rw [used]
      rfl
    rw [if_pos used, same]
  · have spent : o.children.map (· - 1) = o.children.map fun left => max 0 (left - 1) := by
      apply Option.map_congr
      intro left budget
      have nonneg := solvent left budget
      have unused : left ≠ 0 := fun none => used (none ▸ budget)
      omega
    rw [if_neg used, spent]

end Organism

namespace Scene
open Attempt Organism
variable {s : Scene}

/-- A parent after a fork but for its budget: on the next cell unless it is run in place or waits,
and with its flag set by the fork that does so. -/
def forked (s : Scene) (advance : Bool) (kind : ForkKind) : Organism :=
  kind.flagged { s.organism with
    ip := if advance = true ∧ s.organism.phase = .ready then
        s.habitat.grid.step s.organism.ip s.organism.direction 1
      else s.organism.ip }

theorem moveOn_alive (alive : s.organism.phase ≠ .dead) (advance : Bool) :
    s.moveOn advance = { s with organism := s.forked advance .cursor } := by
  unfold moveOn
  cases advance with
  | false => simp [forked, ForkKind.flagged]
  | true =>
      by_cases ready : s.organism.phase = .ready
      · simp [forked, ForkKind.flagged, isDelaying, ready, Organism.advance]
      · have delaying : s.organism.isDelaying = true := by
          cases phase : s.organism.phase <;> simp_all [isDelaying]
        simp [forked, ForkKind.flagged, delaying, ready]

/-- The step, the flag, the budget, in this order; then the copy. -/
theorem run_fork_eq (alive : s.organism.phase ≠ .dead) (rules : Rules) (advance : Bool)
    (kind : ForkKind) :
    let ran := s.run rules advance (some (.fork kind))
    let parent := (s.forked advance kind).takeChild.1
    ran.state = { s with organism := parent } ∧
      ran.answer = if s.organism.children = some 0 then .ok .proceed
        else .ok (.spawn (kind.child parent)) := by
  intro ran parent
  have stepped : ran = ({ s with organism := s.forked advance .cursor } : Scene).fork kind := by
    rw [← moveOn_alive alive]
    rfl
  rw [stepped]
  exact fork_eq _ kind

end Scene

namespace Simulation
open Population Attempt

theorem adopt_members (t : Simulation) {child : Organism} (alive : child.phase ≠ .dead) :
    ∃ slot, (t.adopt child).answer = .ok slot ∧
      (t.adopt child).state.population.members =
        t.population.members ++ [(slot, { child with
          lifespan := t.settings.limits.lifespan.map Int.ofNat
          children := t.settings.limits.maxChildren.map Int.ofNat })] := by
  rw [adopt_alive t alive]
  refine ⟨t.population.allocate.1, rfl, ?_⟩
  simp only [done_state, moved, allocate_members]
  rfl

end Simulation

namespace Scene
open Attempt Organism Simulation

/-- A live organism on a fork, with a budget that is not overdrawn, whether it is ready or waits
and with or without the step to the next instruction. A child comes of it exactly if the budget is
unlimited or not used up, and otherwise the organism goes on. Either way its pointer moves and
its flag is set as `forked` says, its budget is one less unless it is used up or unlimited, and
nothing else has changed. The child is a copy of its parent after that but for its flag, or
for its place; and in any population it comes into, last of all, only its lifespan and its
budget are others, which are those in force there. -/
theorem fork_copies_its_parent (s : Scene) (rules : Rules) (advance : Bool) (kind : ForkKind)
    (byte : UInt8) (named : Instruction.glyph byte = kind.mnemonic)
    (alive : s.organism.phase ≠ .dead) (solvent : s.organism.Solvent) :
    let ran := s.run rules advance (Instruction.ofByte? byte)
    let parent := ran.state.organism
    ((∃ child, ran.answer = .ok (.spawn child)) ↔
      s.organism.children = none ∨ ∃ left, s.organism.children = some left ∧ 0 < left) ∧
    (ran.answer = .ok .proceed ↔ s.organism.children = some 0) ∧
    parent = { s.forked advance kind with
      children := s.organism.children.map fun left => max 0 (left - 1) } ∧
    ran.state.habitat = s.habitat ∧
    (∀ child, ran.answer = .ok (.spawn child) → child = kind.child parent ∧
      ∀ t : Simulation, ∃ slot, (t.adopt child).answer = .ok slot ∧
        (t.adopt child).state.population.members =
          t.population.members ++ [(slot, { child with
            lifespan := t.settings.limits.lifespan.map Int.ofNat
            children := t.settings.limits.maxChildren.map Int.ofNat })]) := by
  rw [(kind.decoded_iff byte).mpr named]
  intro ran parent
  obtain ⟨state, answer⟩ := run_fork_eq alive rules advance kind
  have reached : parent = (s.forked advance kind).takeChild.1 := congrArg Scene.organism state
  have habitat : ran.state.habitat = s.habitat := by simp only [ran, state]
  -- Neither the step nor the flag has touched the budget by the time a child is taken off it.
  have budget : (s.forked advance kind).children = s.organism.children := by cases kind <;> rfl
  have solvent' : (s.forked advance kind).Solvent := by rwa [Solvent, budget]
  have room : s.organism.children ≠ some 0 ↔
      s.organism.children = none ∨ ∃ left, s.organism.children = some left ∧ 0 < left := by
    cases budget : s.organism.children with
    | none => simp
    | some left =>
        have nonneg := solvent left budget
        simp
        omega
  refine ⟨?_, ?_, ?_, habitat, ?_⟩
  · rw [← room, run_spawns_iff]
    constructor
    · rintro ⟨_, _, left⟩
      exact left
    · exact fun left => ⟨kind, rfl, left⟩
  · rw [answer]
    split
    · next used => exact iff_of_true rfl used
    · next left => simpa using left
  · rw [reached, takeChild_budget solvent', budget]
  · intro child spawned
    rw [answer] at spawned
    split at spawned
    · cases spawned
    · cases spawned
      -- Only the living are taken in, and a copy is as alive as its parent.
      have copied : (kind.child parent).phase = s.organism.phase := by
        rw [reached, takeChild_budget solvent']
        cases kind <;> rfl
      rw [← reached]
      exact ⟨rfl, fun t => t.adopt_members (copied ▸ alive)⟩

/-- One on its last child, which it has at its cursor, and one that sits out a delay with no child
left. -/
theorem fork_copies_its_parent_twoCells :
    let o := { Organism.newborn ⟨0, 0⟩ .right with cursor := ⟨1, 0⟩, flag := true }
    let last : Scene := ⟨{ o with children := some 1 }, twoCells.habitat⟩
    let used : Scene := ⟨{ o with children := some 0, delay := 2, phase := .delaying, flag := false },
      twoCells.habitat⟩
    let born := last.run {} false (Instruction.ofByte? 3)
    let suppressed := used.run {} true (Instruction.ofByte? 2)
    born.answer = .ok (.spawn { born.state.organism with ip := ⟨1, 0⟩ }) ∧
      born.state.organism = { o with children := some 0 } ∧
      (∃ slot, (twoCells.adopt { born.state.organism with ip := ⟨1, 0⟩ }).answer = .ok slot) ∧
      suppressed.answer = .ok .proceed ∧
      suppressed.state.organism = { used.organism with flag := true } := by
  intro o last used born suppressed
  have room : last.organism.Solvent := by
    rintro left ⟨⟩
    decide
  have none : used.organism.Solvent := by
    rintro left ⟨⟩
    decide
  obtain ⟨spawns, _, parent, _, copied⟩ := fork_copies_its_parent last {} false .cursor 3
    (by decide +kernel) (by decide) room
  obtain ⟨_, goes, parent', _⟩ := fork_copies_its_parent used {} true .flag 2
    (by decide +kernel) (by decide) none
  obtain ⟨child, spawned⟩ := spawns.mpr (Or.inr ⟨1, rfl, by decide⟩)
  obtain ⟨rfl, adopted⟩ := copied child spawned
  obtain ⟨slot, taken, _⟩ := adopted twoCells
  exact ⟨spawned, parent, ⟨slot, taken⟩, goes.mpr rfl, parent'⟩

end Scene
end Terrarium
