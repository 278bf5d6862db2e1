import Terrarium.Proofs.Attempt
import Terrarium.Instruction.Execution

/-!
Noise that is off. An organism that executes draws nothing then: what it does, tells and answers is
the same with any other generator in its habitat, and that generator stays where it was.
-/

namespace Terrarium

structure NoiseSettings.Quiet (noise : NoiseSettings) : Prop where
  chance : noise.writeErrorChance = none ∨ noise.writeErrorChance = some 0
  rate : noise.cosmicRayRate.isZero = true

instance (noise : NoiseSettings) : Decidable noise.Quiet :=
  decidable_of_iff ((noise.writeErrorChance = none ∨ noise.writeErrorChance = some 0) ∧
    noise.cosmicRayRate.isZero = true)
    ⟨fun ⟨chance, rate⟩ => ⟨chance, rate⟩, fun ⟨chance, rate⟩ => ⟨chance, rate⟩⟩

namespace Habitat
variable {noise : NoiseSettings}

def reseeded (g : Generator) (h : Habitat) : Habitat := { h with generator := g }

theorem corrupt_off
    (off : noise.writeErrorChance = none ∨ noise.writeErrorChance = some 0) (h : Habitat)
    (values : List UInt8) : h.corrupt noise values = .done h values := by
  rcases off with chance | chance <;> simp [corrupt, NoiseSettings.writeErrorProbability, chance]

theorem write_reseeded (quiet : noise.Quiet) (g : Generator) (h : Habitat) (p : Point)
    (value : UInt8) :
    (h.reseeded g).write noise p value = (h.write noise p value).inside (reseeded g) := by
  simp only [write, corrupt_off quiet.chance, Attempt.done_andThen]
  rfl

theorem writeSquare_reseeded (quiet : noise.Quiet) (g : Generator) (h : Habitat) (center : Point)
    (buffer : List UInt8) :
    (h.reseeded g).writeSquare noise center buffer =
      (h.writeSquare noise center buffer).inside (reseeded g) := by
  simp only [writeSquare, corrupt_off quiet.chance, Attempt.done_andThen]
  have grid : (h.reseeded g).grid = h.grid := rfl
  rw [grid]
  cases h.grid.writeSquare center buffer <;> rfl

theorem cosmicRays_reseeded (quiet : noise.Quiet) (g : Generator) (h : Habitat) :
    (h.reseeded g).cosmicRays noise = (h.cosmicRays noise).inside (reseeded g) := by
  simp only [cosmicRays, strikeCount, quiet.rate, if_true, Attempt.done_andThen]
  rfl

end Habitat

namespace Scene
variable {rules : Rules}

def reseeded (g : Generator) (s : Scene) : Scene := { s with habitat := s.habitat.reseeded g }

theorem act_reseeded (quiet : rules.noise.Quiet) (g : Generator) (s : Scene)
    (instruction : Instruction) :
    (s.reseeded g).act rules instruction = (s.act rules instruction).inside (reseeded g) := by
  cases instruction with
  | cursorRun direction r =>
      have grid : (s.reseeded g).habitat.grid = s.habitat.grid := rfl
      have organism : (s.reseeded g).organism = s.organism := rfl
      simp only [act, grid, organism]
      split <;> rfl
  | writeCell r =>
      have written := Habitat.write_reseeded quiet g s.habitat s.organism.cursor
        (lowByte (s.organism.register r))
      simp only [act, reseeded, written]
      rfl
  | copy =>
      have grid : (s.reseeded g).habitat.grid = s.habitat.grid := rfl
      have organism : (s.reseeded g).organism = s.organism := rfl
      simp only [act, copy, grid, organism]
      split <;> rfl
  | paste =>
      have written := Habitat.writeSquare_reseeded quiet g s.habitat s.organism.cursor
        s.organism.clipboard
      have placed : (((s.reseeded g).habitat.writeSquare rules.noise (s.reseeded g).organism.cursor
          (s.reseeded g).organism.clipboard).inside fun h => { s.reseeded g with habitat := h }) =
          ((s.habitat.writeSquare rules.noise s.organism.cursor s.organism.clipboard).inside
            fun h => { s with habitat := h }).inside (reseeded g) := by
        simp only [reseeded, written]
        rfl
      have side : (s.reseeded g).organism.clipboardSide = s.organism.clipboardSide := rfl
      simp only [act, placed, side]
      apply Attempt.inside_andThen
      intro _ _
      split
      · split <;> rfl
      · rfl
  | _ => rfl

theorem moveOn_reseeded (g : Generator) (s : Scene) (advance : Bool) :
    (s.reseeded g).moveOn advance = (s.moveOn advance).reseeded g := by
  have delaying : (s.reseeded g).organism.isDelaying = s.organism.isDelaying := rfl
  unfold moveOn
  rw [delaying]
  split <;> rfl

theorem fork_reseeded (g : Generator) (s : Scene) (kind : ForkKind) :
    (s.reseeded g).fork kind = (s.fork kind).inside (reseeded g) := by
  have organism : (s.reseeded g).organism = s.organism := rfl
  cases kind <;> simp only [fork, organism] <;> split <;> rfl

theorem run_reseeded (quiet : rules.noise.Quiet) (g : Generator) (s : Scene) (advance : Bool)
    (instruction : Option Instruction) :
    (s.reseeded g).run rules advance instruction =
      (s.run rules advance instruction).inside (reseeded g) := by
  unfold run
  cases instruction with
  | none =>
      simp only [Attempt.done_andThen, moveOn_reseeded]
      rfl
  | some instruction =>
      simp only [act_reseeded quiet]
      apply Attempt.inside_andThen
      intro outcome _
      simp only [moveOn_reseeded]
      cases outcome with
      | halt => rfl
      | proceed => rfl
      | fork kind => exact fork_reseeded g _ kind

theorem execute_reseeded (quiet : rules.noise.Quiet) (g : Generator) (s : Scene) :
    (s.reseeded g).execute rules = (s.execute rules).inside (reseeded g) :=
  run_reseeded quiet g s true _

end Scene
end Terrarium
