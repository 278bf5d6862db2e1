import Terrarium.Proofs.Instruction.Reseeding
import Terrarium.Proofs.Simulation.Deeds
import Terrarium.Proofs.Simulation.Passage

/-!
Simulations without chance. While noise is off and nobody is culled by lot, a deed does and tells
the same with another seed and another generator, and leaves that generator where it was.
-/

namespace Terrarium

namespace Simulation
open Population

def reseeded (seed : Nat) (g : Generator) (s : Simulation) : Simulation :=
  { s with seed := seed, habitat := s.habitat.reseeded g }

structure Quiet (s : Simulation) : Prop where
  noise : s.settings.noise.Quiet
  certain : s.remover = .oldest ∨ s.settings.limits.maxPopulation = none

instance (s : Simulation) : Decidable s.Quiet :=
  decidable_of_iff (s.settings.noise.Quiet ∧
    (s.remover = .oldest ∨ s.settings.limits.maxPopulation = none))
    ⟨fun ⟨noise, certain⟩ => ⟨noise, certain⟩, fun ⟨noise, certain⟩ => ⟨noise, certain⟩⟩

variable {s t : Simulation} {seed : Nat} {g : Generator}

theorem Quiet.of_setup (quiet : s.Quiet) (same : SameSetup s t) : t.Quiet := by
  obtain ⟨settings, remover⟩ := same
  have settings : t.settings = s.settings := settings
  constructor
  · rw [settings]
    exact quiet.noise
  · rw [settings, remover]
    exact quiet.certain

theorem onPopulation_reseeded {α : Type} (s : Simulation) (attempt : Attempt Population α) :
    (s.reseeded seed g).onPopulation attempt = (s.onPopulation attempt).inside (reseeded seed g) :=
  rfl

theorem adopt_reseeded (s : Simulation) (child : Organism) :
    (s.reseeded seed g).adopt child = (s.adopt child).inside (reseeded seed g) := by
  unfold adopt
  rw [onPopulation_reseeded]
  apply Attempt.inside_andThen
  intro _ _
  rfl

theorem tickSlot_reseeded (s : Simulation) (slot : SlotId) :
    (s.reseeded seed g).tickSlot slot = (s.tickSlot slot).inside (reseeded seed g) := by
  have population : (s.reseeded seed g).population = s.population := rfl
  simp only [tickSlot, population]
  cases s.population.get? slot <;> rfl

theorem irradiate_reseeded (quiet : s.Quiet) :
    (s.reseeded seed g).irradiate = s.irradiate.inside (reseeded seed g) := by
  have struck := Habitat.cosmicRays_reseeded quiet.noise g s.habitat
  have habitat : (s.reseeded seed g).habitat = s.habitat.reseeded g := rfl
  have settings : (s.reseeded seed g).settings = s.settings := rfl
  rw [irradiate, habitat, settings, struck]
  rfl

theorem enforceMax_reseeded (quiet : s.Quiet) :
    (s.reseeded seed g).enforceMax = s.enforceMax.inside (reseeded seed g) := by
  have certain : s.population.excess s.settings.limits.maxPopulation = 0 ∨ s.remover = .oldest := by
    rcases quiet.certain with oldest | boundless
    · exact Or.inr oldest
    · exact Or.inl (by rw [boundless]; rfl)
  have culled := s.population.enforceMax_reseeded certain s.habitat.generator g
  have chosen : (s.reseeded seed g).population.enforceMax (s.reseeded seed g).remover
      (s.reseeded seed g).settings.limits.maxPopulation (s.reseeded seed g).habitat.generator =
      (s.population.enforceMax s.remover s.settings.limits.maxPopulation
        s.habitat.generator).inside fun state => (state.1, g) := culled
  unfold enforceMax
  dsimp only
  rw [chosen]
  rfl

theorem dedupIfDue_reseeded (s : Simulation) :
    (s.reseeded seed g).dedupIfDue = s.dedupIfDue.inside (reseeded seed g) := by
  have due : every (s.reseeded seed g).cycle (s.reseeded seed g).settings.autoDedupPeriod =
      every s.cycle s.settings.autoDedupPeriod := rfl
  unfold dedupIfDue
  rw [due]
  split <;> rfl

/-- No part changes the setup, so the next one draws nothing either. -/
theorem reseeded_unnoticed (seed : Nat) (g : Generator) : Unnoticed Quiet (reseeded seed g) where
  setup same quiet := quiet.of_setup same
  ready _ := rfl
  delaying _ := rfl
  get? _ _ := rfl
  remove _ _ _ := rfl
  adopt := adopt_reseeded
  tickSlot := tickSlot_reseeded
  irradiate _ := irradiate_reseeded
  enforceMax _ := enforceMax_reseeded
  charge _ _ := rfl
  cycle _ := rfl
  atCycle _ _ := rfl
  dedupIfDue := dedupIfDue_reseeded
  synced _ := rfl
  writeErrors _ := rfl

theorem turns_reseeded (seed : Nat) (g : Generator) :
    Unnoticed.Turns Quiet (reseeded seed g) := by
  intro s slot quiet
  apply (reseeded_unnoticed seed g).executeSlot
  intro o _
  have noise : s.rules.noise.Quiet := quiet.noise
  exact congrArg (Attempt.inside _) (Scene.execute_reseeded noise g ⟨o, s.habitat⟩)

theorem stepCycle_reseeded (quiet : s.Quiet) :
    (s.reseeded seed g).stepCycle = s.stepCycle.inside (reseeded seed g) :=
  (reseeded_unnoticed seed g).stepCycle_of_turns (turns_reseeded seed g) quiet

theorem runCycles_reseeded (quiet : s.Quiet) (count : Int) :
    (s.reseeded seed g).runCycles count = (s.runCycles count).inside (reseeded seed g) :=
  (reseeded_unnoticed seed g).runCycles
    ((reseeded_unnoticed seed g).stepCycles_of_turns (turns_reseeded seed g) count.toNat quiet)

theorem withFocused_reseeded (s : Simulation) (o : Organism) :
    (s.reseeded seed g).withFocused o = (s.withFocused o).reseeded seed g := by
  have focus : (s.reseeded seed g).focus = s.focus := rfl
  unfold withFocused
  rw [focus]
  split <;> rfl

theorem runInPlace_reseeded {rules : Rules} (quiet : rules.noise.Quiet) (program : List Instruction)
    (scene : Scene) :
    runInPlace rules program (scene.reseeded g) =
      (runInPlace rules program scene).inside (Scene.reseeded g) := by
  induction program generalizing scene with
  | nil => rfl
  | cons instruction rest ih =>
      rw [runInPlace_cons, runInPlace_cons, Scene.run_reseeded quiet]
      apply Attempt.inside_andThen
      intro effect _
      have restored (after : Scene) : restoring (scene.reseeded g) (after.reseeded g) =
          (restoring scene after).reseeded g := rfl
      rw [restored, ih]
      rfl

theorem runFocused_reseeded (quiet : s.Quiet) (mnemonics : List String) :
    (s.reseeded seed g).runFocused mnemonics =
      (s.runFocused mnemonics).inside (reseeded seed g) := by
  apply (reseeded_unnoticed seed g).runFocused rfl
  intro program o _ _
  have noise : s.rules.noise.Quiet := quiet.noise
  have placed : (s.reseeded seed g).turnInPlace program o =
      (runInPlace s.rules program ((⟨o, s.habitat⟩ : Scene).reseeded g)).inside fun scene =>
        ({ (s.withFocused scene.organism).reseeded seed g with
          habitat := scene.habitat } : Simulation) := by
    simp only [← withFocused_reseeded]
    rfl
  rw [placed, runInPlace_reseeded noise]
  rfl

theorem assign_reseeded (s : Simulation) (field : RunField) (v : Value) :
    (s.reseeded seed g).assign field v = (s.assign field v).inside (reseeded seed g) := by
  have settings : (s.reseeded seed g).settings = s.settings := rfl
  unfold assign
  rw [settings]
  split <;> rfl

theorem announce_reseeded (s : Simulation) (knob : Knob) (v : Value) :
    (s.reseeded seed g).announce knob v = (s.announce knob v).inside (reseeded seed g) := by
  have limit : (s.reseeded seed g).digitLimit = s.digitLimit := rfl
  unfold announce
  rw [limit]
  split <;> rfl

theorem set_reseeded (s : Simulation) (knob : Knob) (v : Value) :
    (s.reseeded seed g).set knob v = (s.set knob v).inside (reseeded seed g) := by
  unfold set
  dsimp only
  rw [assign_reseeded]
  apply Attempt.inside_andThen
  intro _ _
  exact announce_reseeded _ knob _

theorem spawn_reseeded (s : Simulation) (p : Point) (direction : Direction) :
    (s.reseeded seed g).spawn p direction = (s.spawn p direction).inside (reseeded seed g) := by
  have grid : (s.reseeded seed g).grid = s.grid := rfl
  have population : (s.reseeded seed g).population = s.population := rfl
  have settings : (s.reseeded seed g).settings = s.settings := rfl
  unfold spawn
  rw [grid, population, settings, onPopulation_reseeded]
  apply Attempt.inside_andThen
  intro _ _
  rfl

end Simulation

def Deed.isAboutSeed : Deed → Bool
  | perform .seed => true
  | perform .generator => true
  | _ => false

namespace Simulation
variable {s t : Simulation} {seed : Nat} {g : Generator}

theorem act_reseeded (quiet : s.Quiet) (deed : Deed) (apart : deed.isAboutSeed = false) :
    (s.reseeded seed g).act deed = (s.act deed).inside (reseeded seed g) := by
  have grid : (s.reseeded seed g).grid = s.grid := rfl
  have population : (s.reseeded seed g).population = s.population := rfl
  have map {α β : Type} {left right : Attempt Simulation α} (f : α → β)
      (same : left = right.inside (reseeded seed g)) :
      left.map f = (right.map f).inside (reseeded seed g) := congrArg (Attempt.map f) same
  cases deed with
  | assign field v => exact map _ (assign_reseeded s field v)
  | start => rfl
  | perform operation =>
      cases operation with
      | step => exact map _ (stepCycle_reseeded quiet)
      | runCycles count => exact map _ (runCycles_reseeded quiet count)
      | spawn p direction => exact map _ (spawn_reseeded s p direction)
      | writeByte p value =>
          simp only [act, perform, writeByte]
          split <;> rfl
      | writeInstruction p mnemonic =>
          simp only [act, perform, writeInstruction]
          split <;> rfl
      | writeInstructions p mnemonics =>
          simp only [act, perform, writeInstructions]
          split <;> rfl
      | moveCursor direction steps =>
          simp only [act, perform, moveCursor, population, grid]
          split
          · rfl
          · exact congrArg (Attempt.done · _) (withFocused_reseeded s _)
      | moveIp direction steps =>
          simp only [act, perform, moveIp, population, grid]
          split
          · rfl
          · exact congrArg (Attempt.done · _) (withFocused_reseeded s _)
      | runFocused mnemonics => exact map _ (runFocused_reseeded quiet mnemonics)
      | set knob v => exact map _ (set_reseeded s knob v)
      | setSpeed v => exact map _ (assign_reseeded s _ v)
      | seed => cases apart
      | generator => cases apart
      | _ => rfl

end Simulation
end Terrarium
