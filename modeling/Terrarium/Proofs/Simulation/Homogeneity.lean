import Terrarium.Proofs.Population.Translation
import Terrarium.Proofs.Simulation.Settings
import Terrarium.Proofs.Simulation.Soundness

/-!
A simulation has no special place. Main statement: without cosmic rays, which are the one thing
that draws places, running cycles and carrying the world along a translation can be done in
either order, and so can placing organisms and bytes, when their places are carried too.
-/

namespace Terrarium

theorem Metrics.witness_congr (metrics : Metrics) {events events' : List Event}
    (same : Event.causes events = Event.causes events') :
    metrics.witness events = metrics.witness events' := by
  have byCause (events : List Event) : metrics.witness events =
      (Event.causes events).foldl (fun m cause => m.recordRemoval cause 1) metrics := by
    simp only [witness, Event.causes, List.foldl_map]
  rw [byCause, byCause, same]

namespace Translation
variable {t : Translation} {g : Grid}
open Population

theorem write_offset (fits : t.Fits g) (p : Point) (value : UInt8) :
    (t.grid g).write (p.offset t.right t.down) value = t.grid (g.write p value) := by
  rw [← write_point fits, point_eq fits, ← normalize_grid, Grid.write_normalize]

theorem writeRow_point (fits : t.Fits g) (p : Point) (program : List UInt8) :
    (t.grid g).writeRow (t.point p) program = t.grid (g.writeRow p program) := by
  induction program generalizing g p with
  | nil => rfl
  | cons byte rest ih =>
      simp only [Grid.writeRow, write_point fits, step_point fits]
      exact ih (fits.write p byte) _

def simulation (t : Translation) (s : Simulation) : Simulation :=
  { s with
    habitat := t.habitat s.habitat
    population := t.population s.population }

structure Calm (t : Translation) (s : Simulation) : Prop where
  sound : s.Sound t.width t.height
  quiet : s.settings.noise.cosmicRayRate.isZero = true

variable {s : Simulation}

theorem Calm.fits (calm : t.Calm s) : t.Fits s.grid := fits_of_shaped calm.sound.shaped

theorem calm_of {α : Type} {attempt : Attempt Simulation α} {Q Q' : α → Prop} (calm : t.Calm s)
    (sound : attempt.Ensures (Simulation.Sound t.width t.height) Q)
    (settings : attempt.Ensures (s.SameSettings) Q') :
    attempt.Ensures t.Calm (fun _ => True) := by
  have same : attempt.state.settings = s.settings := settings.state
  refine ⟨⟨sound.state, ?_⟩, fun _ _ => trivial⟩
  rw [same]
  exact calm.quiet

theorem onPopulation_simulation {α β : Type} {Q : α → β → Prop} {left : Attempt Population α}
    {right : Attempt Population β} (step : left.InStep (Attempt.Image t.population) Q right) :
    (s.onPopulation left).InStep (Attempt.Image t.simulation) Q
      ((t.simulation s).onPopulation right) := by
  refine ⟨?_, step.answers, step.causes⟩
  have population : right.state = t.population left.state := step.states
  have metrics := s.metrics.witness_congr step.causes
  simp only [Attempt.Image, Simulation.onPopulation, simulation, population, metrics]

theorem adopt_simulation (s : Simulation) (child : Organism) :
    (s.adopt child).InStep (Attempt.Image t.simulation) Eq
      ((t.simulation s).adopt (t.organism child)) := by
  have inserted : (s.population.insertChild s.settings.limits child).InStep
      (Attempt.Image t.population) Eq
      ((t.population s.population).insertChild s.settings.limits (t.organism child)) := by
    rw [insertChild_population]
    exact .image t.population _
  apply (onPopulation_simulation (s := s) inserted).andThen
  rintro s _ slot _ rfl rfl
  exact .done rfl rfl

theorem executeSlot_simulation (sound : s.Sound t.width t.height) (slot : SlotId) :
    (s.executeSlot slot).InStep (Attempt.Image t.simulation) (fun _ _ => True)
      ((t.simulation s).executeSlot slot) := by
  have look : (t.simulation s).population.get? slot = (s.population.get? slot).map t.organism :=
    get?_population s.population slot
  unfold Simulation.executeSlot
  rw [look]
  cases found : s.population.get? slot with
  | none => exact .done rfl trivial
  | some o =>
      have executed := execute_scene (sound.scene found) s.rules
      have placed : ((Scene.execute s.rules ⟨o, s.habitat⟩).inside fun scene =>
          ({ s with
            population := s.population.update slot scene.organism
            habitat := scene.habitat } : Simulation)).InStep
          (Attempt.Image t.simulation) (Attempt.Image t.effect)
          ((Scene.execute s.rules (t.scene ⟨o, s.habitat⟩)).inside fun scene =>
            ({ t.simulation s with
              population := (t.population s.population).update slot scene.organism
              habitat := scene.habitat } : Simulation)) := by
        apply executed.inside
        intro same
        rw [same]
        simp only [Attempt.Image, scene, update_population]
        rfl
      apply placed.andThen
      rintro s _ effect _ rfl rfl
      cases effect with
      | proceed => exact .done rfl trivial
      | spawn child => exact (adopt_simulation s child).map fun _ _ _ => trivial
      | halt =>
          have removed := remove_population (t := t) s.population slot .halt
          exact (onPopulation_simulation removed).map fun _ _ _ => trivial

theorem tickSlot_simulation (sound : s.Sound t.width t.height) (slot : SlotId) :
    (s.tickSlot slot).InStep (Attempt.Image t.simulation) (fun _ _ => True)
      ((t.simulation s).tickSlot slot) := by
  have look : (t.simulation s).population.get? slot = (s.population.get? slot).map t.organism :=
    get?_population s.population slot
  unfold Simulation.tickSlot
  rw [look]
  cases s.population.get? slot with
  | none => exact .done rfl trivial
  | some o =>
      have ticked : (t.organism o).tickDelay (t.simulation s).grid =
          (o.tickDelay s.grid).inside t.organism :=
        tickDelay_organism (fits_of_shaped sound.shaped) o
      have placed : ((o.tickDelay s.grid).inside fun o =>
          ({ s with population := s.population.update slot o } : Simulation)).InStep
          (Attempt.Image t.simulation) Eq
          (((o.tickDelay s.grid).inside t.organism).inside fun o =>
            ({ t.simulation s with
              population := (t.population s.population).update slot o } : Simulation)) := by
        apply Attempt.InStep.inside (.image t.organism _)
        intro same
        rw [same]
        simp only [Attempt.Image, update_population]
        rfl
      simp only [Option.map_some, ticked]
      exact placed.map fun _ _ _ => trivial

theorem ready_simulation (s : Simulation) : (t.simulation s).ready = s.ready := by
  simp only [Simulation.ready, simulation, population, List.filter_map, List.map_map]
  rfl

theorem delaying_simulation (s : Simulation) : (t.simulation s).delaying = s.delaying := by
  simp only [Simulation.delaying, simulation, population, List.filter_map, List.map_map]
  rfl

theorem irradiate_simulation (calm : t.Calm s) :
    s.irradiate.InStep (Attempt.Image t.simulation) (fun _ _ => True)
      (t.simulation s).irradiate := by
  have struck : (t.simulation s).habitat.cosmicRays s.settings.noise =
      (s.habitat.cosmicRays s.settings.noise).inside t.habitat :=
    cosmicRays_habitat calm.quiet s.habitat
  have same : (t.simulation s).settings = s.settings := rfl
  unfold Simulation.irradiate
  rw [same, struck]
  have placed : ((s.habitat.cosmicRays s.settings.noise).inside fun h =>
      ({ s with habitat := h } : Simulation)).InStep (Attempt.Image t.simulation) Eq
      (((s.habitat.cosmicRays s.settings.noise).inside t.habitat).inside fun h =>
        ({ t.simulation s with habitat := h } : Simulation)) := by
    apply Attempt.InStep.inside (.image t.habitat _)
    intro same
    rw [same]
    rfl
  exact placed.map fun _ _ _ => trivial

theorem enforceMax_simulation (s : Simulation) :
    s.enforceMax.InStep (Attempt.Image t.simulation) (fun _ _ => True)
      (t.simulation s).enforceMax := by
  have culled := enforceMax_population (t := t) s.remover s.settings.limits.maxPopulation
    s.habitat.generator s.population
  have answered := culled.map (f := fun _ => ()) (g := fun _ => ()) (S := fun _ _ => True)
    fun _ _ _ => trivial
  refine ⟨?_, answered.answers, culled.causes⟩
  -- The generator goes on in the same way, since the victims are drawn by their order.
  have state : ((t.population s.population).enforceMax s.remover s.settings.limits.maxPopulation
      s.habitat.generator).state = _ := culled.states
  have metrics := s.metrics.witness_congr culled.causes
  simp only [Attempt.Image, Simulation.enforceMax, simulation, habitat, state, ← metrics]

theorem charge_simulation (s : Simulation) (slots : List SlotId) :
    (s.charge slots).InStep (Attempt.Image t.simulation) (fun _ _ => True)
      ((t.simulation s).charge slots) :=
  (onPopulation_simulation (charge_population slots s.population)).map fun _ _ _ => trivial

theorem dedupIfDue_simulation (sound : s.Sound t.width t.height) :
    s.dedupIfDue.InStep (Attempt.Image t.simulation) (fun _ _ => True)
      (t.simulation s).dedupIfDue := by
  have deduped := onPopulation_simulation (s := s)
    (dedup_population (fits_of_shaped sound.shaped) sound.population)
  have same : every (t.simulation s).cycle (t.simulation s).settings.autoDedupPeriod =
      every s.cycle s.settings.autoDedupPeriod := rfl
  unfold Simulation.dedupIfDue
  rw [same]
  split
  · exact deduped.map fun _ _ _ => trivial
  · exact .done rfl trivial

theorem Calm.executeSlot (calm : t.Calm s) (slot : SlotId) :
    (s.executeSlot slot).Ensures t.Calm (fun _ => True) :=
  calm_of calm (calm.sound.executeSlot slot) (Simulation.executeSlot_settings rfl slot)

theorem Calm.tickSlot (calm : t.Calm s) (slot : SlotId) :
    (s.tickSlot slot).Ensures t.Calm (fun _ => True) :=
  calm_of calm (calm.sound.tickSlot slot) (Simulation.tickSlot_settings rfl slot)

theorem Calm.irradiate (calm : t.Calm s) : s.irradiate.Ensures t.Calm (fun _ => True) :=
  calm_of calm calm.sound.irradiate (Simulation.irradiate_settings rfl)

theorem Calm.enforceMax (calm : t.Calm s) : s.enforceMax.Ensures t.Calm (fun _ => True) :=
  calm_of calm calm.sound.enforceMax (Simulation.enforceMax_settings rfl)

theorem Calm.charge (calm : t.Calm s) (slots : List SlotId) :
    (s.charge slots).Ensures t.Calm (fun _ => True) :=
  calm_of calm (calm.sound.charge slots) (Simulation.charge_settings rfl slots)

theorem Calm.nextCycle (calm : t.Calm s) : t.Calm { s with cycle := s.cycle + 1 } :=
  ⟨calm.sound.nextCycle, calm.quiet⟩

theorem Calm.dedupIfDue (calm : t.Calm s) : s.dedupIfDue.Ensures t.Calm (fun _ => True) :=
  calm_of calm calm.sound.dedupIfDue (Simulation.dedupIfDue_settings rfl)

theorem Calm.stepCycle (calm : t.Calm s) : s.stepCycle.Ensures t.Calm (fun _ => True) :=
  calm_of calm calm.sound.stepCycle (Simulation.stepCycle_settings rfl)

theorem stepCycle_simulation (calm : t.Calm s) :
    s.stepCycle.InStep (Attempt.Image t.simulation) (fun _ _ => True)
      (t.simulation s).stepCycle := by
  have keepReady (u : Simulation) (slot : SlotId) (_ : slot ∈ s.ready) (calm : t.Calm u) :=
    calm.executeSlot slot
  have keepDelaying (u : Simulation) (slot : SlotId) (_ : slot ∈ s.delaying) (calm : t.Calm u) :=
    calm.tickSlot slot
  have executed := Attempt.InStep.forEach_image s.ready keepReady
    (fun u slot _ calm => executeSlot_simulation calm.sound slot) s calm
  -- Each part of the cycle runs in step, and leaves a state in which the next one does.
  unfold Simulation.stepCycle
  rw [ready_simulation, delaying_simulation]
  apply Attempt.InStep.andThen_kept (.forEach s.ready keepReady s calm) executed
  intro u _ _ calm _
  have ticked := Attempt.InStep.forEach_image s.delaying keepDelaying
    (fun u slot _ calm => tickSlot_simulation calm.sound slot) u calm
  apply Attempt.InStep.andThen_kept (.forEach s.delaying keepDelaying u calm) ticked
  intro u _ _ calm _
  apply Attempt.InStep.andThen_kept calm.irradiate (irradiate_simulation calm)
  intro u _ _ calm _
  apply Attempt.InStep.andThen_kept calm.enforceMax (enforceMax_simulation u)
  intro u _ _ calm _
  apply Attempt.InStep.andThen_kept (calm.charge s.ready) (charge_simulation u s.ready)
  intro u _ _ calm _
  have due := dedupIfDue_simulation calm.nextCycle.sound
  apply Attempt.InStep.andThen_kept calm.nextCycle.dedupIfDue due
  intro u _ _ _ _
  exact .done rfl trivial

theorem stepCycles_simulation (calm : t.Calm s) (count : Nat) :
    (Simulation.stepCycles count s).InStep (Attempt.Image t.simulation) (fun _ _ => True)
      (Simulation.stepCycles count (t.simulation s)) :=
  Attempt.InStep.repeated_image (fun _ calm => calm.stepCycle)
    (fun _ calm => stepCycle_simulation calm) count s calm

theorem runCycles_simulation (calm : t.Calm s) (count : Int) :
    (s.runCycles count).InStep (Attempt.Image t.simulation) (fun _ _ => True)
      ((t.simulation s).runCycles count) := by
  unfold Simulation.runCycles Simulation.runCyclesAs
  split
  · exact .fail _ rfl
  · apply (stepCycles_simulation calm count.toNat).andThen
    rintro u _ _ _ rfl _
    exact ⟨rfl, .ok trivial, rfl⟩

theorem spawn_simulation (fits : t.Fits s.grid) (p : Point) (direction : Direction) :
    (s.spawn p direction).InStep (Attempt.Image t.simulation) Eq
      ((t.simulation s).spawn (p.offset t.right t.down) direction) := by
  have place : (t.simulation s).grid.normalize (p.offset t.right t.down) =
      t.point (s.grid.normalize p) := by
    rw [point_normalize fits, point_eq fits]
    rfl
  have spawned := onPopulation_simulation (s := s)
    (spawn_population (t := t) s.population s.settings.limits (s.grid.normalize p) direction)
  unfold Simulation.spawn
  rw [place]
  apply spawned.andThen
  rintro u _ slot _ rfl rfl
  exact .done rfl rfl

theorem writeByte_simulation (fits : t.Fits s.grid) (p : Point) (value : Int) :
    (t.simulation s).writeByte (p.offset t.right t.down) value =
      (s.writeByte p value).inside t.simulation := by
  have written := write_offset fits p (lowByte value)
  unfold Simulation.writeByte
  split
  · exact congrArg (fun g => Attempt.done ((t.simulation s).withGrid g) ()) written
  · rfl

theorem writeInstruction_simulation (fits : t.Fits s.grid) (p : Point) (mnemonic : String) :
    (t.simulation s).writeInstruction (p.offset t.right t.down) mnemonic =
      (s.writeInstruction p mnemonic).inside t.simulation := by
  unfold Simulation.writeInstruction
  cases Instruction.byteOf mnemonic with
  | error fault => rfl
  | ok byte =>
      exact congrArg (fun g => Attempt.done ((t.simulation s).withGrid g) ())
        (write_offset fits p byte)

theorem writeInstructions_simulation (fits : t.Fits s.grid) (p : Point) (mnemonics : List String) :
    (t.simulation s).writeInstructions (p.offset t.right t.down) mnemonics =
      (s.writeInstructions p mnemonics).inside t.simulation := by
  have place : (t.simulation s).grid.normalize (p.offset t.right t.down) =
      t.point (s.grid.normalize p) := by
    rw [point_normalize fits, point_eq fits]
    rfl
  unfold Simulation.writeInstructions
  rw [place]
  cases Instruction.resolveAll Instruction.byteOf mnemonics with
  | error fault => rfl
  | ok program =>
      exact congrArg (fun g => Attempt.done ((t.simulation s).withGrid g) ())
        (writeRow_point fits (s.grid.normalize p) program)

end Translation

namespace Simulation

def translate (s : Simulation) (right down : Int) : Simulation :=
  Translation.simulation ⟨s.grid.width, s.grid.height, right, down⟩ s

theorem read_translate (s : Simulation) (right down : Int) (p : Point) :
    (s.translate right down).grid.read (p.offset right down) = s.grid.read p := by
  have fits : Translation.Fits ⟨s.grid.width, s.grid.height, right, down⟩ s.grid := ⟨rfl, rfl⟩
  have carried := Translation.read_point fits p
  rw [Translation.point_eq fits] at carried
  exact ((Translation.grid _ s.grid).read_normalize _).symm.trans carried

/-- The second action leaves the state of the first carried along, and gives the same answer. -/
def Carries {α : Type} (right down : Int) (first second : Attempt Simulation α) : Prop :=
  second.state = first.state.translate right down ∧ second.answer = first.answer

theorem carries_of {α : Type} {s : Simulation} {right down : Int} {V : α → Prop}
    {first second : Attempt Simulation α}
    (sound : first.Ensures (Simulation.Sound s.grid.width s.grid.height) V)
    (step : first.InStep (Attempt.Image
      (Translation.simulation ⟨s.grid.width, s.grid.height, right, down⟩)) Eq second) :
    Carries right down first second := by
  have wide : first.state.grid.width = s.grid.width := sound.state.shaped.1
  have high : first.state.grid.height = s.grid.height := sound.state.shaped.2
  refine ⟨?_, step.answers.eq⟩
  rw [translate, wide, high]
  exact step.states

theorem carries_of_inside {α : Type} {s : Simulation} {right down : Int} {V : α → Prop}
    {first second : Attempt Simulation α}
    (sound : first.Ensures (Simulation.Sound s.grid.width s.grid.height) V)
    (same : second = first.inside
      (Translation.simulation ⟨s.grid.width, s.grid.height, right, down⟩)) :
    Carries right down first second := by
  rw [same]
  exact carries_of sound (.image _ first)

theorem carries_of_inStep {s : Simulation} {right down : Int} {V : Unit → Prop}
    {first second : Attempt Simulation Unit}
    (sound : first.Ensures (Simulation.Sound s.grid.width s.grid.height) V)
    (step : first.InStep (Attempt.Image
      (Translation.simulation ⟨s.grid.width, s.grid.height, right, down⟩)) (fun _ _ => True) second) :
    Carries right down first second :=
  carries_of sound (step.weaken (fun _ _ related => related) fun _ _ _ => rfl)

/-- Without cosmic rays, cycles and whatever is placed between them commute with translations. -/
theorem translation_commutes {s : Simulation} (reachable : Reachable s)
    (quiet : s.settings.noise.cosmicRayRate.isZero = true) (right down : Int) :
    Carries right down s.stepCycle (s.translate right down).stepCycle ∧
      (∀ count, Carries right down (stepCycles count s)
        (stepCycles count (s.translate right down))) ∧
      (∀ count, Carries right down (s.runCycles count)
        ((s.translate right down).runCycles count)) ∧
      (∀ p direction, Carries right down (s.spawn p direction)
        ((s.translate right down).spawn (p.offset right down) direction)) ∧
      (∀ p value, Carries right down (s.writeByte p value)
        ((s.translate right down).writeByte (p.offset right down) value)) ∧
      (∀ p mnemonic, Carries right down (s.writeInstruction p mnemonic)
        ((s.translate right down).writeInstruction (p.offset right down) mnemonic)) ∧
      ∀ p mnemonics, Carries right down (s.writeInstructions p mnemonics)
        ((s.translate right down).writeInstructions (p.offset right down) mnemonics) := by
  have sound := reachable.sound
  have fits : Translation.Fits ⟨s.grid.width, s.grid.height, right, down⟩ s.grid := ⟨rfl, rfl⟩
  have calm : Translation.Calm ⟨s.grid.width, s.grid.height, right, down⟩ s := ⟨sound, quiet⟩
  refine ⟨?_, ?_, ?_, ?_, ?_, ?_, ?_⟩
  · exact carries_of_inStep sound.stepCycle (Translation.stepCycle_simulation calm)
  · intro count
    have kept := Attempt.Ensures.repeated
      (fun (u : Simulation) (sound : u.Sound s.grid.width s.grid.height) => sound.stepCycle)
      count s sound
    exact carries_of_inStep kept (Translation.stepCycles_simulation calm count)
  · exact fun count =>
      carries_of_inStep (sound.runCycles count) (Translation.runCycles_simulation calm count)
  · exact fun p direction =>
      carries_of (sound.spawn p direction) (Translation.spawn_simulation fits p direction)
  · exact fun p value =>
      carries_of_inside (sound.writeByte p value) (Translation.writeByte_simulation fits p value)
  · exact fun p mnemonic =>
      carries_of_inside (sound.writeInstruction p mnemonic)
        (Translation.writeInstruction_simulation fits p mnemonic)
  · exact fun p mnemonics =>
      carries_of_inside (sound.writeInstructions p mnemonics)
        (Translation.writeInstructions_simulation fits p mnemonics)

theorem translation_commutes_twoCells :
    let s := twoCells.performAll [.writeInstruction ⟨1, 0⟩ "-=", .spawn ⟨1, 0⟩ .right]
    s.population.size = 1 ∧
      (s.translate 1 (-3)).stepCycle.state = s.stepCycle.state.translate 1 (-3) := by
  intro s
  have reachable : Reachable s := ⟨twoCells, twoCells_fresh, Reaches.performAll _ (by decide)⟩
  have quiet : s.settings.noise.cosmicRayRate.isZero = true := by decide +kernel
  exact ⟨by decide +kernel, (translation_commutes reachable quiet 1 (-3)).1.1⟩

end Simulation
end Terrarium
