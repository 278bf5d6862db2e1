import Terrarium.Proofs.Instruction.Scopes
import Terrarium.Proofs.Settings.Limits
import Terrarium.Proofs.Simulation.Deeds
import Terrarium.Proofs.Simulation.Passage
import Terrarium.Proofs.Simulation.Soundness

/-!
Simulations that differ in nothing but the scope of write errors. The instructions that are
performed along a run are read off it as it goes, each with the organism that performs it. Main
statement: as long as none of them pastes more than one cell, the simulations go through the same.
-/

namespace Terrarium

namespace RunSettings

def rescoped (scope : WriteErrorScope) (settings : RunSettings) : RunSettings :=
  { settings with noise := settings.noise.rescoped scope }

/-- An assignment of the scope itself makes the scopes one, and all others leave both as they are. -/
theorem assign_rescoped (settings : RunSettings) (scope : WriteErrorScope) (field : RunField)
    (v : Value) :
    ∃ scope', (settings.rescoped scope).assign field v =
      (settings.assign field v).map (RunSettings.rescoped scope') := by
  have set : ∃ scope', (settings.rescoped scope).set field v =
      (settings.set field v).map (RunSettings.rescoped scope') := by
    cases field with
    | writeErrorScope =>
        simp only [RunSettings.set]
        cases Coercion.choice WriteErrorScope.name .perWrite .perInstruction v with
        | error fault => exact ⟨scope, rfl⟩
        | ok chosen => exact ⟨chosen, rfl⟩
    | cosmicRayRate =>
        refine ⟨scope, ?_⟩
        simp only [RunSettings.set]
        split
        · rfl
        · apply Except.map_of_store
          exact fun _ => rfl
    | _ =>
        refine ⟨scope, ?_⟩
        apply Except.map_of_store
        exact fun _ => rfl
  obtain ⟨scope', set⟩ := set
  refine ⟨scope', ?_⟩
  unfold assign
  rw [set]
  cases settings.set field v <;> rfl

end RunSettings

namespace Simulation
open Population Attempt

def performs (s : Simulation) (slot : SlotId) : List (Organism × Instruction) :=
  match s.population.get? slot with
  | none => []
  | some o => ((Instruction.ofByte? (s.grid.read o.ip)).map fun instruction => (o, instruction)).toList

def performedInCycle (s : Simulation) : List (Organism × Instruction) :=
  notes performs executeSlot s.ready s

def performedInCycles : Nat → Simulation → List (Organism × Instruction)
  | 0, _ => []
  | count + 1, s =>
      s.performedInCycle ++ match s.stepCycle.answer with
        | .ok _ => performedInCycles count s.stepCycle.state
        | .error _ => []

def performedInPlace (rules : Rules) : List Instruction → Scene → List (Organism × Instruction)
  | [], _ => []
  | instruction :: rest, scene =>
      let ran := scene.run rules false (some instruction)
      (scene.organism, instruction) :: match ran.answer with
        | .ok _ => performedInPlace rules rest (restoring scene ran.state)
        | .error _ => []

def performedBy (s : Simulation) : Deed → List (Organism × Instruction)
  | .perform .step => s.performedInCycle
  | .perform (.runCycles count) => performedInCycles count.toNat s
  | .perform (.runFocused mnemonics) =>
      match Instruction.resolveAll Instruction.ofMnemonic mnemonics, s.population.focused? with
      | .ok program, some o => performedInPlace s.rules program ⟨o, s.habitat⟩
      | _, _ => []
  | _ => []

/-- All instructions that organisms perform along a run, each with its organism as it meets it. -/
def performed (s : Simulation) : List Deed → List (Organism × Instruction)
  | [] => []
  | deed :: rest => s.performedBy deed ++ (s.act deed).state.performed rest

def Narrow (performances : List (Organism × Instruction)) : Prop :=
  ∀ performance ∈ performances, ¬ performance.1.PastesWide performance.2

theorem Narrow.append_left {first second : List (Organism × Instruction)}
    (narrow : Narrow (first ++ second)) : Narrow first :=
  fun performance member => narrow performance (List.mem_append_left _ member)

theorem Narrow.append_right {first second : List (Organism × Instruction)}
    (narrow : Narrow (first ++ second)) : Narrow second :=
  fun performance member => narrow performance (List.mem_append_right _ member)

def rescoped (scope : WriteErrorScope) (s : Simulation) : Simulation :=
  { s with settings := s.settings.rescoped scope }

variable {s t : Simulation} {scope : WriteErrorScope} {width height : Nat}

theorem adopt_rescoped (s : Simulation) (child : Organism) :
    (s.rescoped scope).adopt child = (s.adopt child).inside (rescoped scope) := by
  have onPopulation : (s.rescoped scope).onPopulation
      (s.population.insertChild s.settings.limits child) =
      (s.onPopulation (s.population.insertChild s.settings.limits child)).inside (rescoped scope) := rfl
  unfold adopt
  refine Eq.trans (congrArg (Attempt.andThen · _) onPopulation) ?_
  apply inside_andThen
  intro _ _
  rfl

theorem rescoped_unnoticed (scope : WriteErrorScope) : Unnoticed (fun _ => True) (rescoped scope) where
  setup _ _ := trivial
  ready _ := rfl
  delaying _ := rfl
  get? _ _ := rfl
  remove _ _ _ := rfl
  adopt := adopt_rescoped
  tickSlot s slot := by
    have population : (s.rescoped scope).population = s.population := rfl
    simp only [tickSlot, population]
    cases s.population.get? slot <;> rfl
  irradiate _ _ := rfl
  enforceMax _ _ := rfl
  charge _ _ := rfl
  cycle _ := rfl
  atCycle _ _ := rfl
  dedupIfDue s := by
    have due : every (s.rescoped scope).cycle (s.rescoped scope).settings.autoDedupPeriod =
        every s.cycle s.settings.autoDedupPeriod := rfl
    unfold dedupIfDue
    rw [due]
    split <;> rfl
  synced _ := rfl
  writeErrors _ := rfl

theorem executeSlot_rescoped (sound : s.Sound width height) (slot : SlotId)
    (narrow : Narrow (s.performs slot)) :
    (s.rescoped scope).executeSlot slot = (s.executeSlot slot).inside (rescoped scope) := by
  apply (rescoped_unnoticed scope).executeSlot
  intro o found
  have executed : Scene.execute (s.rules.rescoped scope) ⟨o, s.habitat⟩ =
      Scene.execute s.rules ⟨o, s.habitat⟩ := by
    unfold Scene.execute
    cases decoded : Instruction.ofByte? (s.grid.read o.ip) with
    | none => rw [show Instruction.ofByte? (s.habitat.grid.read o.ip) = none from decoded]; rfl
    | some instruction =>
        rw [show Instruction.ofByte? (s.habitat.grid.read o.ip) = some instruction from decoded]
        have performs : (o, instruction) ∈ s.performs slot := by
          simp [Simulation.performs, found, decoded]
        exact Scene.run_rescoped (sound.scene found) (narrow _ performs) scope true
  exact congrArg (Attempt.inside _) executed

theorem executions_rescoped (sound : s.Sound width height) (slots : List SlotId)
    (narrow : Narrow (notes performs executeSlot slots s)) :
    forEach executeSlot slots (s.rescoped scope) =
      (forEach executeSlot slots s).inside (rescoped scope) := by
  induction slots generalizing s with
  | nil => rfl
  | cons slot rest ih =>
      rw [forEach, forEach, executeSlot_rescoped sound slot narrow.append_left]
      apply inside_andThen
      intro _ answer
      apply ih (sound.executeSlot slot).state
      have later := narrow.append_right
      rwa [answer] at later

theorem stepCycle_rescoped (sound : s.Sound width height) (narrow : Narrow s.performedInCycle) :
    (s.rescoped scope).stepCycle = s.stepCycle.inside (rescoped scope) :=
  (rescoped_unnoticed scope).stepCycle trivial (executions_rescoped sound s.ready narrow)

theorem stepCycles_rescoped (sound : s.Sound width height) (count : Nat)
    (narrow : Narrow (performedInCycles count s)) :
    stepCycles count (s.rescoped scope) = (stepCycles count s).inside (rescoped scope) := by
  induction count generalizing s with
  | zero => rfl
  | succ count ih =>
      rw [stepCycles_succ, stepCycles_succ, stepCycle_rescoped sound narrow.append_left]
      apply inside_andThen
      intro _ answer
      apply ih sound.stepCycle.state
      have later := narrow.append_right
      rwa [answer] at later

theorem runInPlace_rescoped {rules : Rules} {scene : Scene} (sound : scene.Sound width height)
    (program : List Instruction) (narrow : Narrow (performedInPlace rules program scene)) :
    runInPlace (rules.rescoped scope) program scene = runInPlace rules program scene := by
  induction program generalizing scene with
  | nil => rfl
  | cons instruction rest ih =>
      have first : ¬ scene.organism.PastesWide instruction := narrow _ List.mem_cons_self
      rw [runInPlace_cons, runInPlace_cons, Scene.run_rescoped sound first]
      apply andThen_congr
      intro effect answer
      have after := (Scene.run_sound sound rules false (some instruction)).state
      have later : Narrow (performedInPlace rules rest
          (restoring scene (scene.run rules false (some instruction)).state)) := by
        intro performance member
        apply narrow performance
        simp only [performedInPlace, answer]
        exact List.mem_cons_of_mem _ member
      exact congrArg (Attempt.map _) (ih (after.restored sound) later)

theorem withFocused_rescoped (s : Simulation) (o : Organism) :
    (s.rescoped scope).withFocused o = (s.withFocused o).rescoped scope := by
  have focus : (s.rescoped scope).focus = s.focus := rfl
  unfold withFocused
  rw [focus]
  split <;> rfl

theorem runFocused_rescoped (sound : s.Sound width height) (mnemonics : List String)
    (narrow : Narrow (s.performedBy (.perform (.runFocused mnemonics)))) :
    (s.rescoped scope).runFocused mnemonics = (s.runFocused mnemonics).inside (rescoped scope) := by
  apply (rescoped_unnoticed scope).runFocused rfl
  intro program o resolved focused
  simp only [performedBy, resolved, focused] at narrow
  have placed : (s.rescoped scope).turnInPlace program o =
      (runInPlace (s.rules.rescoped scope) program ⟨o, s.habitat⟩).inside fun scene =>
        ({ (s.withFocused scene.organism).rescoped scope with
          habitat := scene.habitat } : Simulation) := by
    simp only [← withFocused_rescoped]
    rfl
  rw [placed, runInPlace_rescoped (sound.focused focused) program narrow]
  rfl

theorem runCycles_rescoped (sound : s.Sound width height) (count : Int)
    (narrow : Narrow (performedInCycles count.toNat s)) :
    (s.rescoped scope).runCycles count = (s.runCycles count).inside (rescoped scope) :=
  (rescoped_unnoticed scope).runCycles (stepCycles_rescoped sound count.toNat narrow)

theorem assign_rescoped (s : Simulation) (scope : WriteErrorScope) (field : RunField) (v : Value) :
    ∃ scope', (s.rescoped scope).assign field v = (s.assign field v).inside (rescoped scope') := by
  obtain ⟨scope', assigned⟩ := s.settings.assign_rescoped scope field v
  have settings : (s.rescoped scope).settings = s.settings.rescoped scope := rfl
  unfold assign
  rw [settings, assigned]
  cases s.settings.assign field v with
  | error fault => exact ⟨scope, rfl⟩
  | ok taken => exact ⟨scope', rfl⟩

theorem set_rescoped (s : Simulation) (scope : WriteErrorScope) (knob : Knob) (v : Value) :
    ∃ scope', ((s.rescoped scope).set knob v).state = (s.set knob v).state.rescoped scope' := by
  obtain ⟨scope', assigned⟩ := s.assign_rescoped scope knob.field
    (if knob = .autoDedupPeriod ∧ v.isEmpty then .int 0 else v)
  refine ⟨scope', ?_⟩
  rw [set_state, set_state, assigned]
  rfl

theorem spawn_rescoped (s : Simulation) (scope : WriteErrorScope) (p : Point)
    (direction : Direction) :
    (s.rescoped scope).spawn p direction = (s.spawn p direction).inside (rescoped scope) := by
  have onPopulation :
      (s.rescoped scope).onPopulation
        (s.population.spawn s.settings.limits (s.grid.normalize p) direction) =
      (s.onPopulation (s.population.spawn s.settings.limits (s.grid.normalize p) direction)).inside
        (rescoped scope) := rfl
  unfold spawn
  refine Eq.trans (congrArg (Attempt.andThen · _) onPopulation) ?_
  apply inside_andThen
  intro _ _
  rfl

theorem act_rescoped (sound : s.Sound width height) (scope : WriteErrorScope) {deed : Deed}
    (narrow : Narrow (s.performedBy deed)) :
    ∃ scope', ((s.rescoped scope).act deed).state = (s.act deed).state.rescoped scope' := by
  have same {α : Type} {left right : Attempt Simulation α} (f : α → Answer)
      (equal : left = right.inside (rescoped scope)) :
      ∃ scope', (left.map f).state = (right.map f).state.rescoped scope' :=
    ⟨scope, congrArg Attempt.state equal⟩
  have population : (s.rescoped scope).population = s.population := rfl
  have grid : (s.rescoped scope).grid = s.grid := rfl
  have assigned (field : RunField) (v : Value) :
      ∃ scope', ((s.rescoped scope).assign field v).state =
        (s.assign field v).state.rescoped scope' := by
    obtain ⟨scope', equal⟩ := s.assign_rescoped scope field v
    exact ⟨scope', congrArg Attempt.state equal⟩
  cases deed with
  | assign field v => exact assigned field v
  | start => exact ⟨scope, rfl⟩
  | perform operation =>
      cases operation with
      | step => exact same _ (stepCycle_rescoped sound narrow)
      | runCycles count => exact same _ (runCycles_rescoped sound count narrow)
      | spawn p direction => exact same _ (spawn_rescoped s scope p direction)
      | writeByte p value =>
          refine ⟨scope, ?_⟩
          simp only [act, perform, writeByte]
          split <;> rfl
      | writeInstruction p mnemonic =>
          refine ⟨scope, ?_⟩
          simp only [act, perform, writeInstruction]
          split <;> rfl
      | writeInstructions p mnemonics =>
          refine ⟨scope, ?_⟩
          simp only [act, perform, writeInstructions]
          split <;> rfl
      | moveCursor direction steps =>
          refine ⟨scope, ?_⟩
          simp only [act, perform, moveCursor, population, grid]
          split
          · rfl
          · exact withFocused_rescoped s _
      | moveIp direction steps =>
          refine ⟨scope, ?_⟩
          simp only [act, perform, moveIp, population, grid]
          split
          · rfl
          · exact withFocused_rescoped s _
      | runFocused mnemonics => exact same _ (runFocused_rescoped sound mnemonics narrow)
      | set knob v => exact s.set_rescoped scope knob v
      | setSpeed v => exact assigned _ v
      | _ => exact ⟨scope, rfl⟩

theorem after_rescoped (reachable : Reachable s) (scope : WriteErrorScope) {deeds : List Deed}
    (facade : ∀ deed ∈ deeds, deed.isFacade = true) (narrow : Narrow (s.performed deeds)) :
    ∃ scope', (s.rescoped scope).after deeds = (s.after deeds).rescoped scope' := by
  induction deeds generalizing s scope with
  | nil => exact ⟨scope, rfl⟩
  | cons deed rest ih =>
      obtain ⟨scope', first⟩ := act_rescoped reachable.sound scope narrow.append_left
      have reached := reachable.onwards (Reaches.refl.act (facade deed List.mem_cons_self))
      obtain ⟨scope'', later⟩ := ih reached scope'
        (fun other member => facade other (List.mem_cons_of_mem _ member)) narrow.append_right
      refine ⟨scope'', ?_⟩
      rw [after_cons, after_cons, first, later]

/-- Single cells are written alike in both scopes. So simulations that differ in the scope alone stay
the same in all else, whatever is asked of them, as long as no organism pastes more than one cell. -/
theorem write_error_scopes_agree_on_single_cells :
    (∀ (noise : NoiseSettings) (first second : WriteErrorScope) (h : Habitat) (p : Point)
      (value : UInt8),
      h.write (noise.rescoped first) p value = h.write (noise.rescoped second) p value) ∧
    ∀ (s : Simulation) (deeds : List Deed), Reachable s →
      (∀ deed ∈ deeds, deed.isFacade = true) →
      (∀ o instruction, (o, instruction) ∈ s.performed deeds →
        Instruction.ofMnemonic "mc" = .ok instruction →
          ∀ side, o.clipboardSide = .ok side → side ≤ 1) →
      ∀ scope,
        let t := s.after deeds
        let u := (s.rescoped scope).after deeds
        u.grid = t.grid ∧ u.population = t.population ∧
          u.habitat.generator = t.habitat.generator ∧ u.metrics = t.metrics ∧
          ∃ scope', u = t.rescoped scope' := by
  constructor
  · intro noise first second h p value
    rw [Habitat.write_rescoped, Habitat.write_rescoped]
  · intro s deeds reachable facade narrow scope
    have single : Narrow (s.performed deeds) := by
      intro performance member wide
      obtain ⟨paste, side, found, wide⟩ := wide
      have small := narrow performance.1 performance.2 member (by rw [paste]; rfl) side found
      omega
    obtain ⟨scope', equal⟩ := after_rescoped reachable scope facade single
    dsimp only
    rw [equal]
    exact ⟨rfl, rfl, rfl, rfl, scope', rfl⟩

/-- Each write is hit by an error; between them the organism in focus fills, pastes and forks. -/
theorem write_error_scopes_agree_on_single_cells_twoCells :
    let deeds : List Deed := [.perform (.set .writeErrorChance (.int 1)),
      .perform (.spawn ⟨0, 0⟩ .right), .perform (.setFocus (some ⟨0, 0⟩)),
      .perform (.runFocused ["cm", "mc", "ma"]), .perform (.writeInstruction ⟨0, 0⟩ "ma"),
      .perform .step]
    let t := twoCells.after deeds
    let u := (twoCells.rescoped .perInstruction).after deeds
    t.metrics.writeErrors = 3 ∧ (twoCells.performed deeds).length = 4 ∧
      u.grid = t.grid ∧ u.population = t.population ∧
        u.habitat.generator = t.habitat.generator ∧ u.metrics = t.metrics := by
  intro deeds
  have alone : ∀ performance ∈ twoCells.performed deeds, performance.1.clipboard.length = 1 := by
    decide +kernel
  obtain ⟨grid, population, generator, metrics, _⟩ :=
    write_error_scopes_agree_on_single_cells.2 twoCells deeds ⟨twoCells, twoCells_fresh, .refl⟩
      (by decide)
      (by
        intro o instruction member _ side found
        have length := alone _ member
        rw [Organism.clipboardSide, length] at found
        cases found
        exact Nat.le_refl 1)
      .perInstruction
  have errors : (twoCells.after deeds).metrics.writeErrors = 3 := by decide +kernel
  have count : (twoCells.performed deeds).length = 4 := by decide +kernel
  exact ⟨errors, count, grid, population, generator, metrics⟩

end Simulation
end Terrarium
