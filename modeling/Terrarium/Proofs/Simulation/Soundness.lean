import Terrarium.Proofs.Instruction.Soundness
import Terrarium.Proofs.Population.Soundness
import Terrarium.Proofs.Simulation.Reachability

/-!
Every operation keeps a simulation sound: its torus in shape, its population sound, and limits
that let newcomers live. So whatever callers ask for, in whatever order, the world keeps its
sides and no organism leaves its bounds.
-/

namespace Terrarium

theorem Grid.writeRow_shape (g : Grid) (p : Point) (program : List UInt8) :
    (g.writeRow p program).width = g.width ∧ (g.writeRow p program).height = g.height := by
  induction program generalizing g p with
  | nil => exact ⟨rfl, rfl⟩
  | cons byte rest ih => exact ih (g.write p byte) (g.step p .right 1)

theorem Grid.snapshot_shape (g : Grid) :
    g.snapshot.length = g.height ∧ ∀ row ∈ g.snapshot, row.length = g.width := by
  constructor
  · simp [snapshot]
  · intro row member
    obtain ⟨cells, _, rfl⟩ := List.mem_map.mp member
    exact cells.length_toList

namespace Simulation

structure Sound (width height : Nat) (s : Simulation) : Prop where
  shaped : s.habitat.Shaped width height
  population : s.population.Sound width height
  limits : s.settings.limits.Sound

namespace Sound
variable {width height : Nat} {s : Simulation}

theorem scene (sound : s.Sound width height) {slot : SlotId} {o : Organism}
    (found : s.population.get? slot = some o) : Scene.Sound width height ⟨o, s.habitat⟩ :=
  ⟨sound.shaped, sound.population.get? found⟩

theorem onPopulation {α : Type} {attempt : Attempt Population α} {Q : α → Prop}
    (sound : s.Sound width height) (kept : attempt.Ensures (Population.Sound width height) Q) :
    (s.onPopulation attempt).Ensures (Simulation.Sound width height) Q :=
  ⟨{ sound with population := kept.state }, kept.value⟩

theorem onPopulation' {α : Type} {attempt : Attempt Population α} (sound : s.Sound width height)
    (kept : attempt.state.Sound width height) :
    (s.onPopulation attempt).Ensures (Simulation.Sound width height) (fun _ => True) :=
  sound.onPopulation ⟨kept, fun _ _ => trivial⟩

theorem counted (sound : s.Sound width height) {metrics : Metrics} :
    ({ s with metrics := metrics } : Simulation).Sound width height := { sound with }

theorem adopt (sound : s.Sound width height) {child : Organism}
    (good : child.Sound width height) :
    (s.adopt child).Ensures (Simulation.Sound width height) (fun _ => True) := by
  apply (sound.onPopulation (sound.population.insertChild sound.limits good)).andThen
  intro s slot sound _
  exact .done sound.counted trivial

theorem adoptAll (sound : s.Sound width height) {children : List Organism}
    (good : ∀ child ∈ children, child.Sound width height) :
    (adoptAll children s).Ensures (Simulation.Sound width height) (fun _ => True) := by
  induction children generalizing s with
  | nil => exact .done sound trivial
  | cons child rest ih =>
      apply (sound.adopt (good child List.mem_cons_self)).andThen
      intro s slot sound _
      have others := ih sound fun other later => good other (List.mem_cons_of_mem _ later)
      exact others.map fun _ _ => trivial

theorem executeSlot (sound : s.Sound width height) (slot : SlotId) :
    (s.executeSlot slot).Ensures (Simulation.Sound width height) (fun _ => True) := by
  unfold Simulation.executeSlot
  cases found : s.population.get? slot with
  | none => exact .done sound trivial
  | some o =>
      have executed := Scene.execute_sound (sound.scene found) s.rules
      have placed : ((Scene.execute s.rules ⟨o, s.habitat⟩).inside fun scene =>
          ({ s with
            population := s.population.update slot scene.organism
            habitat := scene.habitat } : Simulation)).Ensures
            (Simulation.Sound width height) (Effect.Sound width height) := by
        apply executed.inside
        intro scene good
        exact { sound with
          shaped := good.shaped
          population := sound.population.update slot good.organism }
      apply placed.andThen
      intro s effect sound good
      cases effect with
      | proceed => exact .done sound trivial
      | spawn child => exact (sound.adopt good).map fun _ _ => trivial
      | halt =>
          have removed := sound.population.remove slot .halt
          exact (sound.onPopulation removed).map fun _ _ => trivial

theorem tickSlot (sound : s.Sound width height) (slot : SlotId) :
    (s.tickSlot slot).Ensures (Simulation.Sound width height) (fun _ => True) := by
  unfold Simulation.tickSlot
  cases found : s.population.get? slot with
  | none => exact .done sound trivial
  | some o =>
      have ticked := (sound.scene found).here.tickDelay
      obtain ⟨wide, high⟩ := sound.shaped
      rw [wide, high] at ticked
      have placed : ((o.tickDelay s.grid).inside fun o =>
          ({ s with population := s.population.update slot o } : Simulation)).Ensures
            (Simulation.Sound width height) (fun _ => True) := by
        apply Attempt.Ensures.inside ticked
        intro o good
        exact { sound with population := sound.population.update slot good }
      exact placed.map fun _ _ => trivial

theorem irradiate (sound : s.Sound width height) :
    s.irradiate.Ensures (Simulation.Sound width height) (fun _ => True) := by
  have struck := Habitat.cosmicRays_shaped sound.shaped s.settings.noise
  have placed : ((s.habitat.cosmicRays s.settings.noise).inside fun h =>
      ({ s with habitat := h } : Simulation)).Ensures
        (Simulation.Sound width height) (fun _ => True) :=
    struck.inside fun _ shaped => { sound with shaped := shaped }
  exact placed.map fun _ _ => trivial

theorem enforceMax (sound : s.Sound width height) :
    s.enforceMax.Ensures (Simulation.Sound width height) (fun _ => True) :=
  ⟨{ sound with population := sound.population.enforceMax _ _ _ }, fun _ _ => trivial⟩

theorem charge (sound : s.Sound width height) (slots : List SlotId) :
    (s.charge slots).Ensures (Simulation.Sound width height) (fun _ => True) :=
  (sound.onPopulation' (sound.population.charge slots)).map fun _ _ => trivial

theorem dedup (sound : s.Sound width height) :
    s.dedup.Ensures (Simulation.Sound width height) (fun _ => True) :=
  sound.onPopulation' sound.population.dedup

theorem dedupIfDue (sound : s.Sound width height) :
    s.dedupIfDue.Ensures (Simulation.Sound width height) (fun _ => True) := by
  unfold Simulation.dedupIfDue
  split
  · exact sound.dedup.map fun _ _ => trivial
  · exact .done sound trivial

theorem nextCycle (sound : s.Sound width height) :
    ({ s with cycle := s.cycle + 1 } : Simulation).Sound width height := { sound with }

theorem stepCycle (sound : s.Sound width height) :
    s.stepCycle.Ensures (Simulation.Sound width height) (fun _ => True) := by
  have executed := Attempt.Ensures.forEach s.ready
    (fun (t : Simulation) slot _ (sound : t.Sound width height) => sound.executeSlot slot) s sound
  apply executed.andThen
  intro t _ sound _
  have ticked := Attempt.Ensures.forEach s.delaying
    (fun (t : Simulation) slot _ (sound : t.Sound width height) => sound.tickSlot slot) t sound
  apply ticked.andThen
  intro t _ sound _
  apply sound.irradiate.andThen
  intro t _ sound _
  apply sound.enforceMax.andThen
  intro t _ sound _
  apply (sound.charge s.ready).andThen
  intro t _ sound _
  apply sound.nextCycle.dedupIfDue.andThen
  intro t _ sound _
  exact .done sound.counted trivial

theorem runCycles (sound : s.Sound width height) (count : Int) :
    (s.runCycles count).Ensures (Simulation.Sound width height) (fun _ => True) := by
  unfold Simulation.runCycles Simulation.runCyclesAs
  split
  · exact .fail _ sound
  · have run := Attempt.Ensures.repeated
      (fun (t : Simulation) (sound : t.Sound width height) => sound.stepCycle) count.toNat s sound
    apply run.andThen
    intro s _ sound _
    exact ⟨sound, fun _ _ => trivial⟩

theorem withGrid (sound : s.Sound width height) {g : Grid} (wide : g.width = width)
    (high : g.height = height) : (s.withGrid g).Sound width height :=
  { sound with shaped := ⟨wide, high⟩ }

theorem writeByte (sound : s.Sound width height) (p : Point) (value : Int) :
    (s.writeByte p value).Ensures (Simulation.Sound width height) (fun _ => True) := by
  unfold Simulation.writeByte
  split
  · exact .done (sound.withGrid sound.shaped.1 sound.shaped.2) trivial
  · exact .fail _ sound

theorem writeInstruction (sound : s.Sound width height) (p : Point) (mnemonic : String) :
    (s.writeInstruction p mnemonic).Ensures (Simulation.Sound width height) (fun _ => True) := by
  unfold Simulation.writeInstruction
  split
  · exact .done (sound.withGrid sound.shaped.1 sound.shaped.2) trivial
  · exact .fail _ sound

theorem writeInstructions (sound : s.Sound width height) (p : Point) (mnemonics : List String) :
    (s.writeInstructions p mnemonics).Ensures (Simulation.Sound width height) (fun _ => True) := by
  unfold Simulation.writeInstructions
  split
  · next program _ =>
      obtain ⟨wide, high⟩ := s.grid.writeRow_shape (s.grid.normalize p) program
      exact .done (sound.withGrid (wide.trans sound.shaped.1) (high.trans sound.shaped.2)) trivial
  · exact .fail _ sound

theorem spawn (sound : s.Sound width height) (p : Point) (direction : Direction) :
    (s.spawn p direction).Ensures (Simulation.Sound width height) (fun _ => True) := by
  have inside := s.grid.normalize_within p
  have wide : s.grid.width = width := sound.shaped.1
  have high : s.grid.height = height := sound.shaped.2
  rw [wide, high] at inside
  apply (sound.onPopulation (sound.population.spawn sound.limits inside direction)).andThen
  intro s slot sound _
  exact .done sound.counted trivial

theorem setFocus (sound : s.Sound width height) (slot : Option SlotId) :
    (s.setFocus slot).Ensures (Simulation.Sound width height) (fun _ => True) :=
  .done { sound with population := sound.population.setFocus slot } trivial

theorem killFocused (sound : s.Sound width height) :
    s.killFocused.Ensures (Simulation.Sound width height) (fun _ => True) :=
  sound.onPopulation' sound.population.killFocused

theorem focused (sound : s.Sound width height) {o : Organism}
    (found : s.population.focused? = some o) : Scene.Sound width height ⟨o, s.habitat⟩ := by
  obtain ⟨slot, _, here⟩ := Option.bind_eq_some_iff.mp found
  exact sound.scene here

theorem withFocused (sound : s.Sound width height) {o : Organism} (good : o.Sound width height) :
    (s.withFocused o).Sound width height := by
  unfold Simulation.withFocused
  split
  · next slot _ => exact { sound with population := sound.population.update slot good }
  · exact sound

theorem moveCursor (sound : s.Sound width height) (direction : Direction) (steps : Int) :
    (s.moveCursor direction steps).Ensures (Simulation.Sound width height) (fun _ => True) := by
  unfold Simulation.moveCursor
  cases found : s.population.focused? with
  | none => exact .done sound trivial
  | some o =>
      have moved := (sound.focused found).become
        ((sound.focused found).here.moveCursor direction steps)
      exact .done (sound.withFocused moved.organism) trivial

theorem moveIp (sound : s.Sound width height) (direction : Direction) (steps : Int) :
    (s.moveIp direction steps).Ensures (Simulation.Sound width height) (fun _ => True) := by
  unfold Simulation.moveIp
  cases found : s.population.focused? with
  | none => exact .done sound trivial
  | some o =>
      have moved := (sound.focused found).become
        ((sound.focused found).here.movedTo (s.grid.step_within o.ip direction steps))
      exact .done (sound.withFocused moved.organism) trivial

theorem runInPlace {scene : Scene} (sound : scene.Sound width height) (rules : Rules)
    (program : List Instruction) :
    (runInPlace rules program scene).Ensures (Scene.Sound width height)
      (fun effects => ∀ effect ∈ effects, effect.Sound width height) := by
  induction program generalizing scene with
  | nil => exact .done sound (by simp)
  | cons instruction rest ih =>
      apply (Scene.run_sound sound rules false (some instruction)).andThen
      intro after effect acted good
      -- Delay and phase are put back after each instruction, and were sound before it.
      refine (ih (acted.restored sound)).map ?_
      intro effects others other member
      rcases List.mem_cons.mp member with rfl | later
      · exact good
      · exact others other later

theorem runFocused (sound : s.Sound width height) (mnemonics : List String) :
    (s.runFocused mnemonics).Ensures (Simulation.Sound width height) (fun _ => True) := by
  unfold Simulation.runFocused
  cases Instruction.resolveAll Instruction.ofMnemonic mnemonics with
  | error fault => exact .fail _ sound
  | ok program =>
      cases found : s.population.focused? with
      | none => exact .done sound trivial
      | some o =>
          have run := runInPlace (sound.focused found) s.rules program
          have placed : ((Simulation.runInPlace s.rules program ⟨o, s.habitat⟩).inside fun scene =>
              { s.withFocused scene.organism with habitat := scene.habitat }).Ensures
                (Simulation.Sound width height)
                (fun effects => ∀ effect ∈ effects, effect.Sound width height) := by
            apply run.inside
            intro scene good
            exact { sound.withFocused good.organism with shaped := good.shaped }
          apply placed.andThen
          intro s effects sound good
          have children : ∀ child ∈ effects.filterMap Effect.child?, child.Sound width height := by
            intro child member
            obtain ⟨effect, here, same⟩ := List.mem_filterMap.mp member
            cases effect with
            | spawn other =>
                cases same
                exact good _ here
            | proceed => cases same
            | halt => cases same
          apply (sound.adoptAll children).andThen
          intro s slots sound _
          exact ⟨sound.counted, fun _ _ => trivial⟩

theorem assign (sound : s.Sound width height) (field : RunField) (v : Value) :
    (s.assign field v).Ensures (Simulation.Sound width height) (fun _ => True) := by
  unfold Simulation.assign
  split
  · next settings changed =>
      exact .done { sound with limits := RunSettings.assign_limits sound.limits changed } trivial
  · exact .fail _ sound

theorem set (sound : s.Sound width height) (knob : Knob) (v : Value) :
    (s.set knob v).Ensures (Simulation.Sound width height) (fun _ => True) := by
  apply (sound.assign knob.field (if knob = .autoDedupPeriod ∧ v.isEmpty then .int 0 else v)).andThen
  intro s _ sound _
  refine ⟨?_, fun _ _ => trivial⟩
  rw [announce_state]
  exact sound

theorem perform (sound : s.Sound width height) {operation : Operation}
    (facade : operation.isFacade = true) :
    (s.perform operation).Ensures (Simulation.Sound width height) (fun _ => True) := by
  cases operation with
  | step => exact sound.stepCycle.map fun _ _ => trivial
  | runCycles count => exact (sound.runCycles count).map fun _ _ => trivial
  | pause => exact .done { sound with } trivial
  | resume => exact .done { sound with } trivial
  | stop => exact .done { sound with } trivial
  | spawn p direction => exact (sound.spawn p direction).map fun _ _ => trivial
  | insert o => cases facade -- goes past the facade
  | writeByte p value => exact (sound.writeByte p value).map fun _ _ => trivial
  | writeInstruction p mnemonic => exact (sound.writeInstruction p mnemonic).map fun _ _ => trivial
  | writeInstructions p mnemonics =>
      exact (sound.writeInstructions p mnemonics).map fun _ _ => trivial
  | setFocus slot => exact (sound.setFocus slot).map fun _ _ => trivial
  | focusOrdinal ordinal => exact (sound.setFocus _).map fun _ _ => trivial
  | killFocused => exact sound.killFocused.map fun _ _ => trivial
  | moveCursor direction steps => exact (sound.moveCursor direction steps).map fun _ _ => trivial
  | moveIp direction steps => exact (sound.moveIp direction steps).map fun _ _ => trivial
  | runFocused mnemonics => exact (sound.runFocused mnemonics).map fun _ _ => trivial
  | dedup => exact sound.dedup.map fun _ _ => trivial
  | set knob v => exact (sound.set knob v).map fun _ _ => trivial
  | setSpeed v => exact (sound.assign .cycleSpeed v).map fun _ _ => trivial
  | _ => exact .done sound trivial

end Sound

theorem Fresh.sound {s : Simulation} (new : Fresh s) : s.Sound s.grid.width s.grid.height := by
  obtain ⟨_, _, worldSettings, settings, remover, offered, _, _, taken, built⟩ := new
  unfold build at built
  split at built
  · cases built
  · cases built
    exact ⟨⟨rfl, rfl⟩, Population.empty_sound _ _, RunSettings.read_limits taken⟩

theorem Reaches.sound {s t : Simulation} {width height : Nat} (reached : s.Reaches t)
    (start : s.Sound width height) : t.Sound width height := by
  induction reached with
  | refl => exact start
  | perform _ operation facade ih => exact (ih.perform facade).state
  | assign _ field v ih => exact (ih.assign field v).state
  | start _ ih => exact { ih with }

theorem Reachable.sound {s : Simulation} (reachable : Reachable s) :
    s.Sound s.grid.width s.grid.height := by
  obtain ⟨fresh, new, reached⟩ := reachable
  have sound := reached.sound new.sound
  have wide : s.grid.width = fresh.grid.width := sound.shaped.1
  have high : s.grid.height = fresh.grid.height := sound.shaped.2
  rw [wide, high]
  exact sound

/-- Whatever is asked of a new simulation, its grid keeps its shape, and every organism that lives
on it stays in its bounds. -/
theorem world_stays_in_bounds {fresh s : Simulation} (new : Fresh fresh)
    (reached : fresh.Reaches s) :
    s.grid.width = fresh.grid.width ∧ s.grid.height = fresh.grid.height ∧
      s.grid.snapshot.length = fresh.grid.height ∧
      (∀ row ∈ s.grid.snapshot, row.length = fresh.grid.width ∧ ∀ cell ∈ row, cell.toNat ≤ 255) ∧
      ∀ m ∈ s.population.members, m.2.Sound fresh.grid.width fresh.grid.height := by
  have sound := reached.sound new.sound
  have wide : s.grid.width = fresh.grid.width := sound.shaped.1
  have high : s.grid.height = fresh.grid.height := sound.shaped.2
  obtain ⟨rows, cells⟩ := s.grid.snapshot_shape
  refine ⟨wide, high, rows.trans high, ?_, sound.population.members⟩
  intro row member
  refine ⟨(cells row member).trans wide, ?_⟩
  intro cell _
  have byte := cell.toNat_lt
  omega

theorem world_stays_in_bounds_twoCells :
    let s := twoCells.performAll
      [.writeInstructions ⟨-1, 5⟩ ["-=", "a-"], .spawn ⟨-3, 9⟩ .right, .step]
    s.population.size = 2 ∧ s.grid.width = 2 ∧ s.grid.height = 1 ∧
      ∀ m ∈ s.population.members, m.2.Sound 2 1 := by
  intro s
  have reached : twoCells.Reaches s := Reaches.performAll _ (by decide)
  obtain ⟨wide, high, _, _, members⟩ := world_stays_in_bounds twoCells_fresh reached
  exact ⟨by decide +kernel, wide, high, members⟩

end Simulation
end Terrarium
