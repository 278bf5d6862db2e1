import Terrarium.Proofs.Population.Focus
import Terrarium.Proofs.Settings.Limits
import Terrarium.Proofs.Simulation.Passage

/-!
What a simulation may be seen by and steered with: its focus, its flags and its speed. A cycle reads
none of them, and neither does what places organisms and bytes or limits the population. So a
simulation in another guise goes through the same, and comes out in that guise.
-/

namespace Terrarium

structure Guise where
  gaze : Gaze
  running : Bool
  paused : Bool
  speed : Nat → Nat

namespace RunSettings
variable {speed : Nat → Nat}

def paced (speed : Nat → Nat) (settings : RunSettings) : RunSettings :=
  { settings with cycleSpeed := speed settings.cycleSpeed }

theorem assign_paced (settings : RunSettings) {field : RunField} (v : Value)
    (apart : field ≠ .cycleSpeed) :
    (settings.paced speed).assign field v = (settings.assign field v).map (paced speed) := by
  have set : (settings.paced speed).set field v = (settings.set field v).map (paced speed) := by
    cases field with
    | cycleSpeed => exact absurd rfl apart
    | cosmicRayRate =>
        simp only [RunSettings.set]
        split
        · rfl
        · apply Except.map_of_store
          intro _
          rfl
    | _ =>
        apply Except.map_of_store
        intro _
        rfl
  unfold assign
  rw [set]
  cases settings.set field v <;> rfl

theorem get_paced (settings : RunSettings) {field : RunField} (apart : field ≠ .cycleSpeed) :
    (settings.paced speed).get field = settings.get field := by
  cases field with
  | cycleSpeed => exact absurd rfl apart
  | _ => rfl

end RunSettings

theorem Knob.field_ne_cycleSpeed (knob : Knob) : knob.field ≠ .cycleSpeed := by
  cases knob <;> decide

namespace Simulation
variable {g : Guise}

def guised (g : Guise) (s : Simulation) : Simulation :=
  { s with
    settings := s.settings.paced g.speed
    population := s.population.seen g.gaze
    running := g.running
    paused := g.paused }

theorem onPopulation_guised {α : Type} (s : Simulation) (attempt : Attempt Population α) :
    (s.guised g).onPopulation (attempt.inside (Population.seen g.gaze)) =
      (s.onPopulation attempt).inside (guised g) := rfl

theorem adopt_guised (s : Simulation) (child : Organism) :
    (s.guised g).adopt child = (s.adopt child).inside (guised g) := by
  have inserted : (s.guised g).population.insertChild (s.guised g).settings.limits child =
      (s.population.insertChild s.settings.limits child).inside (Population.seen g.gaze) :=
    Population.insert_seen _ _
  unfold adopt
  rw [inserted, onPopulation_guised]
  apply Attempt.inside_andThen
  intro _ _
  rfl

theorem tickSlot_guised (s : Simulation) (slot : SlotId) :
    (s.guised g).tickSlot slot = (s.tickSlot slot).inside (guised g) := by
  have found : (s.guised g).population.get? slot = s.population.get? slot := rfl
  unfold tickSlot
  rw [found]
  cases s.population.get? slot <;> rfl

theorem enforceMax_guised (s : Simulation) :
    (s.guised g).enforceMax = s.enforceMax.inside (guised g) := by
  have culled : (s.guised g).population.enforceMax (s.guised g).remover
      (s.guised g).settings.limits.maxPopulation (s.guised g).habitat.generator =
      (s.population.enforceMax s.remover s.settings.limits.maxPopulation s.habitat.generator).inside
        fun state => (state.1.seen g.gaze, state.2) := Population.enforceMax_seen _ _ _ _
  unfold enforceMax
  dsimp only
  rw [culled]
  rfl

theorem charge_guised (s : Simulation) (slots : List SlotId) :
    (s.guised g).charge slots = (s.charge slots).inside (guised g) :=
  congrArg (fun charged => ((s.guised g).onPopulation charged).map fun _ => ())
    (Population.charge_seen slots s.population)

theorem dedup_guised (s : Simulation) : (s.guised g).dedup = s.dedup.inside (guised g) :=
  congrArg (s.guised g).onPopulation (Population.dedup_seen s.population)

theorem dedupIfDue_guised (s : Simulation) :
    (s.guised g).dedupIfDue = s.dedupIfDue.inside (guised g) := by
  have due : every (s.guised g).cycle (s.guised g).settings.autoDedupPeriod =
      every s.cycle s.settings.autoDedupPeriod := rfl
  unfold dedupIfDue
  rw [due, dedup_guised]
  split <;> rfl

theorem guised_unnoticed (g : Guise) : Unnoticed (fun _ => True) (guised g) where
  setup _ _ := trivial
  ready _ := rfl
  delaying _ := rfl
  get? _ _ := rfl
  remove s slot cause := congrArg (onPopulation (s.guised g)) (Population.remove_seen _ slot cause)
  adopt := adopt_guised
  tickSlot := tickSlot_guised
  irradiate _ _ := rfl
  enforceMax s _ := enforceMax_guised s
  charge := charge_guised
  cycle _ := rfl
  atCycle _ _ := rfl
  dedupIfDue := dedupIfDue_guised
  synced _ := rfl
  writeErrors _ := rfl

theorem turns_guised (g : Guise) : Unnoticed.Turns (fun _ => True) (guised g) :=
  fun _ _ _ => (guised_unnoticed g).executeSlot fun _ _ => rfl

theorem stepCycle_guised (s : Simulation) :
    (s.guised g).stepCycle = s.stepCycle.inside (guised g) :=
  (guised_unnoticed g).stepCycle_of_turns (turns_guised g) trivial

theorem stepCycles_guised (count : Nat) (s : Simulation) :
    stepCycles count (s.guised g) = (stepCycles count s).inside (guised g) :=
  (guised_unnoticed g).stepCycles_of_turns (turns_guised g) count trivial

theorem runCycles_guised (s : Simulation) (count : Int) :
    (s.guised g).runCycles count = (s.runCycles count).inside (guised g) :=
  (guised_unnoticed g).runCycles (stepCycles_guised count.toNat s)

theorem spawn_guised (s : Simulation) (p : Point) (direction : Direction) :
    (s.guised g).spawn p direction = (s.spawn p direction).inside (guised g) := by
  have spawned : (s.guised g).population.spawn (s.guised g).settings.limits
      ((s.guised g).grid.normalize p) direction =
      (s.population.spawn s.settings.limits (s.grid.normalize p) direction).inside
        (Population.seen g.gaze) := Population.spawn_seen _ _ _ _
  unfold spawn
  rw [spawned, onPopulation_guised]
  apply Attempt.inside_andThen
  intro _ _
  rfl

theorem writeByte_guised (s : Simulation) (p : Point) (value : Int) :
    (s.guised g).writeByte p value = (s.writeByte p value).inside (guised g) := by
  unfold writeByte
  split <;> rfl

theorem writeInstruction_guised (s : Simulation) (p : Point) (mnemonic : String) :
    (s.guised g).writeInstruction p mnemonic =
      (s.writeInstruction p mnemonic).inside (guised g) := by
  unfold writeInstruction
  split <;> rfl

theorem writeInstructions_guised (s : Simulation) (p : Point) (mnemonics : List String) :
    (s.guised g).writeInstructions p mnemonics =
      (s.writeInstructions p mnemonics).inside (guised g) := by
  unfold writeInstructions
  split <;> rfl

theorem assign_guised (s : Simulation) {field : RunField} (v : Value)
    (apart : field ≠ .cycleSpeed) :
    (s.guised g).assign field v = (s.assign field v).inside (guised g) := by
  have settings : (s.guised g).settings = s.settings.paced g.speed := rfl
  unfold assign
  rw [settings, RunSettings.assign_paced _ _ apart]
  cases s.settings.assign field v <;> rfl

theorem announce_guised (s : Simulation) (knob : Knob) (v : Value) :
    (s.guised g).announce knob v = (s.announce knob v).inside (guised g) := by
  have limit : (s.guised g).digitLimit = s.digitLimit := rfl
  unfold announce
  rw [limit]
  split <;> rfl

theorem set_guised (s : Simulation) (knob : Knob) (v : Value) :
    (s.guised g).set knob v = (s.set knob v).inside (guised g) := by
  unfold set
  dsimp only
  rw [assign_guised s _ knob.field_ne_cycleSpeed]
  apply Attempt.inside_andThen
  intro _ _
  have stored (t : Simulation) :
      (t.guised g).settings.get knob.field = t.settings.get knob.field :=
    t.settings.get_paced knob.field_ne_cycleSpeed
  rw [stored, announce_guised]

end Simulation
end Terrarium
