import Terrarium.Proofs.Simulation.Settings

/-!
Changes of a simulation that its cycles do not notice. If each part of a cycle does the same with the
change made before it as with the change made after it, so does the whole. The instructions are left
open: whether they notice the change may hang on what they come upon. The same parts settle what
follows the instructions that are run in place.
-/

namespace Terrarium.Simulation
open Attempt

def turn (s : Simulation) (slot : SlotId) (o : Organism) : Attempt Simulation Effect :=
  (Scene.execute s.rules ⟨o, s.habitat⟩).inside fun scene =>
    { s with
      population := s.population.update slot scene.organism
      habitat := scene.habitat }

def turnInPlace (s : Simulation) (program : List Instruction) (o : Organism) :
    Attempt Simulation (List Effect) :=
  (runInPlace s.rules program ⟨o, s.habitat⟩).inside fun scene =>
    { s.withFocused scene.organism with habitat := scene.habitat }

/-- A change that the other parts of a cycle do not notice under a condition on the setup. -/
structure Unnoticed (P : Simulation → Prop) (f : Simulation → Simulation) : Prop where
  setup : ∀ {s t}, SameSetup s t → P s → P t
  ready : ∀ s, (f s).ready = s.ready
  delaying : ∀ s, (f s).delaying = s.delaying
  get? : ∀ s slot, (f s).population.get? slot = s.population.get? slot
  remove : ∀ s slot cause, (f s).onPopulation ((f s).population.remove slot cause) =
    (s.onPopulation (s.population.remove slot cause)).inside f
  adopt : ∀ s child, (f s).adopt child = (s.adopt child).inside f
  tickSlot : ∀ s slot, (f s).tickSlot slot = (s.tickSlot slot).inside f
  irradiate : ∀ s, P s → (f s).irradiate = s.irradiate.inside f
  enforceMax : ∀ s, P s → (f s).enforceMax = s.enforceMax.inside f
  charge : ∀ s slots, (f s).charge slots = (s.charge slots).inside f
  cycle : ∀ s, (f s).cycle = s.cycle
  atCycle : ∀ s cycle, ({ f s with cycle := cycle } : Simulation) = f { s with cycle := cycle }
  dedupIfDue : ∀ s, (f s).dedupIfDue = s.dedupIfDue.inside f
  synced : ∀ s, (f s).syncMetrics = f s.syncMetrics
  writeErrors : ∀ s, (f s).habitat.writeErrors = s.habitat.writeErrors

namespace Unnoticed
variable {P : Simulation → Prop} {f : Simulation → Simulation} {s : Simulation}

theorem adoptAll (unnoticed : Unnoticed P f) (children : List Organism) (s : Simulation) :
    Simulation.adoptAll children (f s) = (Simulation.adoptAll children s).inside f := by
  induction children generalizing s with
  | nil => rfl
  | cons child rest ih =>
      rw [Simulation.adoptAll, Simulation.adoptAll, unnoticed.adopt]
      apply inside_andThen
      intro slot _
      rw [ih]
      rfl

theorem executeSlot (unnoticed : Unnoticed P f) {slot : SlotId}
    (same : ∀ o, s.population.get? slot = some o →
      (f s).turn slot o = (s.turn slot o).inside f) :
    (f s).executeSlot slot = (s.executeSlot slot).inside f := by
  unfold Simulation.executeSlot
  rw [unnoticed.get?]
  cases found : s.population.get? slot with
  | none => rfl
  | some o =>
      refine Eq.trans (congrArg (Attempt.andThen · _) (same o found)) ?_
      apply inside_andThen
      intro effect _
      cases effect with
      | proceed => rfl
      | spawn child => exact congrArg (Attempt.map fun _ => ()) (unnoticed.adopt _ child)
      | halt => exact congrArg (Attempt.map fun _ => ()) (unnoticed.remove _ slot .halt)

theorem runFocused (unnoticed : Unnoticed P f) {mnemonics : List String}
    (focused : (f s).population.focused? = s.population.focused?)
    (same : ∀ program o, Instruction.resolveAll Instruction.ofMnemonic mnemonics = .ok program →
      s.population.focused? = some o →
        (f s).turnInPlace program o = (s.turnInPlace program o).inside f) :
    (f s).runFocused mnemonics = (s.runFocused mnemonics).inside f := by
  unfold Simulation.runFocused
  rw [focused]
  cases resolved : Instruction.resolveAll Instruction.ofMnemonic mnemonics with
  | error fault => rfl
  | ok program =>
      cases found : s.population.focused? with
      | none => rfl
      | some o =>
          refine Eq.trans (congrArg (Attempt.andThen · _) (same program o resolved found)) ?_
          apply inside_andThen
          intro effects _
          rw [unnoticed.adoptAll]
          apply inside_andThen
          intro spawned _
          rw [unnoticed.synced]
          dsimp only
          rw [unnoticed.writeErrors, unnoticed.writeErrors]
          rfl

theorem ticks (unnoticed : Unnoticed P f) (slots : List SlotId) (s : Simulation) :
    forEach Simulation.tickSlot slots (f s) =
      (forEach Simulation.tickSlot slots s).inside f :=
  forEach_inside (P := fun _ => True) slots (fun _ _ _ => trivial)
    (fun s slot _ => unnoticed.tickSlot s slot) trivial

/-- A cycle does not notice the change if its turns to execute do not. -/
theorem stepCycle (unnoticed : Unnoticed P f) (holds : P s)
    (executed : forEach Simulation.executeSlot s.ready (f s) =
      (forEach Simulation.executeSlot s.ready s).inside f) :
    (f s).stepCycle = s.stepCycle.inside f := by
  have start := SameSetup.refl s
  have ran := (Ensures.forEach s.ready
    (fun u slot _ (same : SameSetup s u) => same.executeSlot slot) s start).state
  -- Part by part; no part changes the setup, so that the condition still holds of the next.
  unfold Simulation.stepCycle
  dsimp only
  rw [unnoticed.ready, unnoticed.delaying, executed]
  apply inside_andThen
  intro _ _
  have ticked := (Ensures.forEach s.delaying
    (fun u slot _ (same : SameSetup s u) => same.tickSlot slot) _ ran).state
  rw [unnoticed.ticks]
  apply inside_andThen
  intro _ _
  rw [unnoticed.irradiate _ (unnoticed.setup ticked holds)]
  apply inside_andThen
  intro _ _
  rw [unnoticed.enforceMax _ (unnoticed.setup ticked.irradiate.state holds)]
  apply inside_andThen
  intro _ _
  rw [unnoticed.charge]
  apply inside_andThen
  intro _ _
  rw [unnoticed.cycle, unnoticed.atCycle, unnoticed.dedupIfDue]
  apply inside_andThen
  intro _ _
  rw [unnoticed.synced]
  rfl

def Turns (P : Simulation → Prop) (f : Simulation → Simulation) : Prop :=
  ∀ s slot, P s → (f s).executeSlot slot = (s.executeSlot slot).inside f

theorem stepCycle_of_turns (unnoticed : Unnoticed P f) (turns : Turns P f) (holds : P s) :
    (f s).stepCycle = s.stepCycle.inside f := by
  apply unnoticed.stepCycle holds
  apply forEach_inside s.ready _ (fun t slot holds => turns t slot holds) holds
  intro t slot holds
  exact unnoticed.setup ((SameSetup.refl t).executeSlot slot).state holds

theorem stepCycles_of_turns (unnoticed : Unnoticed P f) (turns : Turns P f) (count : Nat)
    (holds : P s) : stepCycles count (f s) = (stepCycles count s).inside f :=
  repeated_inside (fun t holds => unnoticed.setup (SameSetup.refl t).stepCycle.state holds)
    (fun _ holds => unnoticed.stepCycle_of_turns turns holds) count holds

theorem runCycles (unnoticed : Unnoticed P f) {count : Int}
    (ran : stepCycles count.toNat (f s) = (stepCycles count.toNat s).inside f) :
    (f s).runCycles count = (s.runCycles count).inside f := by
  unfold stepCycles at ran
  unfold Simulation.runCycles runCyclesAs
  rw [ran]
  split
  · rfl
  · apply inside_andThen
    intro _ _
    rw [unnoticed.cycle]
    rfl

end Unnoticed
end Terrarium.Simulation
