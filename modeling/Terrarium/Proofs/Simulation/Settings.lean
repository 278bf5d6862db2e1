import Terrarium.Proofs.Attempt
import Terrarium.Simulation.Operation

/-!
A cycle reads the settings and never changes them, whether it comes to its end or fails. Of all
that can be asked of a simulation only an assignment changes them.
-/

namespace Terrarium.Simulation

def SameSettings (s t : Simulation) : Prop := t.settings = s.settings

structure SameSetup (s t : Simulation) : Prop where
  settings : SameSettings s t
  remover : t.remover = s.remover

variable {s t : Simulation}

namespace SameSetup

theorem refl (s : Simulation) : SameSetup s s := ⟨rfl, rfl⟩

theorem nextCycle (same : SameSetup s t) : SameSetup s { t with cycle := t.cycle + 1 } :=
  ⟨same.settings, same.remover⟩

theorem ensured {α : Type} {attempt : Attempt Simulation α} (same : SameSetup s attempt.state) :
    attempt.Ensures (SameSetup s) (fun _ => True) := ⟨same, fun _ _ => trivial⟩

theorem adopt (same : SameSetup s t) (child : Organism) :
    (t.adopt child).Ensures (SameSetup s) (fun _ => True) := by
  apply Attempt.Ensures.andThen (Q := fun _ => True)
    ⟨⟨same.settings, same.remover⟩, fun _ _ => trivial⟩
  intro u _ same _
  exact .done ⟨same.settings, same.remover⟩ trivial

theorem executeSlot (same : SameSetup s t) (slot : SlotId) :
    (t.executeSlot slot).Ensures (SameSetup s) (fun _ => True) := by
  unfold Simulation.executeSlot
  split
  · exact .done same trivial
  · apply Attempt.Ensures.andThen (Q := fun _ => True)
      ⟨⟨same.settings, same.remover⟩, fun _ _ => trivial⟩
    intro u effect same _
    cases effect with
    | proceed => exact .done same trivial
    | spawn child => exact (same.adopt child).map fun _ _ => trivial
    | halt => exact ensured ⟨same.settings, same.remover⟩

theorem tickSlot (same : SameSetup s t) (slot : SlotId) :
    (t.tickSlot slot).Ensures (SameSetup s) (fun _ => True) := by
  unfold Simulation.tickSlot
  split
  · exact .done same trivial
  · exact ensured ⟨same.settings, same.remover⟩

theorem irradiate (same : SameSetup s t) :
    t.irradiate.Ensures (SameSetup s) (fun _ => True) := ensured ⟨same.settings, same.remover⟩

theorem enforceMax (same : SameSetup s t) :
    t.enforceMax.Ensures (SameSetup s) (fun _ => True) := ensured ⟨same.settings, same.remover⟩

theorem charge (same : SameSetup s t) (slots : List SlotId) :
    (t.charge slots).Ensures (SameSetup s) (fun _ => True) := ensured ⟨same.settings, same.remover⟩

theorem dedupIfDue (same : SameSetup s t) :
    t.dedupIfDue.Ensures (SameSetup s) (fun _ => True) := by
  unfold Simulation.dedupIfDue
  split
  · exact ensured ⟨same.settings, same.remover⟩
  · exact .done same trivial

theorem stepCycle (same : SameSetup s t) :
    t.stepCycle.Ensures (SameSetup s) (fun _ => True) := by
  have executed := Attempt.Ensures.forEach t.ready
    (fun u slot _ (same : SameSetup s u) => same.executeSlot slot) t same
  apply executed.andThen
  intro u _ same _
  have ticked := Attempt.Ensures.forEach t.delaying
    (fun u slot _ (same : SameSetup s u) => same.tickSlot slot) u same
  apply ticked.andThen
  intro u _ same _
  apply same.irradiate.andThen
  intro u _ same _
  apply same.enforceMax.andThen
  intro u _ same _
  apply (same.charge t.ready).andThen
  intro u _ same _
  apply same.nextCycle.dedupIfDue.andThen
  intro u _ same _
  exact .done ⟨same.settings, same.remover⟩ trivial

theorem runCycles (same : SameSetup s t) (count : Int) :
    (t.runCycles count).Ensures (SameSetup s) (fun _ => True) := by
  unfold Simulation.runCycles runCyclesAs
  split
  · exact .fail _ same
  · have run := Attempt.Ensures.repeated
      (fun u (same : SameSetup s u) => same.stepCycle) count.toNat t same
    apply run.andThen
    intro u _ same _
    exact ensured same

end SameSetup

theorem SameSettings.of_setup {α : Type} {attempt : Attempt Simulation α} {Q : α → Prop}
    (same : SameSettings s t) (kept : attempt.Ensures (SameSetup t) Q) :
    attempt.Ensures (SameSettings s) Q :=
  kept.weaken (fun _ kept => Eq.trans kept.settings same) fun _ => id

theorem adopt_settings (same : SameSettings s t) (child : Organism) :
    (t.adopt child).Ensures (SameSettings s) (fun _ => True) :=
  same.of_setup ((SameSetup.refl t).adopt child)

theorem executeSlot_settings (same : SameSettings s t) (slot : SlotId) :
    (t.executeSlot slot).Ensures (SameSettings s) (fun _ => True) :=
  same.of_setup ((SameSetup.refl t).executeSlot slot)

theorem tickSlot_settings (same : SameSettings s t) (slot : SlotId) :
    (t.tickSlot slot).Ensures (SameSettings s) (fun _ => True) :=
  same.of_setup ((SameSetup.refl t).tickSlot slot)

theorem irradiate_settings (same : SameSettings s t) :
    t.irradiate.Ensures (SameSettings s) (fun _ => True) :=
  same.of_setup (SameSetup.refl t).irradiate

theorem enforceMax_settings (same : SameSettings s t) :
    t.enforceMax.Ensures (SameSettings s) (fun _ => True) :=
  same.of_setup (SameSetup.refl t).enforceMax

theorem charge_settings (same : SameSettings s t) (slots : List SlotId) :
    (t.charge slots).Ensures (SameSettings s) (fun _ => True) :=
  same.of_setup ((SameSetup.refl t).charge slots)

theorem dedupIfDue_settings (same : SameSettings s t) :
    t.dedupIfDue.Ensures (SameSettings s) (fun _ => True) :=
  same.of_setup (SameSetup.refl t).dedupIfDue

theorem stepCycle_settings (same : SameSettings s t) :
    t.stepCycle.Ensures (SameSettings s) (fun _ => True) :=
  same.of_setup (SameSetup.refl t).stepCycle

theorem withFocused_settings (s : Simulation) (o : Organism) :
    (s.withFocused o).settings = s.settings := by
  unfold withFocused
  split <;> rfl

theorem adoptAll_settings (same : SameSettings s t) (children : List Organism) :
    (adoptAll children t).Ensures (SameSettings s) (fun _ => True) := by
  induction children generalizing t with
  | nil => exact .done same trivial
  | cons child rest ih =>
      apply (adopt_settings same child).andThen
      intro u _ same _
      exact (ih same).map fun _ _ => trivial

theorem runFocused_settings (s : Simulation) (mnemonics : List String) :
    (s.runFocused mnemonics).Ensures (SameSettings s) (fun _ => True) := by
  unfold runFocused
  split
  · exact .fail _ rfl
  · split
    · exact .done rfl trivial
    · next program _ _ o _ =>
        have placed : ((runInPlace s.rules program ⟨o, s.habitat⟩).inside fun scene =>
            ({ s.withFocused scene.organism with habitat := scene.habitat } : Simulation)).Ensures
              (SameSettings s) (fun _ => True) :=
          ⟨s.withFocused_settings _, fun _ _ => trivial⟩
        apply placed.andThen
        intro t effects same _
        apply (adoptAll_settings same _).andThen
        intro t spawned same _
        exact ⟨same, fun _ _ => trivial⟩

def Adjusted (s t : Simulation) : Prop :=
  SameSettings s t ∨ ∃ field v, s.settings.assign field v = .ok t.settings

theorem assign_adjusted (s : Simulation) (field : RunField) (v : Value) :
    (s.assign field v).Ensures (Adjusted s) (fun _ => True) := by
  unfold assign
  split
  · next settings taken => exact .done (Or.inr ⟨field, v, taken⟩) trivial
  · exact .fail _ (Or.inl rfl)

theorem perform_adjusted (s : Simulation) (operation : Operation) :
    Adjusted s (s.perform operation).state := by
  cases operation with
  | step => exact Or.inl (stepCycle_settings rfl).state
  | runCycles count => exact Or.inl ((SameSetup.refl s).runCycles count).state.settings
  | spawn p direction =>
      have entered : (s.onPopulation (s.population.spawn s.settings.limits (s.grid.normalize p)
          direction)).Ensures (SameSettings s) (fun _ => True) := ⟨rfl, fun _ _ => trivial⟩
      have spawned : (s.spawn p direction).Ensures (SameSettings s) (fun _ => True) :=
        entered.andThen fun t _ same _ => .done same trivial
      exact Or.inl spawned.state
  | writeByte p value =>
      simp only [perform, writeByte]
      split <;> exact Or.inl rfl
  | writeInstruction p mnemonic =>
      simp only [perform, writeInstruction]
      split <;> exact Or.inl rfl
  | writeInstructions p mnemonics =>
      simp only [perform, writeInstructions]
      split <;> exact Or.inl rfl
  | moveCursor direction steps =>
      simp only [perform, moveCursor]
      split
      · exact Or.inl rfl
      · exact Or.inl (s.withFocused_settings _)
  | moveIp direction steps =>
      simp only [perform, moveIp]
      split
      · exact Or.inl rfl
      · exact Or.inl (s.withFocused_settings _)
  | runFocused mnemonics => exact Or.inl (runFocused_settings s mnemonics).state
  | set knob v =>
      have changed : s.Adjusted (s.set knob v).state := by
        rw [set_state]
        exact (assign_adjusted s knob.field _).state
      exact changed
  | setSpeed v => exact (assign_adjusted s .cycleSpeed v).state
  | _ => exact Or.inl rfl

end Terrarium.Simulation
