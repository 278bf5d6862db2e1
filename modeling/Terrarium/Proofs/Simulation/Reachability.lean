import Terrarium.Proofs.Attempt
import Terrarium.Simulation.Operation

/-!
The states of a simulation that callers can bring about: it is built from settings that pass
their checks, and then asked for operations in any order, the failing ones included. Putting an
organism in as it is goes past the facade and is left out. The run loop only starts the
simulation, runs cycles and lets others act.
-/

namespace Terrarium

/-- Everything but putting an organism into the population as it is. -/
def Operation.isFacade : Operation → Bool
  | .insert _ => false
  | _ => true

namespace Simulation

/-- Just built, from settings that were read and found in order. -/
def Fresh (s : Simulation) : Prop :=
  ∃ world run, ∃ (worldSettings : WorldSettings) (settings : RunSettings),
    ∃ remover offered digitLimit,
    WorldSettings.read world = .ok worldSettings ∧ RunSettings.read run = .ok settings ∧
      (build worldSettings settings remover offered digitLimit).answer = .ok s

theorem Fresh.start {s : Simulation} (new : Fresh s) :
    s.population = .empty ∧ s.metrics = {} ∧ s.cycle = 0 := by
  obtain ⟨_, _, _, _, _, _, _, _, _, built⟩ := new
  unfold build at built
  split at built
  · cases built
  · cases built
    exact ⟨rfl, rfl, rfl⟩

inductive Reaches (s : Simulation) : Simulation → Prop where
  | refl : Reaches s s
  | perform {t : Simulation} (reached : Reaches s t) (operation : Operation)
      (facade : operation.isFacade = true) : Reaches s (t.perform operation).state
  | assign {t : Simulation} (reached : Reaches s t) (field : RunField) (v : Value) :
      Reaches s (t.assign field v).state
  | start {t : Simulation} (reached : Reaches s t) : Reaches s { t with running := true }

def Reachable (s : Simulation) : Prop := ∃ fresh, Fresh fresh ∧ Reaches fresh s

namespace Reaches
variable {s t u : Simulation}

theorem trans (head : Reaches s t) (tail : Reaches t u) : Reaches s u := by
  induction tail with
  | refl => exact head
  | perform _ operation facade ih => exact ih.perform operation facade
  | assign _ field v ih => exact ih.assign field v
  | start _ ih => exact ih.start

theorem performAll (operations : List Operation)
    (facade : ∀ operation ∈ operations, operation.isFacade = true) :
    Reaches s (s.performAll operations) := by
  induction operations generalizing s with
  | nil => exact .refl
  | cons operation rest ih =>
      have first : Reaches s (s.perform operation).state :=
        Reaches.refl.perform operation (facade operation List.mem_cons_self)
      exact first.trans (ih fun other later => facade other (List.mem_cons_of_mem _ later))

theorem stepCycle (reached : Reaches s t) :
    t.stepCycle.Ensures (Reaches s) (fun _ => True) :=
  ⟨reached.perform .step rfl, fun _ _ => trivial⟩

theorem stepCycles (count : Nat) (s : Simulation) : Reaches s (stepCycles count s).state :=
  (Attempt.Ensures.repeated (fun _ reached => stepCycle reached) count s .refl).state

end Reaches

theorem Reachable.onwards {s t : Simulation} (reachable : Reachable s) (reached : Reaches s t) :
    Reachable t := by
  obtain ⟨fresh, new, earlier⟩ := reachable
  exact ⟨fresh, new, earlier.trans reached⟩

/-- A new simulation on two cells that both read zero, with settings left as they are by default. -/
def twoCells : Simulation where
  seed := 7
  settings := {}
  remover := .oldest
  habitat := {
    grid := Grid.uniform 2 1 (by decide) (by decide) 0
    generator := Generator.ofSeed 7 }
  population := .empty
  metrics := {}
  cycle := 0
  running := false
  paused := false

theorem twoCells_fresh : Fresh twoCells :=
  ⟨[("width", .int 2), ("height", .int 1), ("fill", .int 0)], [],
    { width := 2, height := 1, fill := 0 }, {}, .oldest, 7, none, rfl, rfl, rfl⟩

end Simulation

end Terrarium
