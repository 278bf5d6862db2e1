import Terrarium.Proofs.Instruction.Failure

/-!
Write errors by write and by instruction. The scopes draw the same trial for a single byte, so they
come apart only where an organism pastes more than one cell.
-/

namespace Terrarium

def NoiseSettings.rescoped (scope : WriteErrorScope) (noise : NoiseSettings) : NoiseSettings :=
  { noise with writeErrorScope := scope }

def Rules.rescoped (scope : WriteErrorScope) (rules : Rules) : Rules :=
  { rules with noise := rules.noise.rescoped scope }

namespace Habitat
variable (noise : NoiseSettings) (scope : WriteErrorScope)

/-- One trial is one draw, whether it is for a write or for an instruction. -/
theorem trials_one (scope scope' : WriteErrorScope) (p : Binary64) (g : Generator) :
    trials scope p 1 g = trials scope' p 1 g := by
  cases scope <;> cases scope' <;> rfl

theorem corrupt_rescoped (h : Habitat) {values : List UInt8} (single : values.length = 1) :
    h.corrupt (noise.rescoped scope) values = h.corrupt noise values := by
  have probability : (noise.rescoped scope).writeErrorProbability = noise.writeErrorProbability := rfl
  unfold corrupt
  rw [probability]
  cases noise.writeErrorProbability with
  | error fault => rfl
  | ok chance =>
      cases chance with
      | none => rfl
      | some p =>
          have tried := trials_one (noise.rescoped scope).writeErrorScope noise.writeErrorScope p
            h.generator
          simp only [single, tried]

theorem write_rescoped (h : Habitat) (p : Point) (value : UInt8) :
    h.write (noise.rescoped scope) p value = h.write noise p value := by
  unfold write
  rw [corrupt_rescoped noise scope h rfl]

theorem writeSquare_rescoped (h : Habitat) (center : Point) {buffer : List UInt8}
    (single : buffer.length = 1) :
    h.writeSquare (noise.rescoped scope) center buffer = h.writeSquare noise center buffer := by
  unfold writeSquare
  rw [corrupt_rescoped noise scope h single]

end Habitat

def Organism.PastesWide (o : Organism) (instruction : Instruction) : Prop :=
  instruction = .paste ∧ ∃ side, o.clipboardSide = .ok side ∧ 1 < side

theorem Organism.Sound.pastes_one {width height : Nat} {o : Organism} (sound : o.Sound width height)
    (narrow : ¬ o.PastesWide .paste) : o.clipboard.length = 1 := by
  obtain ⟨side, found⟩ := squareSide_of_oddSquare sound.clipboard
  have small : side ≤ 1 := Nat.le_of_not_lt fun wide => narrow ⟨rfl, side, found, wide⟩
  obtain ⟨odd, _, length⟩ := squareSide_eq_ok_iff.mp found
  have one : side = 1 := by omega
  rw [length, one]

namespace Scene
variable {rules : Rules} {s : Scene} {width height : Nat} {instruction : Instruction}

theorem act_rescoped (sound : s.Sound width height)
    (narrow : ¬ s.organism.PastesWide instruction) (scope : WriteErrorScope) :
    s.act (rules.rescoped scope) instruction = s.act rules instruction := by
  have noise : (rules.rescoped scope).noise = rules.noise.rescoped scope := rfl
  have costs : (rules.rescoped scope).instructionCosts = rules.instructionCosts := rfl
  cases instruction with
  | writeCell r => simp only [act, noise, Habitat.write_rescoped]
  | paste =>
      have single := sound.organism.pastes_one narrow
      simp only [act, noise, costs, Habitat.writeSquare_rescoped rules.noise scope _ _ single]
  | _ => rfl

theorem run_rescoped (sound : s.Sound width height)
    (narrow : ¬ s.organism.PastesWide instruction) (scope : WriteErrorScope) (advance : Bool) :
    s.run (rules.rescoped scope) advance (some instruction) =
      s.run rules advance (some instruction) := by
  simp only [run, act_rescoped sound narrow scope]

end Scene
end Terrarium
