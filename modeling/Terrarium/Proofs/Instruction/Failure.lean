import Terrarium.Proofs.Attempt.Failure
import Terrarium.Proofs.Instruction.Soundness

/-!
What can go wrong with an instruction. A sound organism in its habitat fails for one cause only:
it writes, and the chance of a write error is a number too large for its reciprocal to be taken.
No phase is refused, no buffer has a size that is no square.
-/

namespace Terrarium

namespace NoiseSettings

def chanceTooLarge (noise : NoiseSettings) : Bool :=
  noise.writeErrorChance.any fun n => (Binary64.ofRatio n 1).isInfinite

def writeFault (noise : NoiseSettings) : Option Fault :=
  if noise.chanceTooLarge then some .integerTooLarge else none

theorem ofRatio_zero_finite : (Binary64.ofRatio 0 1).isInfinite = false := by
  have zero : Binary64.ofRatio 0 1 = Binary64.zero := by simp [Binary64.ofRatio]
  rw [zero]
  decide

theorem writeErrorProbability_large {noise : NoiseSettings} (large : noise.chanceTooLarge = true) :
    noise.writeErrorProbability = .error .integerTooLarge := by
  obtain ⟨n, chance, infinite⟩ := (Option.any_eq_true _ _).mp large
  have some : n ≠ 0 := by
    rintro rfl
    rw [ofRatio_zero_finite] at infinite
    cases infinite
  unfold writeErrorProbability
  rw [chance]
  split
  · next none => cases none
  · next zero => exact absurd (Option.some.inj zero) some
  · next m same =>
      cases Option.some.inj same
      rw [if_pos infinite]

theorem writeErrorProbability_small {noise : NoiseSettings} (small : noise.chanceTooLarge = false) :
    ∃ p, noise.writeErrorProbability = .ok p := by
  unfold writeErrorProbability
  split
  · exact ⟨none, rfl⟩
  · exact ⟨none, rfl⟩
  · next n _ chance =>
      have finite : (Binary64.ofRatio n 1).isInfinite = false := by
        simpa [chanceTooLarge, chance] using small
      simp only [finite]
      exact ⟨_, rfl⟩

end NoiseSettings

theorem replaceHits_length (values : List UInt8) (hits : List Bool) (bytes : List UInt8) :
    (replaceHits values hits bytes).length = values.length := by
  fun_induction replaceHits values hits bytes <;> simp_all

theorem squareSide_of_oddSquare {length : Nat} (square : OddSquare length) :
    ∃ side, squareSide length = .ok side := by
  obtain ⟨side, odd, most, length⟩ := square
  exact ⟨side, squareSide_eq_ok_iff.mpr ⟨odd, most, length⟩⟩

namespace Organism
variable {o : Organism}

theorem beginDelay_fault? (alive : o.phase ≠ .dead) (cycles : Int) :
    (o.beginDelay cycles).fault? = none := by
  unfold beginDelay setPhase
  split
  · rfl
  · have lasting : o.phase.isTerminal = false := by
      cases phase : o.phase <;> simp_all [Phase.isTerminal]
    simp [Phase.allows_eq, lasting]

end Organism

namespace Habitat

theorem corrupt_fault? (noise : NoiseSettings) (h : Habitat) (values : List UInt8) :
    (h.corrupt noise values).fault? = noise.writeFault := by
  unfold corrupt NoiseSettings.writeFault
  cases large : noise.chanceTooLarge with
  | true => simp [NoiseSettings.writeErrorProbability_large large]
  | false =>
      obtain ⟨p, given⟩ := NoiseSettings.writeErrorProbability_small large
      rw [given]
      cases p with
      | none => rfl
      | some p =>
          dsimp only
          split
          · rfl
          · split <;> rfl

theorem corrupt_length (noise : NoiseSettings) (h : Habitat) (values : List UInt8) :
    (h.corrupt noise values).Ensures (fun _ => True)
      fun landed => landed.length = values.length := by
  unfold corrupt
  split
  · exact .fail _ trivial
  · exact .done trivial rfl
  · split
    · exact .done trivial rfl
    · dsimp only
      split
      · exact .done trivial rfl
      · refine ⟨trivial, ?_⟩
        rintro _ ⟨⟩
        exact replaceHits_length _ _ _

theorem write_fault? (noise : NoiseSettings) (h : Habitat) (p : Point) (value : UInt8) :
    (h.write noise p value).fault? = noise.writeFault :=
  (Attempt.fault?_andThen_sure fun _ _ => rfl).trans (corrupt_fault? noise h [value])

theorem writeSquare_fault? (noise : NoiseSettings) (h : Habitat) (center : Point)
    {buffer : List UInt8} (square : OddSquare buffer.length) :
    (h.writeSquare noise center buffer).fault? = noise.writeFault := by
  refine (Attempt.fault?_andThen_sure fun landed answer => ?_).trans (corrupt_fault? noise h buffer)
  have length := (corrupt_length noise h buffer).value landed answer
  obtain ⟨side, found⟩ := squareSide_of_oddSquare (length ▸ square)
  simp [Grid.writeSquare, found]

end Habitat

def Instruction.writes : Instruction → Bool
  | .writeCell _ => true
  | .paste => true
  | _ => false

namespace Scene
variable {width height : Nat} {s : Scene}

theorem delay_fault? (alive : s.organism.phase ≠ .dead) (cycles : Int) :
    (s.delay cycles).fault? = none := by
  simp [delay, Organism.beginDelay_fault? alive]

theorem act_fault? (sound : s.Sound width height) (rules : Rules) (instruction : Instruction) :
    (s.act rules instruction).fault? =
      if instruction.writes then rules.noise.writeFault else none := by
  have alive := sound.organism.alive
  cases instruction with
  | wait r => exact delay_fault? alive _
  | cursorRun direction r =>
      have moved := (sound.become (sound.here.moveCursor direction (s.organism.register r)))
      simp only [act]
      split
      · exact delay_fault? moved.organism.alive _
      · rfl
  | writeCell r => simp [act, Instruction.writes, Habitat.write_fault?]
  | copy =>
      -- A cursor on the torus has its square read, whatever the radius.
      simp only [act, copy, Grid.readSquare_of_clear
        (Grid.clearSquare_of_within sound.here.cursor s.organism.radius)]
      rfl
  | paste =>
      have square := sound.organism.clipboard
      obtain ⟨side, found⟩ := squareSide_of_oddSquare square
      refine (Attempt.fault?_andThen_sure fun _ _ => ?_).trans
        (Habitat.writeSquare_fault? rules.noise s.habitat s.organism.cursor square)
      -- The clipboard is what it was before the square was written.
      dsimp only [Attempt.inside_state]
      split
      · simp only [Organism.clipboardSide, found]
        exact delay_fault? alive _
      · rfl
  | _ => rfl

theorem fork_fault? (s : Scene) (kind : ForkKind) : (s.fork kind).fault? = none := by
  cases kind <;> simp only [fork] <;> split <;> rfl

theorem run_fault? (sound : s.Sound width height) (rules : Rules) (advance : Bool)
    (instruction : Option Instruction) :
    (s.run rules advance instruction).fault? =
      if instruction.any Instruction.writes then rules.noise.writeFault else none := by
  unfold run
  rw [Attempt.fault?_andThen_sure]
  · cases instruction with
    | none => rfl
    | some instruction => exact act_fault? sound rules instruction
  · intro outcome _
    cases outcome with
    | halt => rfl
    | proceed => rfl
    | fork kind => exact fork_fault? _ kind

theorem execute_fault? (sound : s.Sound width height) (rules : Rules) :
    (s.execute rules).fault? =
      if (Instruction.ofByte? (s.habitat.grid.read s.organism.ip)).any Instruction.writes then
        rules.noise.writeFault
      else none :=
  run_fault? sound rules true _

end Scene
end Terrarium
