import Terrarium.Proofs.Instruction.Standing
import Terrarium.Proofs.Organism.Soundness

/-!
Every instruction keeps its organism sound and its habitat in shape, whether it comes to its end
or fails on the way, and a child it asks for is as sound as its parent.
-/

namespace Terrarium

namespace Habitat

def Shaped (width height : Nat) (h : Habitat) : Prop :=
  h.grid.width = width ∧ h.grid.height = height

variable {width height : Nat} {h : Habitat}

theorem Shaped.write (shaped : h.Shaped width height) (p : Point) (value : UInt8) :
    ({ h with grid := h.grid.write p value } : Habitat).Shaped width height := shaped

theorem corrupt_grid (noise : NoiseSettings) (h : Habitat) (values : List UInt8) :
    (h.corrupt noise values).state.grid = h.grid := by
  obtain ⟨_, _, reached⟩ := corrupt_state noise h values
  rw [reached]

theorem Shaped.corrupt (shaped : h.Shaped width height) (noise : NoiseSettings)
    (values : List UInt8) :
    (h.corrupt noise values).Ensures (Habitat.Shaped width height) (fun _ => True) :=
  ⟨by rw [Habitat.Shaped, corrupt_grid]; exact shaped, fun _ _ => trivial⟩

theorem write_shaped (shaped : h.Shaped width height) (noise : NoiseSettings) (p : Point)
    (value : UInt8) :
    (h.write noise p value).Ensures (Habitat.Shaped width height) (fun _ => True) := by
  apply Attempt.Ensures.andThen (shaped.corrupt noise [value])
  intro h landed shaped _
  exact .done (shaped.write p _) trivial

theorem writeSquare_shaped (shaped : h.Shaped width height) (noise : NoiseSettings)
    (center : Point) (buffer : List UInt8) :
    (h.writeSquare noise center buffer).Ensures (Habitat.Shaped width height) (fun _ => True) := by
  apply Attempt.Ensures.andThen (shaped.corrupt noise buffer)
  intro h landed shaped _
  split
  · next grid written =>
      obtain ⟨wide, high⟩ := Grid.writeSquare_shape written
      exact .done ⟨wide.trans shaped.1, high.trans shaped.2⟩ trivial
  · exact .fail _ shaped

theorem strikeCount_grid (noise : NoiseSettings) (h : Habitat) :
    (h.strikeCount noise).state.grid = h.grid := by
  unfold strikeCount
  by_cases silent : noise.cosmicRayRate.isZero = true
  · simp only [silent, if_true, Attempt.done_state]
  · simp only [silent, if_false, Bool.false_eq_true]
    cases noise.cosmicRayMode with
    | poisson =>
        simp only
        split
        · rw [Attempt.fail_state]
        · rw [Attempt.done_state]
    | expected =>
        simp only
        split
        · rw [Attempt.fail_state]
        · split
          · rw [Attempt.done_state]
          · rw [Attempt.done_state]

theorem strikeTimes_shaped (count : Nat) (shaped : h.Shaped width height) :
    (strikeTimes count h).Shaped width height := by
  induction count generalizing h with
  | zero => exact shaped
  | succ count ih => exact ih (h := h.strike) shaped

theorem cosmicRays_shaped (shaped : h.Shaped width height) (noise : NoiseSettings) :
    (h.cosmicRays noise).Ensures (Habitat.Shaped width height) (fun _ => True) := by
  have counted : (h.strikeCount noise).Ensures (Habitat.Shaped width height) (fun _ => True) :=
    ⟨by rw [Habitat.Shaped, strikeCount_grid]; exact shaped, fun _ _ => trivial⟩
  apply Attempt.Ensures.andThen counted
  intro h count shaped _
  exact ⟨strikeTimes_shaped count shaped, fun _ _ => trivial⟩

end Habitat

def Effect.Sound (width height : Nat) : Effect → Prop
  | .spawn child => child.Sound width height
  | _ => True

namespace Scene

structure Sound (width height : Nat) (s : Scene) : Prop where
  shaped : s.habitat.Shaped width height
  organism : s.organism.Sound width height

variable {width height : Nat} {s : Scene}

theorem Sound.here (sound : s.Sound width height) :
    s.organism.Sound s.habitat.grid.width s.habitat.grid.height := by
  obtain ⟨⟨wide, high⟩, organism⟩ := sound
  rw [wide, high]
  exact organism

theorem Sound.become (sound : s.Sound width height) {o : Organism}
    (good : o.Sound s.habitat.grid.width s.habitat.grid.height) :
    ({ s with organism := o } : Scene).Sound width height := by
  obtain ⟨wide, high⟩ := sound.shaped
  rw [wide, high] at good
  exact { sound with organism := good }

theorem Sound.restored {earlier : Scene} (sound : s.Sound width height)
    (before : earlier.Sound width height) :
    ({ s with organism := { s.organism with
        delay := earlier.organism.delay
        phase := earlier.organism.phase } } : Scene).Sound width height :=
  { sound with organism := sound.organism.restored before.organism }

theorem delay_sound (sound : s.Sound width height) (cycles : Int) :
    (s.delay cycles).Ensures (Scene.Sound width height) (fun _ => True) := by
  have begun : ((s.organism.beginDelay cycles).inside fun o => { s with organism := o }).Ensures
      (Scene.Sound width height) (fun _ => True) :=
    .inside (sound.organism.beginDelay cycles) fun o good => { sound with organism := good }
  exact begun.map fun _ _ => trivial

theorem act_sound (sound : s.Sound width height) (rules : Rules) (instruction : Instruction) :
    (s.act rules instruction).Ensures (Scene.Sound width height) (fun _ => True) := by
  -- An instruction that writes leaves its organism alone until the write is done.
  have habitual (h : Habitat) (shaped : h.Shaped width height) :
      ({ s with habitat := h } : Scene).Sound width height := { sound with shaped := shaped }
  cases instruction with
  | halt => exact .done sound trivial
  | haltIf => exact .done sound trivial
  | fork kind => exact .done sound trivial
  | wait r => exact delay_sound sound _
  | cursorRun direction r =>
      have moved := sound.become (sound.here.moveCursor direction (s.organism.register r))
      simp only [act]
      split
      · exact delay_sound moved _
      · exact .done moved trivial
  | writeCell r =>
      have written := Habitat.write_shaped sound.shaped rules.noise s.organism.cursor
        (lowByte (s.organism.register r))
      exact .map (.inside written habitual) fun _ _ => trivial
  | copy =>
      simp only [act]
      rcases s.copy_cases with ⟨clipboard, read, copied⟩ | ⟨fault, failed⟩
      · rw [copied]
        exact .done (sound.become (sound.here.copied read)) trivial
      · rw [failed]
        exact .fail _ sound
  | paste =>
      have written := Habitat.writeSquare_shaped sound.shaped rules.noise s.organism.cursor
        s.organism.clipboard
      apply Attempt.Ensures.andThen (.inside written habitual)
      intro s _ sound _
      split
      · split
        · exact delay_sound sound _
        · exact .fail _ sound
      · exact .done sound trivial
  | _ => exact .done (sound.become (sound.here.act _)) trivial

theorem moveOn_sound (sound : s.Sound width height) (advance : Bool) :
    (s.moveOn advance).Sound width height := by
  unfold moveOn
  split
  · exact sound.become sound.here.advance
  · exact sound

theorem fork_sound (sound : s.Sound width height) (kind : ForkKind) :
    (s.fork kind).Ensures (Scene.Sound width height) (Effect.Sound width height) := by
  cases kind with
  | flag =>
      have taken := (sound.organism.flagged true).takeChild
      simp only [fork]
      split
      · next left suppressed =>
          rw [suppressed] at taken
          exact ⟨{ sound with organism := taken }, fun _ answer => by cases answer; trivial⟩
      · next left granted =>
          rw [granted] at taken
          exact .done { sound with organism := taken } (taken.flagged false)
  | cursor =>
      have taken := sound.organism.takeChild
      simp only [fork]
      split
      · next left suppressed =>
          rw [suppressed] at taken
          exact ⟨{ sound with organism := taken }, fun _ answer => by cases answer; trivial⟩
      · next left granted =>
          rw [granted] at taken
          exact .done { sound with organism := taken } (taken.movedTo taken.cursor)

theorem run_sound (sound : s.Sound width height) (rules : Rules) (advance : Bool)
    (instruction : Option Instruction) :
    (s.run rules advance instruction).Ensures (Scene.Sound width height)
      (Effect.Sound width height) := by
  refine Attempt.Ensures.andThen (Q := fun _ => True) ?_ ?_
  · cases instruction with
    | none => exact .done sound trivial
    | some instruction => exact act_sound sound rules instruction
  · intro s outcome sound _
    cases outcome with
    | halt => exact .done sound trivial
    | proceed => exact .done (moveOn_sound sound advance) trivial
    | fork kind => exact fork_sound (moveOn_sound sound advance) kind

theorem execute_sound (sound : s.Sound width height) (rules : Rules) :
    (s.execute rules).Ensures (Scene.Sound width height) (Effect.Sound width height) :=
  run_sound sound rules true _

end Scene
end Terrarium
