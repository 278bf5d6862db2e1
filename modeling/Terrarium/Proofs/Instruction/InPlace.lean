import Terrarium.Proofs.Instruction.Standing

/-!
Instructions run in place. The work of an instruction leaves the instruction pointer where it is,
so without the step to the next one the pointer does not move at all. An instruction asks for a halt
in two cases only, and write errors are never taken back.
-/

namespace Terrarium

namespace Organism

section Pointers
variable (o : Organism) (g : Grid)

@[simp] theorem ip_setRegister (r : Register) (value : Int) : (o.setRegister r value).ip = o.ip := by
  cases r <;> rfl

@[simp] theorem ip_setRadius (radius : Int) : (o.setRadius radius).ip = o.ip := by
  unfold setRadius
  split <;> rfl

@[simp] theorem ip_tryMoveCursor (target : Point) : (o.tryMoveCursor g target).1.ip = o.ip := by
  unfold tryMoveCursor
  split <;> rfl

theorem ip_walkCursor (direction : Direction) (left taken : Nat) :
    (walkCursor g direction left taken o).1.ip = o.ip := by
  induction left generalizing taken o with
  | zero => rfl
  | succ left ih =>
      have moved := o.ip_tryMoveCursor g (g.step o.cursor direction 1)
      simp only [walkCursor]
      split
      · next stepped => rw [ih, ← moved, stepped]
      · next stopped => rw [← moved, stopped]

@[simp] theorem ip_moveCursor (direction : Direction) (steps : Int) :
    (o.moveCursor g direction steps).1.ip = o.ip :=
  ip_walkCursor o g direction _ _

theorem ip_act (instruction : Instruction) : (o.act g instruction).ip = o.ip := by
  cases instruction with
  | turnIf direction =>
      simp only [act]
      split <;> rfl
  | calculate target operation => exact ip_setRegister o target _
  | flagTo r => exact ip_setRegister o r _
  | cursorStep direction => exact ip_tryMoveCursor o g _
  | cursorHome => exact ip_tryMoveCursor o g _
  | radiusFrom r => exact ip_setRadius o _
  | radiusTo r => exact ip_setRegister o r _
  | radiusGrow => exact ip_setRadius o _
  | radiusShrink => exact ip_setRadius o _
  | readCell r => exact ip_setRegister o r _
  | _ => rfl

theorem ip_beginDelay (cycles : Int) : (o.beginDelay cycles).state.ip = o.ip := by
  unfold beginDelay setPhase
  split
  · rfl
  · split <;> rfl

theorem ip_takeChild : o.takeChild.1.ip = o.ip := by
  unfold takeChild
  split
  · rfl
  · split <;> rfl

end Pointers

end Organism

namespace Habitat
open Attempt

theorem corrupt_writeErrors (noise : NoiseSettings) (h : Habitat) (values : List UInt8) :
    h.writeErrors ≤ (h.corrupt noise values).state.writeErrors := by
  obtain ⟨_, _, reached⟩ := corrupt_state noise h values
  rw [reached]
  exact Nat.le_add_right _ _

theorem write_writeErrors (noise : NoiseSettings) (h : Habitat) (p : Point) (value : UInt8) :
    h.writeErrors ≤ (h.write noise p value).state.writeErrors := by
  have corrupted := h.corrupt_writeErrors noise [value]
  unfold write
  cases answer : (h.corrupt noise [value]).answer with
  | error fault =>
      rw [andThen_of_error _ answer]
      exact corrupted
  | ok landed =>
      rw [andThen_of_ok _ answer]
      exact corrupted

theorem writeSquare_writeErrors (noise : NoiseSettings) (h : Habitat) (center : Point)
    (buffer : List UInt8) :
    h.writeErrors ≤ (h.writeSquare noise center buffer).state.writeErrors := by
  have corrupted := h.corrupt_writeErrors noise buffer
  unfold writeSquare
  cases answer : (h.corrupt noise buffer).answer with
  | error fault =>
      rw [andThen_of_error _ answer]
      exact corrupted
  | ok landed =>
      rw [andThen_of_ok _ answer]
      dsimp only
      split <;> exact corrupted

end Habitat

namespace Scene
open Attempt

structure Stays (before after : Scene) : Prop where
  ip : after.organism.ip = before.organism.ip
  writeErrors : before.habitat.writeErrors ≤ after.habitat.writeErrors

namespace Stays
variable {s t u : Scene}

theorem refl (s : Scene) : s.Stays s := ⟨rfl, Nat.le_refl _⟩

theorem trans (first : s.Stays t) (second : t.Stays u) : s.Stays u :=
  ⟨second.ip.trans first.ip, Nat.le_trans first.writeErrors second.writeErrors⟩

theorem of_organism {o : Organism} (same : o.ip = s.organism.ip) : s.Stays { s with organism := o } :=
  ⟨same, Nat.le_refl _⟩

theorem of_habitat {h : Habitat} (more : s.habitat.writeErrors ≤ h.writeErrors) :
    s.Stays { s with habitat := h } :=
  ⟨rfl, more⟩

theorem ensured {α : Type} {attempt : Attempt Scene α} (stays : s.Stays attempt.state) :
    attempt.Ensures s.Stays (fun _ => True) :=
  ⟨stays, fun _ _ => trivial⟩

end Stays

theorem delay_stays (s : Scene) (cycles : Int) : s.Stays (s.delay cycles).state :=
  .of_organism (s.organism.ip_beginDelay cycles)

theorem act_stays (s : Scene) (rules : Rules) (instruction : Instruction) :
    s.Stays (s.act rules instruction).state := by
  cases instruction with
  | halt => exact .refl s
  | haltIf => exact .refl s
  | fork kind => exact .refl s
  | wait r => exact delay_stays s _
  | cursorRun direction r =>
      have moved : s.Stays { s with organism :=
          (s.organism.moveCursor s.habitat.grid direction (s.organism.register r)).1 } :=
        .of_organism (s.organism.ip_moveCursor _ _ _)
      simp only [act]
      split
      · exact moved.trans (delay_stays _ _)
      · exact moved
  | writeCell r => exact .of_habitat (Habitat.write_writeErrors _ _ _ _)
  | copy =>
      simp only [act]
      rcases s.copy_cases with ⟨_, _, copied⟩ | ⟨_, failed⟩
      · rw [copied]
        exact .of_organism rfl
      · rw [failed]
        exact .refl s
  | paste =>
      have written : s.Stays ((s.habitat.writeSquare rules.noise s.organism.cursor
          s.organism.clipboard).inside fun h => ({ s with habitat := h } : Scene)).state :=
        .of_habitat (Habitat.writeSquare_writeErrors _ _ _ _)
      refine (Stays.ensured written).andThen (S := fun _ => True) (fun t _ reached _ => ?_) |>.state
      apply Stays.ensured
      split
      · split
        · exact reached.trans (delay_stays t _)
        · exact reached
      · exact reached
  | _ => exact .of_organism (Organism.ip_act _ _ _)

theorem fork_stays (s : Scene) (kind : ForkKind) : s.Stays (s.fork kind).state := by
  have still : (kind.flagged s.organism).takeChild.1.ip = s.organism.ip := by
    rw [Organism.ip_takeChild]
    cases kind <;> rfl
  rw [(s.fork_eq kind).1]
  exact .of_organism still

/-- Without the step to the next instruction the pointer stays where it is. -/
theorem run_stays (s : Scene) (rules : Rules) (instruction : Option Instruction) :
    s.Stays (s.run rules false instruction).state := by
  have still (t : Scene) : t.moveOn false = t := rfl
  unfold run
  cases instruction with
  | none => exact .refl s
  | some instruction =>
      have acted := Stays.ensured (act_stays s rules instruction)
      refine acted.andThen (S := fun _ => True) (fun t outcome reached _ => ?_) |>.state
      apply Stays.ensured
      cases outcome with
      | halt => exact reached
      | proceed => exact reached
      | fork kind =>
          rw [still]
          exact reached.trans (fork_stays t kind)

theorem delay_proceeds (s : Scene) (cycles : Int) : (s.delay cycles).answer ≠ .ok .halt := by
  simp only [delay, map_answer, inside_answer]
  cases (s.organism.beginDelay cycles).answer <;> simp [Except.map]

theorem act_halts_iff (s : Scene) (rules : Rules) (instruction : Instruction) :
    (s.act rules instruction).answer = .ok .halt ↔
      instruction = .halt ∨ instruction = .haltIf ∧ s.organism.flag = true := by
  cases instruction with
  | halt => simp [act]
  | haltIf => cases flag : s.organism.flag <;> simp [act, flag]
  | fork kind => simp [act]
  | wait r => simp [act, delay_proceeds]
  | cursorRun direction r =>
      simp only [act]
      split <;> simp [delay_proceeds]
  | writeCell r =>
      simp only [act, map_answer]
      cases ((s.habitat.write rules.noise s.organism.cursor
          (lowByte (s.organism.register r))).inside fun h => ({ s with habitat := h } : Scene)).answer
        <;> simp [Except.map]
  | copy =>
      simp only [act]
      rcases s.copy_cases with ⟨_, _, copied⟩ | ⟨_, failed⟩
      · simp [copied]
      · simp [failed]
  | paste =>
      refine iff_of_false ?_ (by simp)
      intro answer
      obtain ⟨_, _, last⟩ := andThen_ok answer
      split at last
      · split at last
        · exact delay_proceeds _ _ last
        · cases last
      · cases last
  | _ => simp [act]

theorem fork_proceeds (s : Scene) (kind : ForkKind) : (s.fork kind).answer ≠ .ok .halt := by
  rw [(s.fork_eq kind).2]
  split <;> simp

theorem run_halts_iff (s : Scene) (rules : Rules) (advance : Bool) (instruction : Instruction) :
    (s.run rules advance (some instruction)).answer = .ok .halt ↔
      instruction = .halt ∨ instruction = .haltIf ∧ s.organism.flag = true := by
  rw [← act_halts_iff s rules instruction]
  simp only [run]
  cases acted : (s.act rules instruction).answer with
  | error fault => simp [andThen_of_error _ acted]
  | ok outcome =>
      rw [andThen_of_ok _ acted]
      cases outcome with
      | halt => simp
      | proceed => simp
      | fork kind => simp [fork_proceeds]

end Scene
end Terrarium
