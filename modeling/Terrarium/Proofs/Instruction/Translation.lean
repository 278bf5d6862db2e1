import Terrarium.Proofs.Instruction.Soundness
import Terrarium.Proofs.Torus.Translation

/-!
An organism and its habitat carried along by a translation. Whatever an instruction does, it
does to the carried scene as to the scene itself, noise included, since noise never looks at
places.
-/

namespace Terrarium.Translation
variable {t : Translation} {g : Grid}

def organism (t : Translation) (o : Organism) : Organism :=
  { o with ip := t.point o.ip, cursor := t.point o.cursor }

def habitat (t : Translation) (h : Habitat) : Habitat := { h with grid := t.grid h.grid }

def scene (t : Translation) (s : Scene) : Scene := ⟨t.organism s.organism, t.habitat s.habitat⟩

def effect (t : Translation) : Effect → Effect
  | .spawn child => .spawn (t.organism child)
  | .proceed => .proceed
  | .halt => .halt

section Fields
variable (o : Organism)

@[simp] theorem ip_organism : (t.organism o).ip = t.point o.ip := rfl

@[simp] theorem cursor_organism : (t.organism o).cursor = t.point o.cursor := rfl

@[simp] theorem direction_organism : (t.organism o).direction = o.direction := rfl

@[simp] theorem flag_organism : (t.organism o).flag = o.flag := rfl

@[simp] theorem radius_organism : (t.organism o).radius = o.radius := rfl

@[simp] theorem clipboard_organism : (t.organism o).clipboard = o.clipboard := rfl

@[simp] theorem lifespan_organism : (t.organism o).lifespan = o.lifespan := rfl

@[simp] theorem children_organism : (t.organism o).children = o.children := rfl

@[simp] theorem delay_organism : (t.organism o).delay = o.delay := rfl

@[simp] theorem phase_organism : (t.organism o).phase = o.phase := rfl

end Fields

@[simp] theorem register_organism (o : Organism) (r : Register) :
    (t.organism o).register r = o.register r := by
  cases r <;> rfl

@[simp] theorem setRegister_organism (o : Organism) (r : Register) (value : Int) :
    (t.organism o).setRegister r value = t.organism (o.setRegister r value) := by
  cases r <;> rfl

@[simp] theorem setRadius_organism (o : Organism) (radius : Int) :
    (t.organism o).setRadius radius = t.organism (o.setRadius radius) := by
  unfold Organism.setRadius
  split <;> rfl

@[simp] theorem calculate_organism (o : Organism) (target : Register) (operation : Calculation) :
    (t.organism o).calculate target operation = t.organism (o.calculate target operation) := by
  simp only [Organism.calculate, register_organism, setRegister_organism]

@[simp] theorem holds_organism (o : Organism) (condition : Condition) :
    condition.holds (t.organism o) = condition.holds o := by
  cases condition with
  | zero r => simp only [Condition.holds, register_organism]
  | nonzero r => simp only [Condition.holds, register_organism]
  | _ => rfl

theorem setPhase_organism (o : Organism) (next : Phase) :
    (t.organism o).setPhase next = (o.setPhase next).inside t.organism := by
  unfold Organism.setPhase
  rw [phase_organism]
  split <;> rfl

theorem beginDelay_organism (o : Organism) (cycles : Int) :
    (t.organism o).beginDelay cycles = (o.beginDelay cycles).inside t.organism := by
  unfold Organism.beginDelay
  split
  · rfl
  · exact setPhase_organism { o with delay := cycles } .delaying

theorem advance_organism (fits : t.Fits g) (o : Organism) :
    (t.organism o).advance (t.grid g) = t.organism (o.advance g) := by
  simp only [Organism.advance, ip_organism, direction_organism, step_point fits]
  rfl

theorem tickDelay_organism (fits : t.Fits g) (o : Organism) :
    (t.organism o).tickDelay (t.grid g) = (o.tickDelay g).inside t.organism := by
  have counted : (if 0 < (t.organism o).delay
      then { t.organism o with delay := (t.organism o).delay - 1 } else t.organism o) =
      t.organism (if 0 < o.delay then { o with delay := o.delay - 1 } else o) := by
    rw [delay_organism]
    split <;> rfl
  unfold Organism.tickDelay
  simp only [counted]
  -- From here on it does not matter how the delay was counted down.
  generalize (if 0 < o.delay then { o with delay := o.delay - 1 } else o) = left
  rw [delay_organism]
  split
  · rw [advance_organism fits, setPhase_organism]
    rfl
  · rfl

theorem tryMoveCursor_organism (fits : t.Fits g) (o : Organism) (target : Point) :
    (t.organism o).tryMoveCursor (t.grid g) (t.point target) =
      (t.organism (o.tryMoveCursor g target).1, (o.tryMoveCursor g target).2) := by
  simp only [Organism.tryMoveCursor, read_point fits]
  split <;> rfl

theorem walkCursor_organism (fits : t.Fits g) (direction : Direction) (left taken : Nat)
    (o : Organism) :
    Organism.walkCursor (t.grid g) direction left taken (t.organism o) =
      (t.organism (Organism.walkCursor g direction left taken o).1,
        (Organism.walkCursor g direction left taken o).2) := by
  induction left generalizing taken o with
  | zero => rfl
  | succ left ih =>
      simp only [Organism.walkCursor, cursor_organism, step_point fits, tryMoveCursor_organism fits]
      cases stepped : o.tryMoveCursor g (g.step o.cursor direction 1) with
      | mk moved free =>
          cases free with
          | true => exact ih (taken + 1) moved
          | false => rfl

theorem moveCursor_organism (fits : t.Fits g) (o : Organism) (direction : Direction) (steps : Int) :
    (t.organism o).moveCursor (t.grid g) direction steps =
      (t.organism (o.moveCursor g direction steps).1, (o.moveCursor g direction steps).2) :=
  walkCursor_organism fits direction _ _ o

theorem act_organism (fits : t.Fits g) (o : Organism) (instruction : Instruction) :
    (t.organism o).act (t.grid g) instruction = t.organism (o.act g instruction) := by
  cases instruction with
  | calculate target operation => exact calculate_organism o target operation
  | turnIf direction =>
      show (if o.flag = true then ({ t.organism o with direction := direction } : Organism)
        else t.organism o) =
          t.organism (if o.flag = true then { o with direction := direction } else o)
      split <;> rfl
  | test condition =>
      simp only [Organism.act, holds_organism]
      rfl
  | flagTo r => exact setRegister_organism o r _
  | cursorStep direction =>
      simp only [Organism.act, cursor_organism, step_point fits, tryMoveCursor_organism fits]
  | cursorHome =>
      simp only [Organism.act, ip_organism, tryMoveCursor_organism fits]
  | radiusFrom r =>
      simp only [Organism.act, register_organism, setRadius_organism]
  | radiusTo r => exact setRegister_organism o r _
  | radiusGrow => exact setRadius_organism o _
  | radiusShrink => exact setRadius_organism o _
  | readCell r =>
      simp only [Organism.act, cursor_organism, read_point fits, setRegister_organism]
  | _ => rfl

theorem corrupt_habitat (noise : NoiseSettings) (h : Habitat) (values : List UInt8) :
    (t.habitat h).corrupt noise values = (h.corrupt noise values).inside t.habitat := by
  unfold Habitat.corrupt
  split
  · rfl
  · rfl
  · split
    · rfl
    · dsimp only [habitat]
      split <;> rfl

theorem fits_of_shaped {h : Habitat} (shaped : h.Shaped t.width t.height) : t.Fits h.grid :=
  ⟨shaped.1, shaped.2⟩

theorem write_habitat {h : Habitat} (shaped : h.Shaped t.width t.height) (noise : NoiseSettings)
    (p : Point) (value : UInt8) :
    (t.habitat h).write noise (t.point p) value = (h.write noise p value).inside t.habitat := by
  unfold Habitat.write
  rw [corrupt_habitat]
  apply Attempt.inside_andThen
  intro landed _
  have fits := fits_of_shaped (shaped.corrupt noise [value]).state
  have written := write_point fits p (landed.headD value)
  simp only [habitat, written]
  rfl

theorem writeSquare_habitat {h : Habitat} (shaped : h.Shaped t.width t.height) (noise : NoiseSettings)
    (center : Point) (buffer : List UInt8) :
    (t.habitat h).writeSquare noise (t.point center) buffer =
      (h.writeSquare noise center buffer).inside t.habitat := by
  unfold Habitat.writeSquare
  rw [corrupt_habitat]
  apply Attempt.inside_andThen
  intro landed _
  have fits := fits_of_shaped (shaped.corrupt noise buffer).state
  have written := writeSquare_point fits center landed
  simp only [habitat, written]
  cases (h.corrupt noise buffer).state.grid.writeSquare center landed <;> rfl

theorem cosmicRays_habitat {noise : NoiseSettings} (quiet : noise.cosmicRayRate.isZero = true)
    (h : Habitat) : (t.habitat h).cosmicRays noise = (h.cosmicRays noise).inside t.habitat := by
  simp only [Habitat.cosmicRays, Habitat.strikeCount, quiet, if_true, Attempt.done_andThen]
  rfl

theorem delay_scene (s : Scene) (cycles : Int) :
    (t.scene s).delay cycles = (s.delay cycles).inside t.scene := by
  have begun : (t.scene s).organism.beginDelay cycles =
      (s.organism.beginDelay cycles).inside t.organism := beginDelay_organism s.organism cycles
  unfold Scene.delay
  rw [begun]
  rfl

theorem act_scene {s : Scene} (sound : s.Sound t.width t.height) (rules : Rules)
    (instruction : Instruction) :
    (t.scene s).act rules instruction = (s.act rules instruction).inside t.scene := by
  have shaped := sound.shaped
  have fits := fits_of_shaped shaped
  cases instruction with
  | halt => rfl
  | haltIf => rfl
  | fork kind => rfl
  | wait r =>
      simp only [Scene.act]
      rw [delay_scene]
      simp only [scene, register_organism]
  | cursorRun direction r =>
      have walked : (t.scene s).organism.moveCursor (t.scene s).habitat.grid direction
          ((t.scene s).organism.register r) =
          (t.organism (s.organism.moveCursor s.habitat.grid direction (s.organism.register r)).1,
            (s.organism.moveCursor s.habitat.grid direction (s.organism.register r)).2) := by
        simp only [scene, register_organism]
        exact moveCursor_organism fits s.organism direction _
      simp only [Scene.act, walked]
      split
      · exact delay_scene { s with organism := _ } _
      · rfl
  | writeCell r =>
      have written := write_habitat shaped rules.noise s.organism.cursor
        (lowByte (s.organism.register r))
      simp only [Scene.act, scene, register_organism, cursor_organism, written]
      rfl
  | copy =>
      have read := readSquare_point fits sound.here.cursor s.organism.radius
      simp only [Scene.act, Scene.copy, scene, cursor_organism, radius_organism]
      simp only [habitat, read]
      split <;> rfl
  | paste =>
      have written := writeSquare_habitat shaped rules.noise s.organism.cursor s.organism.clipboard
      have placed : (((t.scene s).habitat.writeSquare rules.noise (t.scene s).organism.cursor
          (t.scene s).organism.clipboard).inside fun h => { t.scene s with habitat := h }) =
          ((s.habitat.writeSquare rules.noise s.organism.cursor s.organism.clipboard).inside
            fun h => { s with habitat := h }).inside t.scene := by
        simp only [scene, cursor_organism, clipboard_organism, written]
        rfl
      have side : (t.scene s).organism.clipboardSide = s.organism.clipboardSide := rfl
      simp only [Scene.act, placed, side]
      apply Attempt.inside_andThen
      intro _ _
      split
      · split
        · exact delay_scene _ _
        · rfl
      · rfl
  | _ =>
      -- The rest leave the habitat as it is.
      exact congrArg (fun o => Attempt.done (⟨o, t.habitat s.habitat⟩ : Scene) Outcome.proceed)
        (act_organism fits s.organism _)

theorem moveOn_scene {s : Scene} (fits : t.Fits s.habitat.grid) (advance : Bool) :
    (t.scene s).moveOn advance = t.scene (s.moveOn advance) := by
  have same : (t.scene s).organism.isDelaying = s.organism.isDelaying := rfl
  have stepped : (t.scene s).organism.advance (t.scene s).habitat.grid =
      t.organism (s.organism.advance s.habitat.grid) := advance_organism fits s.organism
  unfold Scene.moveOn
  rw [same, stepped]
  split <;> rfl

theorem takeChild_organism (o : Organism) :
    (t.organism o).takeChild = (t.organism o.takeChild.1, o.takeChild.2) := by
  unfold Organism.takeChild
  rw [children_organism]
  split
  · rfl
  · split <;> rfl

/-- What is told of a fork names the place, so only what it does is the same. -/
theorem fork_scene (s : Scene) (kind : ForkKind) :
    (s.fork kind).InStep (Attempt.Image t.scene)
      (Attempt.Image t.effect) ((t.scene s).fork kind) := by
  cases kind with
  | flag =>
      have taken : ({ t.organism s.organism with flag := true } : Organism).takeChild =
          (t.organism ({ s.organism with flag := true } : Organism).takeChild.1,
            ({ s.organism with flag := true } : Organism).takeChild.2) :=
        takeChild_organism { s.organism with flag := true }
      simp only [Scene.fork, scene, taken]
      cases ({ s.organism with flag := true } : Organism).takeChild with
      | mk parent granted =>
          cases granted with
          | true => exact .done rfl rfl
          | false => exact ⟨rfl, .ok rfl, rfl⟩
  | cursor =>
      simp only [Scene.fork, scene, takeChild_organism]
      cases s.organism.takeChild with
      | mk parent granted =>
          cases granted with
          | true => exact .done rfl rfl
          | false => exact ⟨rfl, .ok rfl, rfl⟩

theorem run_scene {s : Scene} (sound : s.Sound t.width t.height) (rules : Rules) (advance : Bool)
    (instruction : Option Instruction) :
    (s.run rules advance instruction).InStep (Attempt.Image t.scene)
      (Attempt.Image t.effect) ((t.scene s).run rules advance instruction) := by
  refine Attempt.InStep.andThen_kept (P := Scene.Sound t.width t.height) (V := fun _ => True)
    (Q := Eq) ?_ ?_ ?_
  · cases instruction with
    | none => exact .done sound trivial
    | some instruction => exact Scene.act_sound sound rules instruction
  · cases instruction with
    | none => exact .done rfl rfl
    | some instruction =>
        simp only [act_scene sound]
        exact .image t.scene _
  · rintro s outcome _ sound rfl
    have moved := moveOn_scene (fits_of_shaped sound.shaped) advance
    cases outcome with
    | halt => exact .done rfl rfl
    | proceed => exact .done moved rfl
    | fork kind =>
        simp only [moved]
        exact fork_scene _ kind

theorem execute_scene {s : Scene} (sound : s.Sound t.width t.height) (rules : Rules) :
    (s.execute rules).InStep (Attempt.Image t.scene)
      (Attempt.Image t.effect) ((t.scene s).execute rules) := by
  have here : (t.scene s).habitat.grid.read (t.scene s).organism.ip =
      s.habitat.grid.read s.organism.ip := read_point (fits_of_shaped sound.shaped) _
  unfold Scene.execute
  rw [here]
  exact run_scene sound rules true _

end Terrarium.Translation
