import Terrarium.Proofs.Attempt
import Terrarium.Proofs.Torus.Reading
import Terrarium.Instruction.Execution

/-!
A sound organism has its registers in a byte, its radius and clipboard in bounds, its pointer
and cursor on the torus, and something left of every budget that is limited. Whatever an
organism does by itself on a grid of its shape keeps it sound.
-/

namespace Terrarium

def OddSquare (length : Nat) : Prop :=
  ∃ side, side % 2 = 1 ∧ side ≤ maxSide ∧ length = side * side

namespace Organism

structure Sound (width height : Nat) (o : Organism) : Prop where
  register : ∀ r, 0 ≤ o.register r ∧ o.register r ≤ 255
  radius : 0 ≤ o.radius ∧ o.radius ≤ maxRadius
  clipboard : OddSquare o.clipboard.length
  ip : o.ip.Within width height
  cursor : o.cursor.Within width height
  lifespan : ∀ cycles, o.lifespan = some cycles → 1 ≤ cycles
  children : ∀ count, o.children = some count → 0 ≤ count
  delay : 0 ≤ o.delay
  alive : o.phase ≠ .dead

namespace Sound
variable {width height : Nat} {o : Organism}

theorem ax (sound : o.Sound width height) : 0 ≤ o.ax ∧ o.ax ≤ 255 := sound.register .a

theorem bx (sound : o.Sound width height) : 0 ≤ o.bx ∧ o.bx ≤ 255 := sound.register .b

theorem setRegister (sound : o.Sound width height) (r : Register) {value : Int}
    (inside : 0 ≤ value ∧ value ≤ 255) : (o.setRegister r value).Sound width height := by
  cases r with
  | a =>
      refine { sound with register := fun other => ?_ }
      cases other with
      | a => exact inside
      | b => exact sound.bx
  | b =>
      refine { sound with register := fun other => ?_ }
      cases other with
      | a => exact sound.ax
      | b => exact inside

theorem setRadius (sound : o.Sound width height) (radius : Int) :
    (o.setRadius radius).Sound width height := by
  unfold Organism.setRadius
  split
  · next inside => exact { sound with radius := inside }
  · exact sound

theorem turned (sound : o.Sound width height) (direction : Direction) :
    ({ o with direction := direction } : Organism).Sound width height := { sound with }

theorem flagged (sound : o.Sound width height) (flag : Bool) :
    ({ o with flag := flag } : Organism).Sound width height := { sound with }

theorem movedTo (sound : o.Sound width height) {ip : Point} (inside : ip.Within width height) :
    ({ o with ip := ip } : Organism).Sound width height := { sound with ip := inside }

theorem restored {p : Organism} (sound : o.Sound width height) (earlier : p.Sound width height) :
    ({ o with delay := p.delay, phase := p.phase } : Organism).Sound width height :=
  { sound with delay := earlier.delay, alive := earlier.alive }

theorem takeChild (sound : o.Sound width height) : o.takeChild.1.Sound width height := by
  unfold Organism.takeChild
  cases budget : o.children with
  | none => exact sound
  | some left =>
      by_cases none : left = 0
      · simpa [none] using sound
      · have nonneg := sound.children left budget
        simp only [none, ↓reduceIte]
        refine { sound with children := ?_ }
        intro count rest
        cases rest
        omega

theorem tickLifespan (sound : o.Sound width height) (lasting : o.tickLifespan.2 = false) :
    o.tickLifespan.1.Sound width height := by
  unfold Organism.tickLifespan at lasting ⊢
  cases budget : o.lifespan with
  | none => exact sound
  | some left =>
      simp only [budget, decide_eq_false_iff_not] at lasting
      refine { sound with lifespan := ?_ }
      intro cycles rest
      cases rest
      omega

variable {g : Grid}

theorem advance (sound : o.Sound g.width g.height) : (o.advance g).Sound g.width g.height :=
  sound.movedTo (g.step_within o.ip o.direction 1)

theorem beginDelay (sound : o.Sound width height) (cycles : Int) :
    (o.beginDelay cycles).Ensures (Organism.Sound width height) (fun _ => True) := by
  unfold Organism.beginDelay
  split
  · exact .done sound trivial
  · next positive =>
      unfold setPhase
      split
      · exact .done { sound with delay := by simp only; omega, alive := by simp } trivial
      · exact .fail _ { sound with delay := by simp only; omega }

theorem tickDelay (sound : o.Sound g.width g.height) :
    (o.tickDelay g).Ensures (Organism.Sound g.width g.height) (fun _ => True) := by
  unfold Organism.tickDelay
  -- The delay is counted down first, and the organism is sound after that already.
  have counted : (if 0 < o.delay then { o with delay := o.delay - 1 } else o).Sound
      g.width g.height := by
    split
    · exact { sound with delay := by simp only; omega }
    · exact sound
  generalize (if 0 < o.delay then { o with delay := o.delay - 1 } else o) = o' at counted ⊢
  simp only
  split
  · refine Attempt.Ensures.map (Q := fun _ => True) ?_ fun _ _ => trivial
    unfold setPhase
    split
    · exact .done { counted.advance with alive := by simp } trivial
    · exact .fail _ counted.advance
  · exact .done counted trivial

theorem tryMoveCursor (sound : o.Sound width height) {target : Point}
    (inside : target.Within width height) : (o.tryMoveCursor g target).1.Sound width height := by
  unfold Organism.tryMoveCursor
  split
  · exact sound
  · exact { sound with cursor := inside }

theorem walkCursor (direction : Direction) (left taken : Nat) (sound : o.Sound g.width g.height) :
    (Organism.walkCursor g direction left taken o).1.Sound g.width g.height := by
  induction left generalizing taken o with
  | zero => exact sound
  | succ left ih =>
      have moved : (o.tryMoveCursor g (g.step o.cursor direction 1)).1.Sound g.width g.height :=
        sound.tryMoveCursor (g.step_within _ _ _)
      simp only [Organism.walkCursor]
      split
      · next stepped => exact ih _ (by simpa [stepped] using moved)
      · next stopped => simpa [stopped] using moved

theorem moveCursor (sound : o.Sound g.width g.height) (direction : Direction) (steps : Int) :
    (o.moveCursor g direction steps).1.Sound g.width g.height :=
  sound.walkCursor direction _ _

theorem calculate (sound : o.Sound width height) (target : Register) (operation : Calculation) :
    (o.calculate target operation).Sound width height := by
  apply sound.setRegister
  omega

theorem copied (sound : o.Sound width height) {center : Point} {clipboard : List UInt8}
    (read : g.readSquare center o.radius = .ok clipboard) :
    ({ o with clipboard := clipboard } : Organism).Sound width height := by
  have radius := sound.radius
  simp only [maxRadius] at radius
  refine { sound with clipboard := ⟨(2 * o.radius + 1).toNat, ?_, ?_, ?_⟩ }
  · omega
  · simp only [maxSide]
    omega
  · exact Grid.readSquare_length read

theorem act (sound : o.Sound g.width g.height) (instruction : Instruction) :
    (o.act g instruction).Sound g.width g.height := by
  cases instruction with
  | calculate target operation => exact sound.calculate target operation
  | swap =>
      refine { sound with register := fun r => ?_ }
      cases r with
      | a => exact sound.bx
      | b => exact sound.ax
  | turn direction => exact sound.turned direction
  | turnIf direction =>
      simp only [Organism.act]
      split
      · exact sound.turned direction
      · exact sound
  | reflect mirror => exact sound.turned _
  | test condition => exact sound.flagged _
  | flagTo r =>
      apply sound.setRegister
      split <;> omega
  | cursorStep direction => exact sound.tryMoveCursor (g.step_within _ _ _)
  | cursorHome => exact sound.tryMoveCursor sound.ip
  | radiusFrom r => exact sound.setRadius _
  | radiusReset => exact { sound with radius := by simp [Organism.act, maxRadius] }
  | radiusTo r =>
      have radius := sound.radius
      simp only [maxRadius] at radius
      apply sound.setRegister
      omega
  | radiusGrow => exact sound.setRadius _
  | radiusShrink => exact sound.setRadius _
  | readCell r =>
      have byte := (g.read o.cursor).toNat_lt
      apply sound.setRegister
      omega
  | _ => exact sound

end Sound

theorem newborn_sound {width height : Nat} {ip : Point} (inside : ip.Within width height)
    (direction : Direction) : (newborn ip direction).Sound width height where
  register r := by cases r <;> simp [newborn, Organism.register]
  radius := by simp [newborn, maxRadius]
  clipboard := ⟨1, rfl, by decide, rfl⟩
  ip := inside
  cursor := inside
  lifespan := by simp [newborn]
  children := by simp [newborn]
  delay := by simp [newborn]
  alive := by simp [newborn]

end Organism
end Terrarium
