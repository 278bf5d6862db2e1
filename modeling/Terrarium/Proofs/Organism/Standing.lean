import Terrarium.Proofs.Attempt
import Terrarium.Instruction.Execution

/-!
The standing of an organism is what is left of its budgets and its delay, with its phase. An
organism is timed when its phase tells whether a delay is left. What it does by itself leaves
its standing alone; only beginnings and ticks of delays, charges and children touch it, and all
of them keep it timed.
-/

namespace Terrarium.Organism

structure Standing where
  lifespan : Option Int
  children : Option Int
  delay : Int
  phase : Phase

def standing (o : Organism) : Standing := ⟨o.lifespan, o.children, o.delay, o.phase⟩

section Acts
variable (o : Organism) (g : Grid)

@[simp] theorem standing_setRegister (r : Register) (value : Int) :
    (o.setRegister r value).standing = o.standing := by cases r <;> rfl

@[simp] theorem standing_setRadius (radius : Int) : (o.setRadius radius).standing = o.standing := by
  unfold setRadius
  split <;> rfl

@[simp] theorem standing_tryMoveCursor (target : Point) :
    (o.tryMoveCursor g target).1.standing = o.standing := by
  unfold tryMoveCursor
  split <;> rfl

theorem standing_walkCursor (direction : Direction) (left taken : Nat) :
    (walkCursor g direction left taken o).1.standing = o.standing := by
  induction left generalizing taken o with
  | zero => rfl
  | succ left ih =>
      have moved := o.standing_tryMoveCursor g (g.step o.cursor direction 1)
      simp only [walkCursor]
      split
      · next stepped => rw [ih, ← moved, stepped]
      · next stopped => rw [← moved, stopped]

@[simp] theorem standing_moveCursor (direction : Direction) (steps : Int) :
    (o.moveCursor g direction steps).1.standing = o.standing :=
  standing_walkCursor o g direction _ _

theorem standing_act (instruction : Instruction) : (o.act g instruction).standing = o.standing := by
  cases instruction with
  | turnIf direction =>
      simp only [act]
      split <;> rfl
  | calculate target operation => exact standing_setRegister o target _
  | flagTo r => exact standing_setRegister o r _
  | cursorStep direction => exact standing_tryMoveCursor o g _
  | cursorHome => exact standing_tryMoveCursor o g _
  | radiusFrom r => exact standing_setRadius o _
  | radiusTo r => exact standing_setRegister o r _
  | radiusGrow => exact standing_setRadius o _
  | radiusShrink => exact standing_setRadius o _
  | readCell r => exact standing_setRegister o r _
  | _ => rfl

end Acts

def Timed (o : Organism) : Prop := o.phase = if 0 < o.delay then .delaying else .ready

theorem timed_iff (o : Organism) :
    o.Timed ↔ (o.phase = .delaying ↔ 0 < o.delay) ∧ (o.phase = .ready ↔ ¬ 0 < o.delay) := by
  unfold Timed
  by_cases left : 0 < o.delay <;> cases o.phase <;> simp [left]

theorem Timed.of_eq {o p : Organism} (timed : o.Timed) (delay : p.delay = o.delay)
    (phase : p.phase = o.phase) : p.Timed := by
  rw [Timed, delay, phase]
  exact timed

theorem takeChild_eq (o : Organism) :
    o.takeChild =
      if o.children = some 0 then (o, false)
      else ({ o with children := o.children.map (· - 1) }, true) := by
  unfold takeChild
  cases budget : o.children with
  | none =>
      have same : (none : Option Int).map (· - 1) = o.children := budget.symm
      rw [if_neg nofun, same]
  | some left => by_cases used : left = 0 <;> simp [used]

/-- From one state of an organism to a later one, with no cycle of life charged in between. -/
structure Continues (before after : Organism) : Prop where
  lifespan : after.lifespan = before.lifespan
  timed : before.Timed → after.Timed

namespace Continues
variable {o p q : Organism}

theorem refl (o : Organism) : o.Continues o := ⟨rfl, id⟩

theorem trans (first : o.Continues p) (second : p.Continues q) : o.Continues q :=
  ⟨second.lifespan.trans first.lifespan, second.timed ∘ first.timed⟩

theorem of_standing (same : p.standing = o.standing) : o.Continues p where
  lifespan := congrArg Standing.lifespan same
  timed timed := timed.of_eq (congrArg Standing.delay same) (congrArg Standing.phase same)

theorem beginDelay (o : Organism) (cycles : Int) : o.Continues (o.beginDelay cycles).state := by
  unfold Organism.beginDelay setPhase
  by_cases none : cycles ≤ 0
  · simpa [none] using refl o
  · have some : 0 < cycles := by omega
    -- A timed organism is not dead, and any other phase leads to a delay.
    simp only [none, ↓reduceIte, Phase.allows_eq]
    split
    · exact ⟨rfl, fun _ => by simp [Timed, some]⟩
    · next dead =>
        refine ⟨rfl, fun timed => absurd timed ?_⟩
        unfold Timed
        split <;> cases phase : o.phase <;> simp_all [Phase.isTerminal]

theorem takeChild (o : Organism) : o.Continues o.takeChild.1 := by
  unfold Organism.takeChild
  split
  · exact refl o
  · split
    · exact refl o
    · exact ⟨rfl, id⟩

end Continues

theorem beginDelay_started {o : Organism} {cycles : Int} (ready : o.phase = .ready)
    (delaying : (o.beginDelay cycles).state.phase = .delaying) :
    (o.beginDelay cycles).state.delay = cycles := by
  unfold beginDelay setPhase at delaying ⊢
  by_cases none : cycles ≤ 0
  · simp [none, ready] at delaying
  · simp [none, ready, Phase.allows_eq, Phase.isTerminal]

theorem tickDelay_longer {o : Organism} (longer : 1 < o.delay) (g : Grid) :
    o.tickDelay g = .done { o with delay := o.delay - 1 } false := by
  have left : 0 < o.delay := by omega
  have rest : o.delay - 1 ≠ 0 := by omega
  simp [tickDelay, left, rest]

def rested (o : Organism) (g : Grid) : Organism :=
  { o with ip := g.step o.ip o.direction 1, delay := 0, phase := .ready }

theorem tickDelay_last {o : Organism} (alive : o.phase ≠ .dead) (last : o.delay = 1) (g : Grid) :
    o.tickDelay g = .done (o.rested g) true := by
  have lasting : o.phase.isTerminal = false := by
    cases phase : o.phase <;> simp_all [Phase.isTerminal]
  simp [tickDelay, last, advance, setPhase, Phase.allows_eq, lasting, rested, Attempt.map,
    Attempt.done, Except.map]

theorem Timed.alive {o : Organism} (timed : o.Timed) : o.phase ≠ .dead := by
  rw [timed]
  split <;> simp

theorem Timed.left {o : Organism} (timed : o.Timed) (delaying : o.phase = .delaying) :
    0 < o.delay := (o.timed_iff.mp timed).1.mp delaying

theorem Continues.tickDelay (o : Organism) (g : Grid) : o.Continues (o.tickDelay g).state where
  lifespan := by
    have phased (p : Organism) (next : Phase) : (p.setPhase next).state.lifespan = p.lifespan := by
      unfold setPhase
      split <;> rfl
    unfold Organism.tickDelay
    dsimp only
    split
    · split
      · exact phased _ _
      · rfl
    · split
      · exact phased _ _
      · rfl
  timed timed := by
    have alive := timed.alive
    by_cases longer : 1 < o.delay
    · have delaying : o.phase = .delaying := (o.timed_iff.mp timed).1.mpr (by omega)
      rw [tickDelay_longer longer]
      simp only [Attempt.done, Timed, delaying]
      rw [if_pos (by omega)]
    · by_cases last : o.delay = 1
      · rw [tickDelay_last alive last]
        simp [Attempt.done, Timed, rested]
      · -- Whoever has no delay left is ready, and stays so.
        have none : ¬ 0 < o.delay := by omega
        have ready : o.phase = .ready := (o.timed_iff.mp timed).2.mpr none
        unfold Organism.tickDelay setPhase
        simp only [none, ↓reduceIte]
        split
        · split <;> simp [Attempt.map, Attempt.done, Attempt.fail, advance, Timed, none, ready]
        · exact timed

end Terrarium.Organism
