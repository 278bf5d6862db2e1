import Terrarium.Habitat
import Terrarium.Organism.Motion

/-!
Execution of one instruction by one organism. After an instruction that neither halts
nor starts a delay the instruction pointer moves one cell on; an instruction that starts
a delay leaves that step to the end of the delay. Bytes without a meaning, no-ops and
walls do nothing else.
-/

namespace Terrarium

structure Rules where
  noise : NoiseSettings := {}
  instructionCosts : Bool := false

structure Scene where
  organism : Organism
  habitat : Habitat

inductive Outcome where
  | proceed
  | halt
  | fork (kind : ForkKind)

/-- What is left to do for whoever runs the organism. -/
inductive Effect where
  | proceed
  | spawn (child : Organism)
  | halt

def Effect.name : Effect → String
  | proceed => "continue"
  | spawn _ => "spawn"
  | halt => "halt"

def Effect.isHalt : Effect → Bool
  | halt => true
  | _ => false

def Effect.child? : Effect → Option Organism
  | spawn child => some child
  | _ => none

/-- The value a register takes from its own content and the other one's, before it is
cut down to a byte. Halves and parities round down. -/
def Calculation.value (own other : Int) : Calculation → Int
  | zero => 0
  | copy => other
  | sum => own + other
  | negate => -own
  | increment => own + 1
  | decrement => own - 1
  | multiply => own * other
  | double => own * 2
  | halve => own / 2
  | parity => own % 2
  | and => (lowByte own &&& lowByte other).toNat
  | or => (lowByte own ||| lowByte other).toNat
  | xor => (lowByte own ^^^ lowByte other).toNat
  | equal => if own = other then 1 else 0
  | unequal => if own = other then 0 else 1
  | nonzero => if own = 0 then 0 else 1
  | isZero => if own = 0 then 1 else 0

def Condition.holds (o : Organism) : Condition → Bool
  | always => true
  | never => false
  | zero r => o.register r = 0
  | nonzero r => o.register r ≠ 0
  | equal => o.ax = o.bx
  | unequal => o.ax ≠ o.bx
  | unset => !o.flag

namespace Organism

def calculate (o : Organism) (target : Register) (operation : Calculation) : Organism :=
  o.setRegister target ((operation.value (o.register target) (o.register target.other)) % 256)

/-- The instructions that touch nothing but the organism that runs them, and never fail. -/
def act (o : Organism) (g : Grid) : Instruction → Organism
  | .calculate target operation => o.calculate target operation
  | .swap => { o with ax := o.bx, bx := o.ax }
  | .turn direction => { o with direction := direction }
  | .turnIf direction => if o.flag then { o with direction := direction } else o
  | .reflect mirror => { o with direction := o.direction.reflect mirror }
  | .test condition => { o with flag := condition.holds o }
  | .flagTo r => o.setRegister r (if o.flag then 1 else 0)
  | .cursorStep direction => (o.tryMoveCursor g (g.step o.cursor direction 1)).1
  | .cursorHome => (o.tryMoveCursor g o.ip).1
  | .radiusFrom r => o.setRadius (o.register r)
  | .radiusReset => { o with radius := 0 }
  | .radiusTo r => o.setRegister r o.radius
  | .radiusGrow => o.setRadius (o.radius + 1)
  | .radiusShrink => o.setRadius (max 0 (o.radius - 1))
  | .readCell r => o.setRegister r (g.read o.cursor).toNat
  | _ => o

end Organism

namespace Scene

def delay (s : Scene) (cycles : Int) : Attempt Scene Outcome :=
  ((s.organism.beginDelay cycles).inside fun o => { s with organism := o }).map
    fun _ => .proceed

def copy (s : Scene) : Attempt Scene Outcome :=
  match s.habitat.grid.readSquare s.organism.cursor s.organism.radius with
  | .ok clipboard => .done { s with organism := { s.organism with clipboard := clipboard } } .proceed
  | .error fault => .fail s fault

def act (rules : Rules) (s : Scene) (instruction : Instruction) : Attempt Scene Outcome :=
  let o := s.organism
  match instruction with
  | .halt => .done s .halt
  | .haltIf => .done s (if o.flag then .halt else .proceed)
  | .fork kind => .done s (.fork kind)
  | .wait r => s.delay (o.register r)
  | .cursorRun direction r =>
      let (moved, taken) := o.moveCursor s.habitat.grid direction (o.register r)
      let s := { s with organism := moved }
      if rules.instructionCosts then s.delay taken else .done s .proceed
  | .writeCell r =>
      ((s.habitat.write rules.noise o.cursor (lowByte (o.register r))).inside
        fun h => { s with habitat := h }).map fun _ => .proceed
  | .copy => s.copy
  | .paste =>
      ((s.habitat.writeSquare rules.noise o.cursor o.clipboard).inside
        fun h => { s with habitat := h }).andThen fun s _ =>
          if rules.instructionCosts then
            match o.clipboardSide with
            | .ok side => s.delay side
            | .error fault => .fail s fault
          else .done s .proceed
  | other => .done { s with organism := o.act s.habitat.grid other } .proceed

theorem copy_cases (s : Scene) :
    (∃ clipboard, s.habitat.grid.readSquare s.organism.cursor s.organism.radius = .ok clipboard ∧
      s.copy = .done { s with organism := { s.organism with clipboard := clipboard } } .proceed) ∨
    ∃ fault, s.copy = .fail s fault := by
  unfold copy
  split
  · next clipboard read => exact .inl ⟨clipboard, read, rfl⟩
  · next fault _ => exact .inr ⟨fault, rfl⟩

/-- The step to the next instruction, unless a delay owes it. -/
def moveOn (s : Scene) (advance : Bool) : Scene :=
  if advance && !s.organism.isDelaying then
    { s with organism := s.organism.advance s.habitat.grid }
  else s

/-- A child is a copy of its parent as it stands after the instruction. A parent whose
budget is used up keeps its flag and its step but has no child. -/
def fork (s : Scene) (kind : ForkKind) : Attempt Scene Effect :=
  let parent := match kind with
    | .flag => { s.organism with flag := true }
    | .cursor => s.organism
  match parent.takeChild with
  | (parent, false) =>
      { state := { s with organism := parent }
        events := [.forkSuppressed parent.ip]
        answer := .ok .proceed }
  | (parent, true) =>
      let child := match kind with
        | .flag => { parent with flag := false }
        | .cursor => { parent with ip := parent.cursor }
      .done { s with organism := parent } (.spawn child)

def run (rules : Rules) (advance : Bool) (s : Scene) (instruction : Option Instruction) :
    Attempt Scene Effect :=
  (match instruction with
    | some instruction => s.act rules instruction
    | none => .done s .proceed).andThen fun s outcome =>
      match outcome with
      | .halt => .done s .halt
      | .proceed => .done (s.moveOn advance) .proceed
      | .fork kind => (s.moveOn advance).fork kind

def execute (rules : Rules) (s : Scene) : Attempt Scene Effect :=
  s.run rules true (Instruction.ofByte? (s.habitat.grid.read s.organism.ip))

end Scene
end Terrarium
