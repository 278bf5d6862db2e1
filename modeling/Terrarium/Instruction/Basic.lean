import Terrarium.Organism.Basic

/-!
What a byte can tell an organism to do. Instructions that differ only in a register,
a direction, an operation or a condition are one constructor.
-/

namespace Terrarium

inductive Calculation where
  | zero
  | copy
  | sum
  | negate
  | increment
  | decrement
  | multiply
  | double
  | halve
  | parity
  | and
  | or
  | xor
  | equal
  | unequal
  | nonzero
  | isZero
deriving DecidableEq

inductive Condition where
  | always
  | never
  | zero (r : Register)
  | nonzero (r : Register)
  | equal
  | unequal
  | unset
deriving DecidableEq

/-- Where a child starts: behind its parent's flag, or at its parent's cursor. -/
inductive ForkKind where
  | flag
  | cursor
deriving DecidableEq

inductive Instruction where
  | halt
  | nop
  | fork (kind : ForkKind)
  | wall
  | calculate (target : Register) (operation : Calculation)
  | swap
  | wait (r : Register)
  | turn (direction : Direction)
  | turnIf (direction : Direction)
  | haltIf
  | reflect (mirror : Mirror)
  | test (condition : Condition)
  | flagTo (r : Register)
  | cursorStep (direction : Direction)
  | cursorRun (direction : Direction) (r : Register)
  | cursorHome
  | radiusFrom (r : Register)
  | radiusReset
  | radiusTo (r : Register)
  | radiusGrow
  | radiusShrink
  | writeCell (r : Register)
  | readCell (r : Register)
  | copy
  | paste
deriving DecidableEq

inductive Category where
  | special
  | wall
  | calculation
  | control
  | cursor
  | selection
deriving DecidableEq

namespace Category

def all : List Category := [special, wall, calculation, control, cursor, selection]

def name : Category → String
  | special => "special"
  | wall => "wall"
  | calculation => "calculation"
  | control => "control"
  | cursor => "cursor"
  | selection => "selection"

def index : Category → Nat
  | special => 0
  | wall => 1
  | calculation => 2
  | control => 3
  | cursor => 4
  | selection => 5

def rgb : Category → UInt8 × UInt8 × UInt8
  | special => (0x30, 0x30, 0x30)
  | wall => (0x8A, 0x8A, 0x8A)
  | calculation => (0x8E, 0xCD, 0x00)
  | control => (0xC4, 0x6A, 0xE1)
  | cursor => (0x00, 0xD4, 0xD9)
  | selection => (0xE1, 0x00, 0x03)

end Category
end Terrarium
