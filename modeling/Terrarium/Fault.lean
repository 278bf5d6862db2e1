import Terrarium.Organism.Phase
import Terrarium.Population.Slot
import Terrarium.Settings.DocumentFault

/-!
Everything that can go wrong, as causes. `kind` and `message` are how a fault is
reported; nothing else reads them.
-/

namespace Terrarium

inductive Obstacle where
  | noDirectory
  | notADirectory
  | isADirectory
  | nameTooLong
deriving DecidableEq

namespace Obstacle

def kind : Obstacle → String
  | noDirectory => "FileNotFoundError"
  | notADirectory => "NotADirectoryError"
  | isADirectory => "IsADirectoryError"
  | nameTooLong => "OSError"

def describe (obstacle : Obstacle) (path : String) : String :=
  (match obstacle with
    | noDirectory => "[Errno 2] No such file or directory: "
    | notADirectory => "[Errno 20] Not a directory: "
    | isADirectory => "[Errno 21] Is a directory: "
    | nameTooLong => "[Errno 36] File name too long: ") ++ Quoted.encode path

end Obstacle

inductive Fault where
  | emptyWidth
  | emptyHeight
  | zeroSide
  | notOddSquare (length : Nat)
  | imaginarySide
  | coordinateTooLarge
  | radiusOutside (radius : Int)
  | rejectedTransition (current next : Phase)
  | unknownMnemonic (given : Value)
  | noLookup (given : Value)
  | unknownDirection (given : Value)
  | unknownPhase (given : Value)
  | unknownCause (given : Value)
  | deadNewcomer
  | vacantSlot (index generation : Int)
  | emptyDraw
  | negativeSeed
  | integerTooLarge
  | infiniteRate
  | rateTooLarge
  | byteOutside (value : Int)
  | negativeCycles (count : Int)
  | invalidSettings (part : Section) (errors : List FieldError)
  | quotientTooLarge
  | readOnlySetting (name : String)
  | tooManyDigits (most : Nat)
  | cycleFailed (cycle : Nat) (cause : Fault)
  | targetExists (path : String)
  | scaleNotPositive (given : Value)
  | noFrames
  | noFrameStep
  | tooBigToAnimate (width height : Nat)
  | pathRefused (obstacle : Obstacle) (path : String)
  | notWritten (obstacle : Obstacle) (path : String)
  | zeroInPath
  | negativeDuration
  | durationTooLong
  | notAPath (kind : String)
  | notComparable (kind : String)
  | notACount (kind : String)
  | document (fault : DocumentFault)
  | notUnpackable (kind : String)
  | notAPair (length : Nat)
  | notAPoint
  | noSum (kind : String)
  | textAndNumber
  | listAndNumber
  | noRemainder (kind : String)
  | unusedOperand
  | betweenCells

namespace Fault

def kind : Fault → String
  | emptyWidth | emptyHeight => "GridError"
  | zeroSide => "ZeroDivisionError"
  | unknownMnemonic _ => "UnknownMnemonicError"
  | deadNewcomer | vacantSlot _ _ => "PopulationError"
  | coordinateTooLarge | integerTooLarge | infiniteRate | quotientTooLarge | negativeDuration
  | durationTooLong => "OverflowError"
  | invalidSettings _ _ => "ValidationError"
  | cycleFailed _ _ => "SimulationError"
  | targetExists _ | scaleNotPositive _ | noFrames | noFrameStep | tooBigToAnimate _ _
  | notWritten _ _ => "ExportError"
  | pathRefused obstacle _ => obstacle.kind
  | document fault => fault.kind
  | readOnlySetting _ => "AttributeError"
  | listAndNumber => "AssertionError"
  | noLookup _ | imaginarySide | notAPath _ | notComparable _ | notACount _ | notUnpackable _
  | noSum _ | textAndNumber | noRemainder _ | unusedOperand => "TypeError"
  | notAPoint | betweenCells => "IndexError"
  | notOddSquare _ | radiusOutside _ | rejectedTransition _ _ | unknownDirection _
  | unknownPhase _ | unknownCause _ | emptyDraw | negativeSeed | rateTooLarge | byteOutside _
  | negativeCycles _ | tooManyDigits _ | notAPair _ | zeroInPath => "ValueError"

def message : Fault → String
  | emptyWidth => "Width cannot be 0."
  | emptyHeight => "Height cannot be 0."
  | zeroSide => "integer modulo by zero"
  | notOddSquare length =>
      toString length ++ " is not the size of an odd square buffer in [1, 21]"
  | radiusOutside radius => "radius " ++ toString radius ++ " outside [0, 10]"
  | rejectedTransition current next =>
      "Invalid state transition: " ++ current.name ++ " -> " ++ next.name ++
        ". Valid transitions from " ++ current.name ++ ": " ++
        (Value.list (current.successors.map fun phase => .text phase.name)).literal
  | unknownMnemonic given => "Unknown instruction mnemonic: " ++ given.literal
  | noLookup given => "unhashable type: " ++ Quoted.encode given.kind
  | unknownDirection given => given.literal ++ " is not a valid Direction"
  | unknownPhase given => given.literal ++ " is not a valid OrganismState"
  | unknownCause given => given.literal ++ " is not a valid RemovalCause"
  | deadNewcomer => "Cannot insert a dead organism"
  | vacantSlot index generation =>
      "No live organism in slot " ++ toString index ++ ":" ++ toString generation
  | emptyDraw => "high <= 0"
  | negativeSeed => "expected non-negative integer"
  | imaginarySide => "type complex doesn't define __round__ method"
  | coordinateTooLarge => "int too large to convert to C long"
  | integerTooLarge => "int too large to convert to float"
  | infiniteRate => "cannot convert float infinity to integer"
  | rateTooLarge => "lam value too large"
  | byteOutside value => "Byte out of range: " ++ toString value
  | negativeCycles count => "Cannot run a negative number of cycles: " ++ toString count
  | invalidSettings part errors =>
      toString errors.length ++ " validation error" ++ (if errors.length = 1 then "" else "s") ++
        " for " ++ part.title ++ "\n" ++ "\n".intercalate (errors.map FieldError.paragraph)
  | quotientTooLarge => "integer division result too large for a float"
  | readOnlySetting name =>
      "property " ++ Quoted.encode name ++ " of " ++ Quoted.encode Section.run.title ++
        " object has no setter"
  | tooManyDigits most =>
      "Exceeds the limit (" ++ toString most ++ " digits) for integer string conversion; use " ++
        "sys.set_int_max_str_digits() to increase the limit"
  | cycleFailed cycle cause => "Cycle " ++ toString cycle ++ " failed: " ++ cause.message
  | targetExists path => "Refusing to overwrite existing file " ++ path
  | scaleNotPositive given => "pixel_scale must be positive, got " ++ given.plain
  | noFrames => "A GIF needs at least one frame"
  | noFrameStep => "The frame step must be at least one cycle"
  | tooBigToAnimate width height =>
      "Grid(" ++ toString width ++ "x" ++ toString height ++ ") is too big for a GIF"
  | pathRefused obstacle path => obstacle.describe path
  | notWritten obstacle path => "Failed to write " ++ path ++ ": " ++ obstacle.describe path
  | zeroInPath => "embedded null byte"
  | negativeDuration => "can't convert negative int to unsigned"
  | durationTooLong => "int too big to convert"
  | notAPath kind => "expected str, bytes or os.PathLike object, not " ++ kind
  | notComparable kind =>
      "'<=' not supported between instances of " ++ Quoted.encode kind ++ " and 'int'"
  | notACount kind => Quoted.encode kind ++ " object cannot be interpreted as an integer"
  | document fault => fault.message
  | notUnpackable kind => "cannot unpack non-iterable " ++ kind ++ " object"
  | notAPair length =>
      if length < 2 then
        "not enough values to unpack (expected 2, got " ++ toString length ++ ")"
      else "too many values to unpack (expected 2)"
  | notAPoint => "tuple index out of range"
  | noSum kind => "unsupported operand type(s) for +: " ++ Quoted.encode kind ++ " and 'int'"
  | textAndNumber => "can only concatenate str (not \"int\") to str"
  | listAndNumber => ""
  | noRemainder kind =>
      "unsupported operand type(s) for %: " ++ Quoted.encode kind ++ " and 'int'"
  | unusedOperand => "not all arguments converted during string formatting"
  | betweenCells =>
      "only integers, slices (`:`), ellipsis (`...`), numpy.newaxis (`None`) and integer or " ++
        "boolean arrays are valid indices"

end Fault
end Terrarium
