import Terrarium.Settings.Value

/-!
Why a settings field refuses a value.
-/

namespace Terrarium

inductive FieldFault where
  | notAnInteger
  | unreadableInteger
  | integerTooLong
  | fractionalInteger
  | notFinite
  | notANumber
  | unreadableNumber
  | notABoolean
  | unreadableBoolean
  | notAmong (first second : String)
  | notAbove (bound : Int)
  | below (bound : Int)
  | above (bound : Int)
  | noSuchField (name : String)
deriving DecidableEq

namespace FieldFault

def code : FieldFault → String
  | notAnInteger => "int_type"
  | unreadableInteger => "int_parsing"
  | integerTooLong => "int_parsing_size"
  | fractionalInteger => "int_from_float"
  | notFinite => "finite_number"
  | notANumber => "float_type"
  | unreadableNumber => "float_parsing"
  | notABoolean => "bool_type"
  | unreadableBoolean => "bool_parsing"
  | notAmong _ _ => "enum"
  | notAbove _ => "greater_than"
  | below _ => "greater_than_equal"
  | above _ => "less_than_equal"
  | noSuchField _ => "no_such_attribute"

def message : FieldFault → String
  | notAnInteger => "Input should be a valid integer"
  | unreadableInteger =>
      "Input should be a valid integer, unable to parse string as an integer"
  | integerTooLong => "Unable to parse input string as an integer, exceeded maximum size"
  | fractionalInteger =>
      "Input should be a valid integer, got a number with a fractional part"
  | notFinite => "Input should be a finite number"
  | notANumber => "Input should be a valid number"
  | unreadableNumber => "Input should be a valid number, unable to parse string as a number"
  | notABoolean => "Input should be a valid boolean"
  | unreadableBoolean => "Input should be a valid boolean, unable to interpret input"
  | notAmong first second =>
      "Input should be " ++ Quoted.encode first ++ " or " ++ Quoted.encode second
  | notAbove bound => "Input should be greater than " ++ toString bound
  | below bound => "Input should be greater than or equal to " ++ toString bound
  | above bound => "Input should be less than or equal to " ++ toString bound
  | noSuchField name => "Object has no attribute " ++ Quoted.encode name

end FieldFault

structure FieldError where
  field : String
  fault : FieldFault
  given : Value

namespace FieldError

def leadingBytes : Nat → List Char → List Char
  | _, [] => []
  | limit, c :: rest =>
      if c.utf8Size ≤ limit then c :: leadingBytes (limit - c.utf8Size) rest else []

/-- Values over fifty bytes are shown by their first 25 and last 24. -/
def abridge (text : String) : String :=
  if text.utf8ByteSize ≤ 50 then text
  else
    let chars := text.toList
    String.ofList (leadingBytes 25 chars) ++ "..." ++
      String.ofList (leadingBytes 24 chars.reverse).reverse

def paragraph (error : FieldError) : String :=
  let help := "/".intercalate ["https:", "", "errors.pydantic.dev", "2.14", "v", error.fault.code]
  error.field ++ "\n  " ++ error.fault.message ++ " [type=" ++ error.fault.code ++
    ", input_value=" ++ abridge error.given.literal ++ ", input_type=" ++ error.given.kind ++
    "]\n    For further information visit " ++ help

end FieldError

inductive Section where
  | world
  | run
deriving DecidableEq

def Section.title : Section → String
  | world => "WorldConfig"
  | run => "RunConfig"

end Terrarium
