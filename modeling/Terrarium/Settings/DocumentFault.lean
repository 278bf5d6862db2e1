import Terrarium.Settings.FieldError

/-!
What can be wrong with a document: its text, its references, or what is asked of it. A fault
found while a reference is resolved is told as one of that reference.
-/

namespace Terrarium

inductive DocumentFault where
  | badReference (complaint : String)
  | unmergeable
  | located (cause : DocumentFault) (key : String) (inList : Bool)
  | unresolved (cause : DocumentFault)
  | circular
  | leadsToItsContainer
  | noSuchKey (key : String)
  | aboveTheRoot (key : String) (byReference : Bool)
  | missingValue (key : String)
  | leadsToMissing (key : String)
  | missingItem (i : Nat)
  | notAContainer (key parent child : String)
  | notAnIndex (key : String)
  | keyNotText (given kind reference : String)
  | nameNotText (given kind reference : String)
  | noSuchResolver (name : String)
  | tooFewArguments (function parameter : String)
  | tooManyArguments (function complaint : String)
  | unknownMnemonic (given : String)
  | lengthOf (kind : String)
  | variableNotText (kind : String)
  | defaultNotText (given kind : String)
  | noVariable (name : String)
  | notReadable (given kind : String)
  | notMadeOf (kind : String)
  | keyOfRecordNotText (resolver given kind : String)
  | noRecordUnder (key : String)
  | notARecord (resolver kind : String)
  | substituteNotText (what kind : String)
  | noSubstitute (place key : String)
  | missingKey (name : String)
  | noListAttribute
  | noAttribute (kind name : String)
  | notASection (kind : String)
  | notAMapping (part : Section)
  | notIterable (kind : String)
  | tooDeep

namespace DocumentFault

def kind : DocumentFault → String
  | badReference _ => "GrammarParseError"
  | unmergeable | notAContainer _ _ _ => "ConfigTypeError"
  | located cause _ _ => cause.kind
  | unresolved _ | circular | leadsToItsContainer | keyNotText _ _ _ | nameNotText _ _ _ =>
      "InterpolationResolutionError"
  | noSuchKey _ => "InterpolationKeyError"
  | aboveTheRoot _ byReference => if byReference then "InterpolationKeyError" else "ConfigKeyError"
  | noRecordUnder _ | noSubstitute _ _ => "ConfigKeyError"
  | missingValue _ | missingItem _ => "MissingMandatoryValue"
  | leadsToMissing _ => "InterpolationToMissingValueError"
  | noSuchResolver _ => "UnsupportedInterpolationType"
  | unknownMnemonic _ => "UnknownMnemonicError"
  | noVariable _ => "KeyError"
  | notMadeOf _ => "ValidationError"
  | missingKey _ | noListAttribute => "ConfigAttributeError"
  | noAttribute _ _ => "AttributeError"
  | notASection _ => "ValueError"
  | tooDeep => "RecursionError"
  | notAnIndex _ | tooFewArguments _ _ | tooManyArguments _ _ | lengthOf _ | variableNotText _
  | defaultNotText _ _ | notReadable _ _ | keyOfRecordNotText _ _ _ | notARecord _ _
  | substituteNotText _ _
  | notAMapping _ | notIterable _ => "TypeError"

/-- Two dollar signs in a complaint are one once it names a place. -/
def singleDollars : List Char → List Char
  | '$' :: '$' :: rest => '$' :: singleDollars rest
  | c :: rest => c :: singleDollars rest
  | [] => []

def message : DocumentFault → String
  | badReference complaint => complaint
  | unmergeable => "Cannot merge DictConfig with ListConfig"
  | located cause key inList =>
      String.ofList (singleDollars cause.message.toList) ++ "\n    full_key: " ++ key ++
        "\n    object_type=" ++ (if inList then "list" else "dict")
  | unresolved cause =>
      cause.kind ++ " raised while resolving interpolation: " ++ cause.message
  | circular => "Recursive interpolation detected"
  | leadsToItsContainer => "Interpolation to parent node detected"
  | noSuchKey key => "Interpolation key '" ++ key ++ "' not found"
  | aboveTheRoot key byReference =>
      (if byReference then "ConfigKeyError while resolving interpolation: " else "") ++
        "Error resolving key '" ++ key ++ "'"
  | missingValue key => "Missing mandatory value: " ++ key
  | leadsToMissing key =>
      "MissingMandatoryValue while resolving interpolation: Missing mandatory value: " ++ key
  | missingItem i => "Missing value at index " ++ toString i
  | notAContainer key parent child =>
      "Error trying to access " ++ key ++ ": node `" ++ parent ++
        "` is not a container and thus cannot contain `" ++ child ++ "`"
  | notAnIndex key => "Index '" ++ key ++ "' (str) is not an int"
  | keyNotText given kind reference =>
      "The following interpolation is used to denote a config key and thus should return " ++
        "a string, but instead returned `" ++ given ++ "` of type `" ++ kind ++ "`: " ++ reference
  | nameNotText given kind reference =>
      "The name of a resolver must be a string, but the interpolation " ++ reference ++
        " resolved to `" ++ given ++ "` which is of type " ++ kind
  | noSuchResolver name => "Unsupported interpolation type " ++ name
  | tooFewArguments function parameter =>
      function ++ "() missing 1 required positional argument: '" ++ parameter ++ "'"
  | tooManyArguments function complaint => function ++ "() " ++ complaint
  | unknownMnemonic given => "Unknown instruction mnemonic: " ++ Quoted.encode given
  | lengthOf kind => "object of type '" ++ kind ++ "' has no len()"
  | variableNotText kind => "str expected, not " ++ kind
  | defaultNotText given kind =>
      "The default value of the `oc.env` resolver must be a string or None, but `" ++ given ++
        "` is of type " ++ kind
  | noVariable name => Quoted.encode ("Environment variable '" ++ name ++ "' not found")
  | notReadable given kind =>
      "`oc.decode` can only take strings or None as input, but `" ++ given ++ "` is of type " ++
        kind
  | notMadeOf kind => "Object of unsupported type: '" ++ kind ++ "'"
  | keyOfRecordNotText resolver given kind =>
      "`" ++ resolver ++ "` requires a string as input, but obtained `" ++ given ++
        "` of type: " ++ kind
  | noRecordUnder key => "Key not found: '" ++ key ++ "'"
  | notARecord resolver kind =>
      "`" ++ resolver ++ "` cannot be applied to objects of type: " ++ kind
  | substituteNotText what kind =>
      "oc.deprecated: interpolation " ++ what ++ " type is not a string (" ++ kind ++ ")"
  | noSubstitute place key =>
      "In oc.deprecated resolver at '" ++ place ++ "': Key not found: '" ++ key ++ "'"
  | missingKey name => "Missing key " ++ name
  | noListAttribute => "ListConfig does not support attribute access"
  | noAttribute kind name => "'" ++ kind ++ "' object has no attribute " ++ Quoted.encode name
  | notASection kind => "Input cfg is not an OmegaConf config object (" ++ kind ++ ")"
  | notAMapping part =>
      "myco.engine.config." ++ part.title ++ "() argument after ** must be a mapping, not list"
  | notIterable kind => "'" ++ kind ++ "' object is not iterable"
  | tooDeep => "maximum recursion depth exceeded"

/-- Whether a fault is told as it is also by the references that lead to it. -/
def isOfReference : DocumentFault → Bool
  | unresolved _ | circular | leadsToItsContainer | keyNotText _ _ _ | nameNotText _ _ _
  | noSuchKey _ | leadsToMissing _ | noSuchResolver _ => true
  | aboveTheRoot _ byReference => byReference
  | located cause _ _ => isOfReference cause
  | _ => false

def whileResolving (fault : DocumentFault) : DocumentFault :=
  if fault.isOfReference then fault else unresolved fault

def under (fault : DocumentFault) (key : String) (inList : Bool) : DocumentFault :=
  match fault with
  | located _ _ _ => fault
  | _ => located fault key inList

end DocumentFault
end Terrarium
