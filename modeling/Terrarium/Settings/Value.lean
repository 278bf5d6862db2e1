import Terrarium.Number.Decimal
import Terrarium.Text.Quoted

/-!
Values as settings documents hold them. Whole numbers and binary fractions are
kept apart, since `2` and `2.0` are logged differently.
-/

namespace Terrarium

inductive Value where
  | null
  | bool (b : Bool)
  | int (n : Int)
  | float (x : Binary64)
  | text (s : String)
  | list (items : List Value)
  | record (fields : List (String × Value))

namespace Value

mutual
def literal : Value → String
  | null => "None"
  | bool b => if b then "True" else "False"
  | int n => toString n
  | float x => NumberStyle.report.render x
  | text s => Quoted.encode s
  | list items => "[" ++ ", ".intercalate (literals items) ++ "]"
  | record fields => "\x7b" ++ ", ".intercalate (entryLiterals fields) ++ "\x7d"

def literals : List Value → List String
  | [] => []
  | item :: rest => literal item :: literals rest

def entryLiterals : List (String × Value) → List String
  | [] => []
  | (key, item) :: rest => (Quoted.encode key ++ ": " ++ literal item) :: entryLiterals rest
end

def plain : Value → String
  | text s => s
  | v => v.literal

def kind : Value → String
  | null => "NoneType"
  | bool _ => "bool"
  | int _ => "int"
  | float _ => "float"
  | text _ => "str"
  | list _ => "list"
  | record _ => "dict"

def partKind : Value → String
  | list _ => "ListConfig"
  | record _ => "DictConfig"
  | v => v.kind

/-- Values that count as absent where presence is all that matters. -/
def isEmpty : Value → Bool
  | null => true
  | bool b => !b
  | int n => n == 0
  | float x => x.isZero
  | text s => s.isEmpty
  | list items => items.isEmpty
  | record fields => fields.isEmpty

def field? (v : Value) (name : String) : Option Value :=
  match v with
  | record fields => fields.lookup name
  | _ => none

end Value
end Terrarium
