import Terrarium.Settings.Value

/-!
Places in a settings document. A node is a value together with all that stands above it, so
a reference can lead from it to its neighbours and a complaint can say where it is.
-/

namespace Terrarium

inductive Step where
  | field (name : String)
  | item (i : Nat)
deriving DecidableEq

namespace Step

def text : Step → String
  | field name => name
  | item i => "[" ++ toString i ++ "]"

/-- A path as it is written: a point stands before a name that something goes before. -/
def describe : List Step → String
  | [] => ""
  | step :: rest =>
      let tail := describe rest
      let gap := match rest with
        | field _ :: _ => if tail.isEmpty then "" else "."
        | _ => ""
      step.text ++ gap ++ tail

end Step

namespace Value

def isMissing : Value → Bool
  | text s => s == "???"
  | _ => false

def isContainer : Value → Bool
  | list _ | record _ => true
  | _ => false

mutual
/-- The number of characters and of values in a value. -/
def size : Value → Nat
  | text s => s.length + 1
  | list items => sizeOfItems items + 1
  | record fields => sizeOfFields fields + 1
  | _ => 1

def sizeOfItems : List Value → Nat
  | [] => 0
  | item :: rest => size item + sizeOfItems rest

def sizeOfFields : List (String × Value) → Nat
  | [] => 0
  | (key, item) :: rest => key.length + size item + sizeOfFields rest
end

/-- A record of entries, of which the last one with a key counts, at the place of the first. -/
def ofEntries (entries : List (String × Value)) : Value :=
  record (entries.foldl put [])
where
  put (fields : List (String × Value)) (entry : String × Value) : List (String × Value) :=
    if fields.any (·.1 == entry.1) then
      fields.map fun field => if field.1 == entry.1 then entry else field
    else fields ++ [entry]

end Value

/-- A value, and the containers above it with the step taken in each, the nearest first. -/
structure Node where
  value : Value
  above : List (Value × Step) := []

namespace Node

def path (n : Node) : List Step := (n.above.map Prod.snd).reverse

def below (n : Node) (step : Step) (v : Value) : Node := ⟨v, (n.value, step) :: n.above⟩

def field? (n : Node) (name : String) : Option Node :=
  (n.value.field? name).map (n.below (.field name))

def item? (n : Node) (i : Nat) : Option Node :=
  match n.value with
  | .list items => items[i]?.map (n.below (.item i))
  | _ => none

def parts (n : Node) : List Node :=
  match n.value with
  | .list items => items.zipIdx.map fun (v, i) => n.below (.item i) v
  | .record fields => fields.map fun (name, v) => n.below (.field name) v
  | _ => []

def container? (n : Node) : Option Node :=
  match n.above with
  | (v, _) :: rest => some ⟨v, rest⟩
  | [] => none

def root (n : Node) : Node :=
  match n.above.getLast? with
  | some (v, _) => ⟨v, []⟩
  | none => n

def isList (n : Node) : Bool :=
  match n.value with
  | .list _ => true
  | _ => false

def isUnder (n other : Node) : Bool :=
  other.value.isContainer && other.path.isPrefixOf n.path && other.path.length < n.path.length

def place (n : Node) (step : Step) : String := Step.describe (n.path ++ [step])

end Node
end Terrarium
