import Terrarium.Reference.Plain
import Terrarium.Settings.DocumentFault
import Terrarium.Settings.Node

/-!
Settings documents, and how one is laid over another. Every text of a document is checked
when the document is made; what its references lead to is seen only when they are followed.
-/

namespace Terrarium

namespace Value

mutual
/-- Records are merged key by key, and nothing else is: the upper value stands for the base,
unless it is still to be given. -/
def merge : Value → Value → Except DocumentFault Value
  | record base, record upper =>
      (mergeFields base upper).map fun fields =>
        record (fields ++ upper.filter fun entry => !(base.any (·.1 == entry.1)))
  | record _, list _ => .error .unmergeable
  | list _, record _ => .error .unmergeable
  | base, upper => .ok (if upper.isMissing then base else upper)

def mergeFields :
    List (String × Value) → List (String × Value) → Except DocumentFault (List (String × Value))
  | [], _ => .ok []
  | (key, item) :: rest, upper =>
      let merged : Except DocumentFault Value := match upper.lookup key with
        | some replacement => merge item replacement
        | none => .ok item
      merged.bind fun value => (mergeFields rest upper).map fun others => (key, value) :: others
end

end Value

structure Document where
  root : Value
  environment : List (String × String) := []

namespace Document

def checkText (text : String) : Except DocumentFault Unit :=
  match Reference.complaint? text with
  | some complaint => .error (.badReference complaint)
  | none => .ok ()

def checkPart (n : Node) (step : Step) (v : Value) : Except DocumentFault Unit :=
  match v with
  | .text s => (checkText s).mapError fun fault => fault.under (n.place step) n.isList
  | _ => .ok ()

mutual
def checkParts (n : Node) : Value → Except DocumentFault Unit
  | .list items => checkItems n 0 items
  | .record fields => checkFields n fields
  | _ => .ok ()

def checkItems (n : Node) : Nat → List Value → Except DocumentFault Unit
  | _, [] => .ok ()
  | i, v :: rest =>
      (checkPart n (.item i) v).bind fun _ =>
      (checkParts (n.below (.item i) v) v).bind fun _ => checkItems n (i + 1) rest

def checkFields (n : Node) : List (String × Value) → Except DocumentFault Unit
  | [] => .ok ()
  | (name, v) :: rest =>
      (checkPart n (.field name) v).bind fun _ =>
      (checkParts (n.below (.field name) v) v).bind fun _ => checkFields n rest
end

def merge (base upper : Value) (environment : List (String × String)) :
    Except DocumentFault Document :=
  (checkParts ⟨upper, []⟩ upper).bind fun _ =>
  ((Value.merge base upper).mapError fun fault => fault.under "" false).map fun root =>
    { root := root, environment := environment }

def top (d : Document) : Node := { value := d.root }

end Document
end Terrarium
