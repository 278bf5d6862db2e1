import Terrarium.Number.Reading

/-!
Keys as references write them: names with points between them or in brackets, and points in
front that lead upwards.
-/

namespace Terrarium.Reference.Key

def isNameChar (c : Char) : Bool := c != '.' && c != '['

/-- The names behind the first one. What is neither behind a point nor in brackets is passed
over. -/
def furtherNames : Nat → List Char → List String
  | _, [] => []
  | 0, _ => []
  | fuel + 1, '.' :: rest =>
      let name := rest.takeWhile isNameChar
      String.ofList name :: furtherNames fuel (rest.drop name.length)
  | fuel + 1, '[' :: rest =>
      let name := rest.takeWhile (· != ']')
      match rest.drop name.length with
      | _ :: tail => String.ofList name :: furtherNames fuel tail
      | [] => furtherNames fuel rest
  | fuel + 1, _ :: rest => furtherNames fuel rest

/-- The names of a key in order. A bracket at its front begins the first name. -/
def names (key : String) : List String :=
  let chars := key.toList
  let points := chars.takeWhile (· == '.')
  let first := (chars.drop points.length).takeWhile isNameChar
  let head := points.map (fun _ => "") ++ [String.ofList first]
  match chars.drop (points.length + first.length) with
  | [] => head
  | '[' :: rest =>
      (if first.isEmpty then head.dropLast else head) ++
        furtherNames (rest.length + 1) ('[' :: rest)
  | rest => head ++ furtherNames rest.length rest

/-- How many containers up a key begins, if it does not begin at the root, and what is left
of it. -/
def upwards (key : String) : Option Nat × String :=
  match key.toList.takeWhile (· == '.') with
  | [] => (none, key)
  | _ :: more => (some more.length, String.ofList (key.toList.dropWhile (· == '.')))

def index? (name : String) : Option Int :=
  (Reading.joinDigits (Blank.trim name.toList)).bind Reading.signed?

end Terrarium.Reference.Key
