import Terrarium.Reference.Term

/-!
Whether the references in a text can be read. Text with references of the plainest form
alone is taken as it is: a path of keys, or a call with simple arguments. Such references
may have any blanks inside them, so a few of them turn out unreadable only when they are
followed.
-/

namespace Terrarium.Reference

def opensIn : List Char → Bool
  | [] => false
  | c :: rest => opens (c :: rest) || opensIn rest

namespace Plain

def isSpace (c : Char) : Bool := c == ' ' || (9 ≤ c.toNat && c.toNat ≤ 13)

def trim (chars : List Char) : List Char :=
  ((chars.dropWhile isSpace).reverse.dropWhile isSpace).reverse

def isKeyChar (c : Char) : Bool := c.isAlphanum || c == '_' || c == '$'

def afterKey : List Char → Option (List Char)
  | '[' :: rest =>
      let key := rest.takeWhile isKeyChar
      match rest.drop key.length with
      | ']' :: tail => if key.isEmpty then none else some tail
      | _ => none
  | chars =>
      let key := chars.takeWhile isKeyChar
      if key.isEmpty then none else some (chars.drop key.length)

def areSteps : Nat → List Char → Bool
  | _, [] => true
  | 0, _ => false
  | fuel + 1, c :: rest =>
      if c = '.' then
        let key := rest.takeWhile isKeyChar
        !key.isEmpty && areSteps fuel (rest.drop key.length)
      else if c = '[' then
        match afterKey (c :: rest) with
        | some tail => areSteps fuel tail
        | none => false
      else false

def isPath (chars : List Char) : Bool :=
  match afterKey (chars.dropWhile (· == '.')) with
  | some rest => areSteps rest.length rest
  | none => false

def isName (chars : List Char) : Bool :=
  ((String.ofList chars).splitOn ".").all fun part =>
    match part.toList with
    | c :: rest => startsWord c && rest.all continuesWord
    | [] => false

def isArgumentChar (c : Char) : Bool := c.isAlphanum || "_/-+.$%*@?|".toList.contains c

def isArgument (chars : List Char) : Bool := !chars.isEmpty && chars.all isArgumentChar

def isCall (chars : List Char) : Bool :=
  let (before, rest) := chars.span (· != ':')
  let name := trim before
  let given := trim (rest.drop 1)
  !rest.isEmpty && (name.isEmpty || isName name) &&
    (given.isEmpty || ((String.ofList given).splitOn ",").all fun part => isArgument (trim part.toList))

def isReference (chars : List Char) : Bool := isPath (trim chars) || isCall chars

/-- Whether every reference of a text, from here on, is of the plainest form. -/
def holds : Nat → List Char → Bool
  | _, [] => true
  | 0, _ => true
  | fuel + 1, chars =>
      if opens chars then
        let (body, rest) := (chars.drop 2).span (· != '\x7d')
        !rest.isEmpty && isReference body && holds fuel (rest.drop 1)
      else holds fuel chars.tail

end Plain

def complaint? (text : String) : Option String :=
  let chars := text.toList
  if !opensIn chars || Plain.holds chars.length chars then none
  else
    match readWhole text with
    | .ok _ => none
    | .error complaint => some complaint

end Terrarium.Reference
