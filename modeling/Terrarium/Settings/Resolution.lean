import Terrarium.Reference.Key
import Terrarium.Settings.Document
import Terrarium.Settings.Resolver

/-!
What the references in a document lead to. A reference is followed from the place where it
stands; it may lead to text that holds further references, but never back to itself. What is
asked of a document (a field, the items of a list, a whole section) has its references
followed on the way, and a fault of one says where it stood.
-/

namespace Terrarium

namespace Node

def child? (n : Node) (name : String) : Except DocumentFault (Option Node) :=
  match n.value with
  | .record _ => .ok (n.field? name)
  | .list _ =>
      match Reference.Key.index? name with
      | none => .error (.notAnIndex name)
      | some i => .ok (if i < 0 then none else n.item? i.toNat)
  | _ => .ok none

def ancestor? : Nat → Node → Option Node
  | 0, n => some n
  | count + 1, n => n.container?.bind (ancestor? count)

def startOf (n : Node) (key : String) (byReference : Bool) :
    Except DocumentFault (Node × String) :=
  match Reference.Key.upwards key with
  | (none, rest) => .ok (n.root, rest)
  | (some count, rest) =>
      match n.container?.bind (ancestor? count) with
      | some start => .ok (start, rest)
      | none => .error (.aboveTheRoot key byReference)

end Node

namespace Document

/-- A meaning as the value of a text. What is made on the spot takes the place of the text,
and what it holds is checked like any text of a document. -/
def settle (n : Node) : Meaning → Except DocumentFault Node
  | .part m => .ok m
  | .made v =>
      let made : Node := ⟨v, n.above⟩
      let checked := match v with
        | .text s => checkText s
        | _ => checkParts made v
      checked.map fun _ => made

def spelled (refused : String → String → String → DocumentFault) (written : String)
    (meaning : Meaning) : Except DocumentFault String :=
  match meaning.value with
  | .text s => .ok s
  | _ => .error (refused meaning.plain meaning.className written)

def referencesTo (key : String) (fields : List (String × Value)) : Value :=
  let start := if key.startsWith "." then "." ++ key else key
  .list (fields.map fun field => .text ("$\x7b" ++ start ++ "." ++ field.1 ++ "\x7d"))

/-! The functions below go inside each other no deeper than their fuel. `trail` holds the
places of the texts whose references are being followed. -/

mutual
def follow (d : Document) : Nat → List (List Step) → Node → Except DocumentFault Node
  | 0, _, _ => .error .tooDeep
  | fuel + 1, trail, n =>
      match n.value with
      | .text s =>
          if !Reference.opensIn s.toList then .ok n
          else
            match Reference.readWhole s with
            | .error complaint => .error (.badReference complaint)
            | .ok term =>
                if trail.contains n.path then .error .circular
                else
                  ((evaluate d fuel (n.path :: trail) n term).mapError
                    DocumentFault.whileResolving).bind (settle n)
      | _ => .ok n

def evaluate (d : Document) :
    Nat → List (List Step) → Node → Reference.Term → Except DocumentFault Meaning
  | 0, _, _, _ => .error .tooDeep
  | fuel + 1, trail, n, term =>
      match term with
      | .constant v => .ok (.made v)
      | .joined parts =>
          (parts.mapM (evaluate d fuel trail n)).map fun meanings =>
            .made (.text (String.join (meanings.map Meaning.plain)))
      | .list items =>
          (items.mapM (evaluate d fuel trail n)).map fun meanings =>
            .made (.list (meanings.map Meaning.value))
      | .record entries =>
          (entries.mapM fun entry =>
            (evaluate d fuel trail n entry.2).map fun meaning => (entry.1, meaning.value)).map
              fun fields => .made (Value.ofEntries fields)
      | .path parts =>
          (parts.mapM (spell d fuel trail n .keyNotText)).bind fun texts =>
            reach d fuel trail n (String.join texts)
      | .call parts arguments =>
          (parts.mapM (spell d fuel trail n .nameNotText)).bind fun texts =>
          (arguments.mapM (evaluate d fuel trail n)).bind fun meanings =>
            match Resolver.ofName? (String.join texts) with
            | none => .error (.noSuchResolver (String.join texts))
            | some resolver =>
                (resolver.arguments meanings).bind fun (first, rest) =>
                  call d fuel n resolver first rest.head?

def spell (d : Document) : Nat → List (List Step) → Node →
    (String → String → String → DocumentFault) → Reference.Part → Except DocumentFault String
  | 0, _, _, _, _ => .error .tooDeep
  | fuel + 1, trail, n, refused, part =>
      match part with
      | .said text => .ok text
      | .given reference written =>
          (evaluate d fuel trail n reference).bind (spelled refused written)

/-- The node that a path leads to, which is not one that holds the path. -/
def reach (d : Document) :
    Nat → List (List Step) → Node → String → Except DocumentFault Meaning
  | 0, _, _, _ => .error .tooDeep
  | fuel + 1, trail, n, key =>
      (n.startOf key true).bind fun (start, rest) =>
        match find d fuel trail true start rest [] (Reference.Key.names rest) with
        | .error (.missingValue place) => .error (.leadsToMissing place)
        | .error fault => .error fault
        | .ok none => .error (.noSuchKey rest)
        | .ok (some found) =>
            if n.isUnder found then .error .leadsToItsContainer else .ok (.part found)

/-- The node under some names, one below the other, if there is one; `given` makes a fault
of a value still to be given. The names passed so far are in `passed`. -/
def find (d : Document) : Nat → List (List Step) → Bool → Node → String → List String →
    List String → Except DocumentFault (Option Node)
  | 0, _, _, _, _, _, _ => .error .tooDeep
  | _, _, _, start, _, _, [] => .ok (some start)
  | fuel + 1, trail, given, start, key, passed, name :: names =>
      (start.child? name).bind fun child =>
        match child with
        | none => .ok none
        | some child =>
            if given ∧ child.value.isMissing then .error (.missingValue (Step.describe child.path))
            else
              (follow d fuel trail child).bind fun found =>
                match names with
                | [] => .ok (some found)
                | next :: _ =>
                    if found.value.isContainer then
                      find d fuel trail given found key (passed ++ [name]) names
                    else .error (.notAContainer key (".".intercalate (passed ++ [name])) next)

def call (d : Document) :
    Nat → Node → Resolver → Meaning → Option Meaning → Except DocumentFault Meaning
  | 0, _, _, _, _ => .error .tooDeep
  | fuel + 1, n, resolver, first, second =>
      match resolver with
      | .opcode => Resolver.byteOf first
      | .length => Resolver.lengthOf first
      | .environment => Resolver.variableOf d.environment first second
      | .create => Resolver.created n first
      | .decode =>
          match first.value with
          | .null => .ok (.made .null)
          | .text s =>
              match Reference.readArgument s with
              | .error complaint => .error (.badReference complaint)
              | .ok term =>
                  (evaluate d fuel [n.path] n term).mapError DocumentFault.whileResolving
          | _ => .error (.notReadable first.plain first.kind)
      | .select =>
          match first.value with
          | .text key =>
              (n.startOf key false).bind fun (start, rest) =>
              (find d fuel [] false start rest [] (Reference.Key.names rest)).map fun found =>
                match found.filter fun m => !m.value.isMissing with
                | some m => Meaning.ofNode m
                | none => second.getD (.made .null)
          | _ => .error (.noAttribute first.kind "startswith")
      | .keys | .values =>
          match first.value with
          | .text key =>
              (n.startOf key false).bind fun (start, rest) =>
              (find d fuel [] true start rest [] (Reference.Key.names rest)).bind fun found =>
                match found with
                | none => .error (.noRecordUnder key)
                | some m =>
                    match m.value with
                    | .record fields =>
                        .ok (.part ⟨if resolver = .keys
                          then .list (fields.map fun field => .text field.1)
                          else referencesTo key fields, n.above⟩)
                    | _ => .error (.notARecord resolver.name (Meaning.ofNode m).kind)
          | _ => .error (.keyOfRecordNotText resolver.name first.plain first.kind)
      | .deprecated =>
          let message := second.getD (.made (.text ""))
          match first.value, message.value with
          | .text key, .text _ =>
              (n.startOf key false).bind fun (start, rest) =>
              (find d fuel [] false start rest [] (Reference.Key.names rest)).bind fun found =>
                match found with
                | some m => .ok (.part m)
                | none => .error (.noSubstitute (Step.describe n.path) key)
          | .text _, _ => .error (.substituteNotText "message" message.kind)
          | _, _ => .error (.substituteNotText "key" first.kind)
end

/-- Enough for every chain of references, since none holds the same text twice. -/
def enough (d : Document) : Nat := 8 * (d.root.size + 64)

def resolve (d : Document) (n : Node) : Except DocumentFault Node :=
  match n.value with
  | .text s => if Reference.opensIn s.toList then d.follow d.enough [] n else .ok n
  | _ => .ok n

def field (d : Document) (n : Node) (name : String) : Except DocumentFault Node :=
  match n.value with
  | .record _ =>
      let place := n.place (.field name)
      let found : Except DocumentFault Node := match n.field? name with
        | none => .error (.missingKey name)
        | some m => if m.value.isMissing then .error (.missingValue place) else d.resolve m
      found.mapError fun fault => fault.under place false
  | .list _ =>
      .error (.located .noListAttribute (Step.describe n.path ++ "[" ++ name ++ "]") true)
  | v => .error (.noAttribute v.kind name)

def listed (d : Document) (m : Node) (i : Nat) : Except DocumentFault Node :=
  (d.resolve m).bind fun found =>
    if found.value.isMissing then .error (.missingItem i) else .ok found

/-- What a value holds one after another: items, characters or keys. Each is looked at when
its turn comes. -/
def elements? (d : Document) (n : Node) : Option (List (Except DocumentFault Node)) :=
  match n.value with
  | .list _ => some (n.parts.zipIdx.map fun (m, i) => d.listed m i)
  | .text s => some (s.toList.map fun c => .ok { value := .text (String.singleton c) })
  | .record fields => some (fields.map fun field => .ok { value := .text field.1 })
  | _ => none

def elements (d : Document) (n : Node) : Except DocumentFault (List (Except DocumentFault Node)) :=
  match d.elements? n with
  | some list => .ok list
  | none => .error (.notIterable n.value.kind)

def items (d : Document) (n : Node) : Except DocumentFault (List Value) :=
  (d.elements n).bind fun list => (list.mapM id).map fun found => found.map Node.value

def whole (d : Document) : Nat → Node → Except DocumentFault Value
  | 0, _ => .error .tooDeep
  | fuel + 1, n =>
      let part (m : Node) : Except DocumentFault Value :=
        match d.resolve m with
        | .ok found => whole d fuel found
        | .error fault =>
            .error (if fault.isOfReference then fault.under (Step.describe m.path) n.isList
              else fault)
      match n.value with
      | .list _ => (n.parts.mapM part).map .list
      | .record fields =>
          (n.parts.mapM part).map fun values => .record ((fields.map Prod.fst).zip values)
      | v => .ok v

def entries (d : Document) (part : Section) (name : String) :
    Except DocumentFault (List (String × Value)) :=
  (d.field d.top name).bind fun n =>
    if !n.value.isContainer then .error (.notASection n.value.kind)
    else
      (d.whole d.enough n).bind fun v =>
        match v with
        | .record fields => .ok fields
        | _ => .error (.notAMapping part)

end Document
end Terrarium
