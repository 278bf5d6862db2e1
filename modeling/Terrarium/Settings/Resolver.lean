import Terrarium.Instruction.Table
import Terrarium.Settings.DocumentFault
import Terrarium.Settings.Node

/-!
What a reference can call. Each resolver says how many arguments it takes; those that need
nothing of the document but its environment are computed here.
-/

namespace Terrarium

inductive Resolver where
  | opcode
  | length
  | environment
  | select
  | decode
  | create
  | keys
  | values
  | deprecated
deriving DecidableEq

/-- What a term stands for: a part of a document, or a value made on the spot. -/
inductive Meaning where
  | part (n : Node)
  | made (v : Value)

namespace Meaning

def value : Meaning → Value
  | part n => n.value
  | made v => v

def kind : Meaning → String
  | part n => n.value.partKind
  | made v => v.kind

def className : Meaning → String
  | part ⟨.list _, _⟩ => "<class 'omegaconf.listconfig.ListConfig'>"
  | part ⟨.record _, _⟩ => "<class 'omegaconf.dictconfig.DictConfig'>"
  | meaning => "<class '" ++ meaning.kind ++ "'>"

def plain (meaning : Meaning) : String := meaning.value.plain

def ofNode (n : Node) : Meaning := if n.value.isContainer then part n else made n.value

end Meaning

namespace Resolver

def all : List Resolver :=
  [opcode, length, environment, select, decode, create, keys, values, deprecated]

def name : Resolver → String
  | opcode => "opcode"
  | length => "len"
  | environment => "oc.env"
  | select => "oc.select"
  | decode => "oc.decode"
  | create => "oc.create"
  | keys => "oc.dict.keys"
  | values => "oc.dict.values"
  | deprecated => "oc.deprecated"

def ofName? (text : String) : Option Resolver := all.find? fun resolver => resolver.name == text

def function : Resolver → String
  | opcode => "_opcode_resolver"
  | length => "register_resolvers.<locals>.<lambda>"
  | environment => "env"
  | select => "select"
  | decode => "decode"
  | create => "create"
  | keys => "dict_keys"
  | values => "dict_values"
  | deprecated => "deprecated"

def parameter : Resolver → String
  | opcode => "mnemonic"
  | length => "arr"
  | decode => "expr"
  | create => "obj"
  | _ => "key"

def mostArguments : Resolver → Nat
  | environment | select | deprecated => 2
  | _ => 1

def excess (resolver : Resolver) (count : Nat) : String :=
  match resolver with
  | opcode | length =>
      "takes 1 positional argument but " ++ toString count ++ " were given"
  | environment => "takes from 1 to 2 positional arguments but " ++ toString count ++ " were given"
  | select =>
      "takes from 1 to 2 positional arguments but " ++ toString count ++
        " positional arguments (and 1 keyword-only argument) were given"
  | deprecated =>
      "takes from 1 to 2 positional arguments but " ++ toString count ++
        " positional arguments (and 2 keyword-only arguments) were given"
  | decode | create => "got multiple values for argument '_parent_'"
  | keys | values =>
      "got multiple values for argument " ++ (if count = 2 then "'_root_'" else "'_parent_'")

def arguments (resolver : Resolver) (given : List Meaning) :
    Except DocumentFault (Meaning × List Meaning) :=
  match given with
  | [] => .error (.tooFewArguments resolver.function resolver.parameter)
  | first :: rest =>
      if resolver.mostArguments < given.length then
        .error (.tooManyArguments resolver.function (resolver.excess given.length))
      else .ok (first, rest)

def byteOf (mnemonic : Meaning) : Except DocumentFault Meaning :=
  match Instruction.byteOf mnemonic.plain with
  | .ok byte => .ok (.made (.int byte.toNat))
  | .error _ => .error (.unknownMnemonic mnemonic.plain)

def lengthOf (meaning : Meaning) : Except DocumentFault Meaning :=
  match meaning.value with
  | .list items => .ok (.made (.int items.length))
  | .record fields => .ok (.made (.int fields.length))
  | .text s => .ok (.made (.int s.length))
  | _ => .error (.lengthOf meaning.kind)

def checkDefault : Option Meaning → Except DocumentFault Unit
  | none => .ok ()
  | some meaning =>
      match meaning.value with
      | .null | .text _ => .ok ()
      | _ => .error (.defaultNotText meaning.plain meaning.kind)

def variableOf (environment : List (String × String)) (name : Meaning) (default? : Option Meaning) :
    Except DocumentFault Meaning :=
  (checkDefault default?).bind fun _ =>
    match name.value with
    | .text key =>
        match environment.lookup key, default? with
        | some text, _ => .ok (.made (.text text))
        | none, some default => .ok default
        | none, none => .error (.noVariable key)
    | _ => .error (.variableNotText name.kind)

/-- A container of its own. A text alone is a key without a value. -/
def created (n : Node) (meaning : Meaning) : Except DocumentFault Meaning :=
  match meaning.value with
  | .list _ | .record _ => .ok (.part ⟨meaning.value, n.above⟩)
  | .null => .ok (.made .null)
  | .text s => .ok (.part ⟨.record [(s, .null)], n.above⟩)
  | _ => .error (.notMadeOf meaning.kind)

end Resolver
end Terrarium
