import Terrarium.Fault
import Terrarium.Number.Reading
import Terrarium.Settings.Basic

/-!
Values of a settings document made to fit the fields. A field takes what can stand for
its type without loss, and then only what keeps its bounds.
-/

namespace Terrarium.Coercion

def fitsWord (n : Int) : Bool := -0x8000000000000000 ≤ n && n < 0x8000000000000000

/-- Whole fractions are taken inside the range of a word, its least number excepted. -/
def wholeNumber (x : Binary64) : Except FieldFault Int :=
  if !x.isFinite then .error .notFinite
  else if !x.isWhole then .error .fractionalInteger
  else if fitsWord x.toInt && fitsWord (-x.toInt) then .ok x.toInt
  else .error .integerTooLong

def integer : Value → Except FieldFault Int
  | .int n => .ok n
  | .bool b => .ok (if b then 1 else 0)
  | .float x => wholeNumber x
  | .text s =>
      (Reading.integer s).mapError fun
        | .unreadable => .unreadableInteger
        | .tooLong => .integerTooLong
  | _ => .error .notAnInteger

def number : Value → Except FieldFault Binary64
  | .float x => .ok x
  | .int n =>
      match Binary64.ofInt? n with
      | some x => .ok x
      | none => .error .notANumber
  | .bool b => .ok (Binary64.ofRatio (if b then 1 else 0) 1)
  | .text s =>
      match Reading.number? s with
      | some x => .ok x
      | none => .error .unreadableNumber
  | _ => .error .notANumber

def yesWords : List String := ["1", "on", "t", "true", "y", "yes"]

def noWords : List String := ["0", "off", "f", "false", "n", "no"]

/-- Zero and one among the integers that fit a word; those beyond it are no truth at all. -/
def truth (n : Int) : Except FieldFault Bool :=
  if !fitsWord n then .error .notABoolean
  else if n = 0 then .ok false
  else if n = 1 then .ok true
  else .error .unreadableBoolean

def boolean : Value → Except FieldFault Bool
  | .bool b => .ok b
  | .int n => truth n
  | .float x =>
      match wholeNumber x with
      | .ok n => truth n
      | .error _ => .error .notABoolean
  | .text s =>
      let word := s.toLower
      if yesWords.contains word then .ok true
      else if noWords.contains word then .ok false
      else .error .unreadableBoolean
  | _ => .error .notABoolean

def choice {α : Type} (name : α → String) (first second : α) (v : Value) :
    Except FieldFault α :=
  match v with
  | .text s =>
      if s = name first then .ok first
      else if s = name second then .ok second
      else .error (.notAmong (name first) (name second))
  | _ => .error (.notAmong (name first) (name second))

def atLeast (bound : Nat) (n : Int) : Except FieldFault Nat :=
  if bound ≤ n then .ok n.toNat else .error (.below bound)

def positive (n : Int) : Except FieldFault Nat :=
  if 0 < n then .ok n.toNat else .error (.notAbove 0)

def within (low high : Nat) (n : Int) : Except FieldFault Nat :=
  if (high : Int) < n then .error (.above high) else atLeast low n

def nonnegative (x : Binary64) : Except FieldFault Binary64 :=
  if x.isNonnegative then .ok x else .error (.below 0)

def bounded {α : Type} (check : Int → Except FieldFault α) (v : Value) : Except FieldFault α :=
  match integer v with
  | .ok n => check n
  | .error fault => .error fault

def optional {α : Type} (read : Value → Except FieldFault α) :
    Value → Except FieldFault (Option α)
  | .null => .ok none
  | v => (read v).map some

end Terrarium.Coercion
