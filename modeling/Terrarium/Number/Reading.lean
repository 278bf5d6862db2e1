import Terrarium.Number.Binary64
import Terrarium.Text.Blank

/-!
Numbers read from text. Blanks around a number are skipped, a sign may stand before it,
and single underscores may stand inside it. A whole number may have a fraction of zeros.
-/

namespace Terrarium.Reading

inductive IntegerFault where
  | unreadable
  | tooLong
deriving DecidableEq

/-- The most characters that the sign and digits of a whole number may have. -/
def longestInteger : Nat := 4300

def natural (digits : List Char) : Nat :=
  digits.foldl (fun n c => 10 * n + (c.toNat - '0'.toNat)) 0

def sign : List Char → Bool × List Char
  | '-' :: rest => (true, rest)
  | '+' :: rest => (false, rest)
  | chars => (false, chars)

def signed? (chars : List Char) : Option Int :=
  let (negative, digits) := sign chars
  if digits.isEmpty || !digits.all Char.isDigit then none
  else some (if negative then -(natural digits : Int) else natural digits)

def startsNumber (c : Char) : Bool := c == '-' || (c.isDigit && c != '0')

/-- What follows zeros, the last of them kept where no other digit of the whole part
follows. A minus may stand behind them. -/
def afterZeros : Char → List Char → Option (List Char)
  | last, [] => some [last]
  | last, c :: rest =>
      if c = '0' ∨ c = '_' then afterZeros c rest
      else if startsNumber c then some (c :: rest)
      else if c = '.' then some (last :: c :: rest)
      else none

def dropZeros : List Char → Option (List Char)
  | [] => none
  | c :: rest =>
      if c = '0' then afterZeros c rest
      else if startsNumber c then some (c :: rest)
      else none

def dropFraction (chars : List Char) : List Char :=
  let (whole, rest) := chars.span (· != '.')
  match rest with
  | _ :: fraction => if !fraction.isEmpty && fraction.all (· == '0') then whole else chars
  | [] => chars

/-- The text without its underscores, each of which has a digit on both sides. -/
def joinDigits : List Char → Option (List Char)
  | [] => some []
  | c :: '_' :: d :: rest =>
      if c.isDigit && d.isDigit then (joinDigits (d :: rest)).map (c :: ·) else none
  | c :: rest => if c = '_' then none else (joinDigits rest).map (c :: ·)

def tidy (chars : List Char) : Option (List Char) :=
  let unsigned := match chars with
    | '+' :: '-' :: _ => none
    | '+' :: rest => some rest
    | _ => some chars
  (unsigned.bind dropZeros).bind fun chars => joinDigits (dropFraction chars)

def isTooLong (chars : List Char) : Bool :=
  longestInteger < (chars.takeWhile fun c => c.isDigit || c == '-').length

def integer (text : String) : Except IntegerFault Int :=
  let chars := Blank.trim text.toList
  let cleaned := (tidy chars).getD chars
  if isTooLong cleaned then .error .tooLong
  else
    match (signed? chars).or (signed? cleaned) with
    | some n => .ok n
    | none => .error .unreadable

def exponent? : List Char → Option Int
  | [] => some 0
  | c :: rest => if c = 'e' ∨ c = 'E' then signed? rest else none

/-- Digits with a point among them or at either end, and an exponent. -/
def decimal? (chars : List Char) : Option Binary64 :=
  let (whole, rest) := chars.span Char.isDigit
  let (fraction, rest) := match rest with
    | '.' :: after => after.span Char.isDigit
    | _ => ([], rest)
  if whole.isEmpty && fraction.isEmpty then none
  else
    (exponent? rest).map fun power =>
      Binary64.ofDecimal (natural (whole ++ fraction)) (power - fraction.length)

def unspaced? (chars : List Char) : Option Binary64 :=
  let (negative, chars) := sign chars
  let word := String.ofList (chars.map Char.toLower)
  let magnitude :=
    if word = "inf" ∨ word = "infinity" then some Binary64.infinity
    else if word = "nan" then some Binary64.notANumber
    else decimal? chars
  magnitude.map fun x => if negative then x.negate else x

def hasDoubleUnderscore : List Char → Bool
  | '_' :: '_' :: _ => true
  | _ :: rest => hasDoubleUnderscore rest
  | [] => false

/-- The text without its underscores, where it has some and they stand singly and inside. -/
def withoutUnderscores? (chars : List Char) : Option (List Char) :=
  if !chars.contains '_' || chars.head? == some '_' || chars.getLast? == some '_' ||
      hasDoubleUnderscore chars then none
  else some (chars.filter (· != '_'))

/-- A number with blanks around it, or one with underscores and no blanks. -/
def number? (text : String) : Option Binary64 :=
  (unspaced? (Blank.trim text.toList)).or
    ((withoutUnderscores? text.toList).bind unspaced?)

end Terrarium.Reading
