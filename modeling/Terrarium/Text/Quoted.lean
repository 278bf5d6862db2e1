import Terrarium.Text.Unprintable

/-!
Text quoted for a message, so that every character of it can be seen: the quote
is single unless only the double one avoids an escape, and what has no picture
is written by its code point.
-/

namespace Terrarium.Quoted

def hexDigits (width n : Nat) : List Char :=
  let digits := Nat.toDigits 16 n
  List.replicate (width - digits.length) '0' ++ digits

def codePoint (n : Nat) : List Char :=
  if n < 0x100 then '\\' :: 'x' :: hexDigits 2 n
  else if n < 0x10000 then '\\' :: 'u' :: hexDigits 4 n
  else '\\' :: 'U' :: hexDigits 8 n

def encodeChar (quote c : Char) : List Char :=
  if c = quote ∨ c = '\\' then ['\\', c]
  else if c = '\n' then ['\\', 'n']
  else if c = '\t' then ['\\', 't']
  else if c = '\r' then ['\\', 'r']
  else if Unprintable.holds c then codePoint c.toNat
  else [c]

def quoteFor (chars : List Char) : Char :=
  if chars.contains '\'' ∧ ¬ chars.contains '"' then '"' else '\''

def encode (text : String) : String :=
  let chars := text.toList
  let quote := quoteFor chars
  String.ofList (quote :: chars.flatMap (encodeChar quote) ++ [quote])

end Terrarium.Quoted
