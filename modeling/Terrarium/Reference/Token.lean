/-!
Text that refers to other parts of a document, cut into tokens. A reference opens with a
dollar sign and a brace, and holds a path or a call; the arguments of a call are values of
their own, among them quoted text, which may hold references again. Each of these has its
own rule for where a token ends, so a scan keeps the modes that it is inside of. Every
token is the longest that its mode allows.
-/

namespace Terrarium.Reference

inductive TokenKind where
  | finish
  | plain
  | escapedOpening
  | slashes
  | opening
  | braceOpen
  | braceClose
  | singleQuote
  | doubleQuote
  | comma
  | bracketOpen
  | bracketClose
  | colon
  | decimal
  | integer
  | truth
  | nothing
  | symbol
  | word
  | escape
  | blank
  | closing
  | dot
  | key
  | quoteEnd
  | quotedSlashes
  | unreadable
deriving DecidableEq

namespace TokenKind

def all : List TokenKind :=
  [finish, plain, escapedOpening, slashes, opening, braceOpen, braceClose, singleQuote,
    doubleQuote, comma, bracketOpen, bracketClose, colon, decimal, integer, truth, nothing,
    symbol, word, escape, blank, closing, dot, key, quoteEnd, quotedSlashes]

def label : TokenKind → String
  | finish => "<EOF>"
  | plain => "ANY_STR"
  | escapedOpening => "ESC_INTER"
  | slashes => "TOP_ESC"
  | opening => "INTER_OPEN"
  | braceOpen => "BRACE_OPEN"
  | braceClose => "BRACE_CLOSE"
  | singleQuote => "QUOTE_OPEN_SINGLE"
  | doubleQuote => "QUOTE_OPEN_DOUBLE"
  | comma => "COMMA"
  | bracketOpen => "BRACKET_OPEN"
  | bracketClose => "BRACKET_CLOSE"
  | colon => "COLON"
  | decimal => "FLOAT"
  | integer => "INT"
  | truth => "BOOL"
  | nothing => "NULL"
  | symbol => "UNQUOTED_CHAR"
  | word => "ID"
  | escape => "ESC"
  | blank => "WS"
  | closing => "INTER_CLOSE"
  | dot => "'.'"
  | key => "INTER_KEY"
  | quoteEnd => "MATCHING_QUOTE_CLOSE"
  | quotedSlashes => "QUOTED_ESC"
  | unreadable => ""

def listed (kinds : List TokenKind) : String :=
  match (all.filter kinds.contains).map label with
  | [only] => only
  | labels => "\x7b" ++ ", ".intercalate labels ++ "\x7d"

end TokenKind

/-- Text that cannot be read is one last token, whose text says why. -/
structure Token where
  kind : TokenKind
  text : String

inductive Mode where
  | text
  | path
  | arguments
  | quoted (quote : Char)

inductive Shift where
  | stay
  | enter (mode : Mode)
  | become (mode : Mode)
  | leave

structure Cut where
  kind : TokenKind
  length : Nat
  shift : Shift := .stay

/-! Parts of tokens: each function gives a length. -/

def isBlank (c : Char) : Bool := c == ' ' || c == '\t'

def run (holds : Char → Bool) (chars : List Char) : Nat := (chars.takeWhile holds).length

def blanks (chars : List Char) : Nat := run isBlank chars

def opens : List Char → Bool
  | '$' :: '\x7b' :: _ => true
  | _ => false

def cutOpening (chars : List Char) : Cut := ⟨.opening, 2 + blanks (chars.drop 2), .enter .path⟩

def digits : List Char → Nat
  | [] => 0
  | [c] => if c.isDigit then 1 else 0
  | c :: d :: rest =>
      if !c.isDigit then 0
      else if d != '_' then 1 + digits (d :: rest)
      else if (rest.headD '_').isDigit then 2 + digits rest
      else 1

def whole : List Char → Nat
  | '0' :: _ => 1
  | chars => digits chars

def isSign (c : Char) : Bool := c == '+' || c == '-'

def signs : List Char → Nat
  | c :: _ => if isSign c then 1 else 0
  | [] => 0

/-- A number with a point, which may stand at its end, or at its front before a digit. -/
def pointed (chars : List Char) : Nat :=
  let before := whole chars
  match chars.drop before with
  | '.' :: rest =>
      let after := digits rest
      if before = 0 && after = 0 then 0 else before + 1 + after
  | _ => 0

def power : List Char → Nat
  | c :: rest =>
      let sign := signs rest
      let after := digits (rest.drop sign)
      if (c == 'e' || c == 'E') && after != 0 then 1 + sign + after else 0
  | [] => 0

def oneOf (words : List String) (chars : List Char) : Nat :=
  (words.filterMap fun word =>
    if word.toList.isPrefixOf (chars.map Char.toLower) then some word.length else none).headD 0

def decimal (chars : List Char) : Nat :=
  let sign := signs chars
  let rest := chars.drop sign
  let mantissa := if pointed rest = 0 then whole rest else pointed rest
  let exponent := if mantissa = 0 then 0 else power (rest.drop mantissa)
  let number := if exponent = 0 then pointed rest else mantissa + exponent
  let body := max number (oneOf ["inf", "nan"] (rest.take 3))
  if body = 0 then 0 else sign + body

def integer (chars : List Char) : Nat :=
  let sign := signs chars
  let body := whole (chars.drop sign)
  if body = 0 then 0 else sign + body

def isSymbol (c : Char) : Bool := "/-\\+.$%*@?|".toList.contains c

def startsWord (c : Char) : Bool := c.isAlpha || c == '_'

def continuesWord (c : Char) : Bool := c.isAlphanum || c == '_' || c == '-'

def word : List Char → Nat
  | c :: rest => if startsWord c then 1 + run continuesWord rest else 0
  | [] => 0

def isEscaped (c : Char) : Bool := "\\()[]\x7b\x7d:=, \t".toList.contains c

def escapes : List Char → Nat
  | '\\' :: c :: rest => if isEscaped c then 2 + escapes rest else 0
  | _ => 0

/-- Backslashes count where they meet an opening or the quote: an odd number escapes it. -/
def cutText (quote : Option Char) (chars : List Char) : Option Cut :=
  match chars with
  | [] => none
  | c :: _ =>
      if c = '\\' then
        let count := run (· == '\\') chars
        let rest := chars.drop count
        if count % 2 = 0 then some ⟨if quote.isSome then .quotedSlashes else .slashes, count, .stay⟩
        else if opens rest then some ⟨.escapedOpening, count + 2, .stay⟩
        else if quote.isSome && rest.head? == quote then some ⟨.escape, count + 1, .stay⟩
        else some ⟨.plain, count, .stay⟩
      else if opens chars then some (cutOpening chars)
      else if c = '$' then some ⟨.plain, 1, .stay⟩
      else if some c = quote then some ⟨.quoteEnd, 1, .leave⟩
      else some ⟨.plain, run (fun c => c != '\\' && c != '$' && some c != quote) chars, .stay⟩

def isKeyChar (c : Char) : Bool := !("\\\x7b\x7d()[]:. \t'\"".toList.contains c)

def cutPath (chars : List Char) : Option Cut :=
  let space := blanks chars
  match chars.drop space with
  | ':' :: rest => some ⟨.colon, space + 1 + blanks rest, .become .arguments⟩
  | '\x7d' :: _ => some ⟨.closing, space + 1, .leave⟩
  | '.' :: _ => if space = 0 then some ⟨.dot, 1, .stay⟩ else none
  | '[' :: _ => if space = 0 then some ⟨.bracketOpen, 1, .stay⟩ else none
  | ']' :: _ => if space = 0 then some ⟨.bracketClose, 1, .stay⟩ else none
  | _ =>
      let length := run isKeyChar chars
      if opens chars then some (cutOpening chars)
      else if length = 0 then none
      else some ⟨if word chars = length then .word else .key, length, .stay⟩

def longest (cuts : List (TokenKind × Nat)) : Option Cut :=
  let length := cuts.foldl (fun n cut => max n cut.2) 0
  if length = 0 then none
  else (cuts.find? fun cut => cut.2 == length).map fun cut => ⟨cut.1, length, .stay⟩

def cutPrimitive (chars : List Char) : Option Cut :=
  longest [(.decimal, decimal chars), (.integer, integer chars),
    (.truth, oneOf ["true", "false"] (chars.take 5)), (.nothing, oneOf ["null"] (chars.take 4)),
    (.symbol, run isSymbol (chars.take 1)), (.word, word chars), (.escape, escapes chars)]

def cutArguments (chars : List Char) : Option Cut :=
  let space := blanks chars
  match chars.drop space with
  | ',' :: rest => some ⟨.comma, space + 1 + blanks rest, .stay⟩
  | ':' :: rest => some ⟨.colon, space + 1 + blanks rest, .stay⟩
  | '\x7d' :: _ => some ⟨.braceClose, space + 1, .leave⟩
  | ']' :: _ => some ⟨.bracketClose, space + 1, .stay⟩
  | _ =>
      if space ≠ 0 then some ⟨.blank, space, .stay⟩
      else
        match chars with
        | '\x7b' :: rest => some ⟨.braceOpen, 1 + blanks rest, .enter .arguments⟩
        | '[' :: rest => some ⟨.bracketOpen, 1 + blanks rest, .stay⟩
        | '\'' :: _ => some ⟨.singleQuote, 1, .enter (.quoted '\'')⟩
        | '"' :: _ => some ⟨.doubleQuote, 1, .enter (.quoted '"')⟩
        | _ => if opens chars then some (cutOpening chars) else cutPrimitive chars

def cut : Mode → List Char → Option Cut
  | .text, chars => cutText none chars
  | .quoted quote, chars => cutText (some quote) chars
  | .path, chars => cutPath chars
  | .arguments, chars => cutArguments chars

def showControl (c : Char) : List Char :=
  if c = '\n' then ['\\', 'n']
  else if c = '\r' then ['\\', 'r']
  else if c = '\t' then ['\\', 't']
  else [c]

def displayed (text : String) : String :=
  "'" ++ String.ofList (text.toList.flatMap showControl) ++ "'"

/-- The complaint about a character where no token goes on: it shows the blanks before it. -/
def unrecognised (chars : List Char) : Token :=
  ⟨.unreadable,
    "token recognition error at: " ++ displayed (String.ofList (chars.take (blanks chars + 1)))⟩

def scanFrom : Nat → Mode → List Mode → List Char → List Token
  | 0, _, _, _ => [⟨.finish, "<EOF>"⟩]
  | _, _, _, [] => [⟨.finish, "<EOF>"⟩]
  | fuel + 1, mode, outer, chars =>
      match cut mode chars with
      | none => [unrecognised chars]
      | some next =>
          let token : Token := ⟨next.kind, String.ofList (chars.take next.length)⟩
          let rest := chars.drop next.length
          match next.shift, outer with
          | .stay, _ => token :: scanFrom fuel mode outer rest
          | .enter inner, _ => token :: scanFrom fuel inner (mode :: outer) rest
          | .become other, _ => token :: scanFrom fuel other outer rest
          | .leave, back :: outer => token :: scanFrom fuel back outer rest
          | .leave, [] => [⟨.unreadable, "Empty Stack"⟩]

def scan (mode : Mode) (text : String) : List Token :=
  scanFrom text.length mode [] text.toList

end Terrarium.Reference
