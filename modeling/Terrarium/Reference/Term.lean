import Terrarium.Number.Reading
import Terrarium.Reference.Token
import Terrarium.Settings.Value

/-!
What a text that refers to other parts of a document means: a tree of constants, paths and
calls, read from its tokens without looking back. Where a token does not fit, the complaint
says what was found and what could have stood there.
-/

namespace Terrarium.Reference

mutual
inductive Term where
  | constant (v : Value)
  | joined (parts : List Term)
  | list (items : List Term)
  | record (entries : List (String × Term))
  | path (parts : List Part)
  | call (name : List Part) (arguments : List Term)

/-- A part of a path or of a name: said outright, or given by a reference, which is kept
as it is written. -/
inductive Part where
  | said (text : String)
  | given (reference : Term) (written : String)
end

/-- What is wrong, and the tokens from the one on that does not fit. -/
structure Complaint where
  message : String
  rest : List Token

abbrev Reader (α : Type) := List Token → Except Complaint (α × List Token)

/-- The token at the front. A text that cannot be read on is a complaint as soon as it is
looked at. -/
def current : List Token → Except Complaint Token
  | [] => .ok ⟨.finish, TokenKind.finish.label⟩
  | token :: rest =>
      if token.kind = .unreadable then .error ⟨token.text, token :: rest⟩ else .ok token

def second (tokens : List Token) : Except Complaint Token :=
  match tokens with
  | _ :: next :: rest => current (next :: rest)
  | _ => current tokens

def front (tokens : List Token) : String :=
  match tokens with
  | token :: _ => displayed token.text
  | [] => displayed TokenKind.finish.label

def extraneous (expected : List TokenKind) (tokens : List Token) : Complaint :=
  ⟨"extraneous input " ++ front tokens ++ " expecting " ++ TokenKind.listed expected, tokens⟩

def mismatched (expected : List TokenKind) (tokens : List Token) : Complaint :=
  ⟨"mismatched input " ++ front tokens ++ " expecting " ++ TokenKind.listed expected, tokens⟩

/-- A token that does not fit is one too many if the next one would fit. -/
def refuse (expected : List TokenKind) (tokens : List Token) : Complaint :=
  match second tokens with
  | .error complaint => complaint
  | .ok next =>
      if expected.contains next.kind then extraneous expected tokens
      else mismatched expected tokens

/-- Takes one token of a kind. If it is not there but what may follow it is, it is missing. -/
def expect (kind : TokenKind) (follow : List TokenKind) : Reader Token := fun tokens =>
  match current tokens with
  | .error complaint => .error complaint
  | .ok token =>
      if token.kind = kind then .ok (token, tokens.tail)
      else
        match second tokens with
        | .error complaint => .error complaint
        | .ok next =>
            if next.kind = kind then .error (extraneous [kind] tokens)
            else if follow.contains token.kind then
              .error ⟨"missing " ++ kind.label ++ " at " ++ front tokens, tokens⟩
            else .error (mismatched [kind] tokens)

def written (tokens : List Token) : String := String.join (tokens.map Token.text)

def between (start stop : List Token) : String := written (start.take (start.length - stop.length))

/-- The complaint about a reference that is neither a path nor a call. It is looked for in
the whole text, so what cannot be read further on comes first. -/
def noAlternative (start stop : List Token) : Complaint :=
  match start.getLast? with
  | some ⟨.unreadable, message⟩ => ⟨message, stop⟩
  | _ =>
      let shown := start.take (start.length - stop.length + 1)
      let said := written (shown.filter fun token => token.kind ≠ .finish)
      ⟨"no viable alternative at input " ++ displayed said, stop⟩

def keyStarts : List TokenKind := [.opening, .word, .key]

def pathStarts : List TokenKind := [.bracketOpen, .dot] ++ keyStarts

def pathFollow : List TokenKind := [.bracketOpen, .closing, .dot]

def dictionaryKeys : List TokenKind :=
  [.decimal, .integer, .truth, .nothing, .symbol, .word, .escape, .blank]

def primitives : List TokenKind := [.opening, .colon] ++ dictionaryKeys

def elementStarts : List TokenKind :=
  [.braceOpen, .singleQuote, .doubleQuote, .bracketOpen] ++ primitives

def textKinds : List TokenKind :=
  [.plain, .escapedOpening, .slashes, .opening, .escape, .quotedSlashes]

def everySecond : List Char → List Char
  | _ :: c :: rest => c :: everySecond rest
  | _ => []

def unescape (text : String) : String := String.ofList (everySecond text.toList)

/-- The opening that backslashes keep from being one, behind half of those before it. -/
def unescapeOpening (text : String) : String :=
  let chars := text.toList
  String.ofList (chars.drop (chars.length - (chars.length / 2 + 1)))

def withoutMarks (text : String) : String := String.ofList (text.toList.filter (· != '_'))

def constantOf (token : Token) : Value :=
  match token.kind with
  | .nothing => .null
  | .truth => .bool (token.text.toLower == "true")
  | .integer => .int ((Reading.signed? (withoutMarks token.text).toList).getD 0)
  | .decimal =>
      .float ((Reading.unspaced? (withoutMarks token.text).toList).getD Binary64.notANumber)
  | .escape => .text (unescape token.text)
  | _ => .text token.text

def saidBy (token : Token) : String :=
  if token.kind = .escape then unescape token.text else token.text

def keyName : List Token → String
  | [only] => (constantOf only).plain
  | several => String.join (several.map saidBy)

/-- The text of a token of a text. Backslashes stand for half as many right before a
reference, and in quotes also at the end. -/
def textOf (token next : Token) : Term :=
  .constant (.text (match token.kind with
    | .escapedOpening => unescapeOpening token.text
    | .escape => unescape token.text
    | .slashes => if next.kind = .opening then unescape token.text else token.text
    | .quotedSlashes =>
        if next.kind = .opening ∨ ¬ textKinds.contains next.kind then unescape token.text
        else token.text
    | _ => token.text))

def gather : List Term → Term
  | [only] => only
  | parts => .joined parts

/-! Reading terms. A reading never goes deeper than its fuel, which is made to suffice. -/

/-- Never met: the fuel outlasts every reading. -/
def exhausted (tokens : List Token) : Complaint := ⟨"maximum recursion depth exceeded", tokens⟩

mutual
def readReference : Nat → List TokenKind → Reader Term
  | 0, _, tokens => .error (exhausted tokens)
  | fuel + 1, follow, tokens =>
      match current tokens.tail with
      | .error complaint => .error complaint
      | .ok token =>
          if [TokenKind.dot, .bracketOpen, .key].contains token.kind then
            readPath fuel [] tokens.tail
          else readName fuel follow tokens [] tokens.tail

def readName : Nat → List TokenKind → List Token → List Part → Reader Term
  | 0, _, _, _, tokens => .error (exhausted tokens)
  | fuel + 1, follow, start, parts, tokens =>
      match current tokens with
      | .error complaint => .error complaint
      | .ok token =>
          match token.kind with
          | .word => readAfterName fuel follow start (parts ++ [.said token.text]) tokens.tail
          | .opening =>
              match readReference fuel [] tokens with
              | .error complaint => .error (noAlternative start complaint.rest)
              | .ok (reference, rest) =>
                  readAfterName fuel follow start
                    (parts ++ [.given reference (between tokens rest)]) rest
          | .key =>
              if parts.isEmpty then .error (noAlternative start tokens)
              else readSteps fuel true (parts ++ [.said token.text]) tokens.tail
          | _ => .error (noAlternative start tokens)

def readAfterName : Nat → List TokenKind → List Token → List Part → Reader Term
  | 0, _, _, _, tokens => .error (exhausted tokens)
  | fuel + 1, follow, start, parts, tokens =>
      match current tokens with
      | .error complaint => .error complaint
      | .ok token =>
          match token.kind with
          | .dot => readName fuel follow start (parts ++ [.said "."]) tokens.tail
          | .colon => readCall fuel follow parts tokens.tail
          | .bracketOpen | .closing => readSteps fuel false parts tokens
          | _ => .error (noAlternative start tokens)

def readPath : Nat → List Part → Reader Term
  | 0, _, tokens => .error (exhausted tokens)
  | fuel + 1, parts, tokens =>
      match current tokens with
      | .error complaint => .error complaint
      | .ok token =>
          if token.kind = .dot then
            match current tokens.tail with
            | .error complaint => .error complaint
            | .ok next =>
                if pathStarts.contains next.kind then
                  readPath fuel (parts ++ [.said "."]) tokens.tail
                else .error (extraneous pathStarts tokens.tail)
          else
            let first : Except Complaint (List Part × List Token) :=
              if token.kind = .bracketOpen then readBracket fuel tokens
              else (readKey fuel pathFollow tokens).map fun (key, rest) => ([key], rest)
            match first with
            | .error complaint => .error complaint
            | .ok (key, rest) => readSteps fuel false (parts ++ key) rest

def readKey : Nat → List TokenKind → Reader Part
  | 0, _, tokens => .error (exhausted tokens)
  | fuel + 1, follow, tokens =>
      match current tokens with
      | .error complaint => .error complaint
      | .ok token =>
          match token.kind with
          | .word | .key => .ok (.said token.text, tokens.tail)
          | .opening =>
              (readReference fuel follow tokens).map fun (reference, rest) =>
                (.given reference (between tokens rest), rest)
          | _ => .error (refuse keyStarts tokens)

def readBracket : Nat → Reader (List Part)
  | 0, tokens => .error (exhausted tokens)
  | fuel + 1, tokens =>
      match readKey fuel [.bracketClose] tokens.tail with
      | .error complaint => .error complaint
      | .ok (key, rest) =>
          (expect .bracketClose pathFollow rest).map fun (_, rest) =>
            ([.said "[", key, .said "]"], rest)

def readSteps : Nat → Bool → List Part → Reader Term
  | 0, _, _, tokens => .error (exhausted tokens)
  | fuel + 1, again, parts, tokens =>
      match current tokens with
      | .error complaint => .error complaint
      | .ok token =>
          match token.kind with
          | .closing => .ok (.path parts, tokens.tail)
          | .dot =>
              match readKey fuel pathFollow tokens.tail with
              | .error complaint => .error complaint
              | .ok (key, rest) => readSteps fuel true (parts ++ [.said ".", key]) rest
          | .bracketOpen =>
              match readBracket fuel tokens with
              | .error complaint => .error complaint
              | .ok (key, rest) => readSteps fuel true (parts ++ key) rest
          | _ => .error (if again then extraneous pathFollow tokens else refuse pathFollow tokens)

def readCall : Nat → List TokenKind → List Part → Reader Term
  | 0, _, _, tokens => .error (exhausted tokens)
  | fuel + 1, follow, name, tokens =>
      match readSequence fuel .braceClose tokens with
      | .error complaint => .error complaint
      | .ok (arguments, rest) =>
          (expect .braceClose follow rest).map fun (_, rest) => (.call name arguments, rest)

def readSequence : Nat → TokenKind → Reader (List Term)
  | 0, _, tokens => .error (exhausted tokens)
  | fuel + 1, stop, tokens =>
      match current tokens with
      | .error complaint => .error complaint
      | .ok token =>
          if token.kind = stop then .ok ([], tokens)
          else if token.kind = .comma ∨ elementStarts.contains token.kind then
            readElements fuel stop true tokens
          else .error (refuse (.comma :: stop :: elementStarts) tokens)

/-- The rest of a sequence; `due` when an element may come next. One that is left out is
empty text. -/
def readElements : Nat → TokenKind → Bool → Reader (List Term)
  | 0, _, _, tokens => .error (exhausted tokens)
  | fuel + 1, stop, due, tokens =>
      let empty : List Term := if due then [.constant (.text "")] else []
      match current tokens with
      | .error complaint => .error complaint
      | .ok token =>
          if token.kind = .comma then
            (readElements fuel stop true tokens.tail).map fun (more, rest) => (empty ++ more, rest)
          else if due ∧ elementStarts.contains token.kind then
            match readElement fuel [.comma, stop] tokens with
            | .error complaint => .error complaint
            | .ok (element, rest) =>
                (readElements fuel stop false rest).map fun (more, rest) => (element :: more, rest)
          else .ok (empty, tokens)

def readElement : Nat → List TokenKind → Reader Term
  | 0, _, tokens => .error (exhausted tokens)
  | fuel + 1, follow, tokens =>
      match current tokens with
      | .error complaint => .error complaint
      | .ok token =>
          match token.kind with
          | .singleQuote | .doubleQuote => readQuoted fuel follow tokens.tail
          | .bracketOpen =>
              match readSequence fuel .bracketClose tokens.tail with
              | .error complaint => .error complaint
              | .ok (items, rest) =>
                  (expect .bracketClose follow rest).map fun (_, rest) => (.list items, rest)
          | .braceOpen =>
              match readRecord fuel tokens.tail with
              | .error complaint => .error complaint
              | .ok (entries, rest) =>
                  (expect .braceClose follow rest).map fun (_, rest) => (.record entries, rest)
          | kind =>
              if !primitives.contains kind then .error (refuse elementStarts tokens)
              else
                (readPrimitive fuel follow tokens).map fun (parts, rest) =>
                  (if parts.length = 1 ∧ kind ≠ .opening then .constant (constantOf token)
                    else gather parts, rest)

def readPrimitive : Nat → List TokenKind → Reader (List Term)
  | 0, _, tokens => .error (exhausted tokens)
  | fuel + 1, follow, tokens =>
      match current tokens with
      | .error complaint => .error complaint
      | .ok token =>
          if !primitives.contains token.kind then .ok ([], tokens)
          else
            let first : Except Complaint (Term × List Token) :=
              if token.kind = .opening then readReference fuel (primitives ++ follow) tokens
              else .ok (.constant (.text (saidBy token)), tokens.tail)
            match first with
            | .error complaint => .error complaint
            | .ok (part, rest) =>
                (readPrimitive fuel follow rest).map fun (more, rest) => (part :: more, rest)

def readQuoted : Nat → List TokenKind → Reader Term
  | 0, _, tokens => .error (exhausted tokens)
  | fuel + 1, follow, tokens =>
      match current tokens with
      | .error complaint => .error complaint
      | .ok token =>
          if token.kind = .finish then .error (refuse (.quoteEnd :: textKinds) tokens)
          else
            match readText fuel (.quoteEnd :: textKinds) tokens with
            | .error complaint => .error complaint
            | .ok (parts, rest) =>
                (expect .quoteEnd follow rest).map fun (_, rest) => (.joined parts, rest)

def readText : Nat → List TokenKind → Reader (List Term)
  | 0, _, tokens => .error (exhausted tokens)
  | fuel + 1, follow, tokens =>
      match current tokens with
      | .error complaint => .error complaint
      | .ok token =>
          if !textKinds.contains token.kind then .ok ([], tokens)
          else
            let first : Except Complaint (Term × List Token) :=
              if token.kind = .opening then readReference fuel follow tokens
              else
                (current tokens.tail).map fun next => (textOf token next, tokens.tail)
            match first with
            | .error complaint => .error complaint
            | .ok (part, rest) =>
                (readText fuel follow rest).map fun (more, rest) => (part :: more, rest)

def readRecord : Nat → Reader (List (String × Term))
  | 0, tokens => .error (exhausted tokens)
  | fuel + 1, tokens =>
      match current tokens with
      | .error complaint => .error complaint
      | .ok token =>
          if token.kind = .braceClose then .ok ([], tokens)
          else if dictionaryKeys.contains token.kind then readEntries fuel false tokens
          else .error (refuse (.braceClose :: dictionaryKeys) tokens)

def readEntries : Nat → Bool → Reader (List (String × Term))
  | 0, _, tokens => .error (exhausted tokens)
  | fuel + 1, again, tokens =>
      match readEntry fuel tokens with
      | .error complaint => .error complaint
      | .ok (entry, rest) =>
          match current rest with
          | .error complaint => .error complaint
          | .ok token =>
              match token.kind with
              | .braceClose => .ok ([entry], rest)
              | .comma =>
                  (readEntries fuel true rest.tail).map fun (more, rest) => (entry :: more, rest)
              | _ =>
                  let expected : List TokenKind := [.braceClose, .comma]
                  .error (if again then extraneous expected rest else refuse expected rest)

def readEntry : Nat → Reader (String × Term)
  | 0, tokens => .error (exhausted tokens)
  | fuel + 1, tokens =>
      let key := tokens.takeWhile fun token => dictionaryKeys.contains token.kind
      if key.isEmpty then .error (refuse dictionaryKeys tokens)
      else
        match expect .colon elementStarts (tokens.drop key.length) with
        | .error complaint => .error complaint
        | .ok (_, rest) =>
            (readElement fuel [.comma, .braceClose] rest).map fun (element, rest) =>
              ((keyName key, element), rest)
end

/-- Enough for every reading of so many tokens: between two tokens taken, no more than six
readers go inside each other. -/
def enough (tokens : List Token) : Nat := 8 * (tokens.length + 1)

def readWhole (text : String) : Except String Term :=
  let tokens := scan .text text
  match readText (enough tokens) (.finish :: textKinds) tokens with
  | .error complaint => .error complaint.message
  | .ok (parts, rest) =>
      match expect .finish [] rest with
      | .error complaint => .error complaint.message
      | .ok _ => .ok (gather parts)

def readArgument (text : String) : Except String Term :=
  let tokens := scan .arguments text
  match readElement (enough tokens) [.finish] tokens with
  | .error complaint => .error complaint.message
  | .ok (element, rest) =>
      match expect .finish [] rest with
      | .error complaint => .error complaint.message
      | .ok _ => .ok element

end Terrarium.Reference
