import BeanContainer.Source.Forest
import BeanContainer.Source.Literal
import BeanContainer.Text.Blank
import BeanContainer.Text.Quoted
/-!
# From text to tokens

White space and comments separate tokens. Documentation comments are attributes in another spelling.
Brackets must match.
-/

namespace BeanContainer.Source.Lexer

open Text

/-- A block comment, comments inside it included, after the given number of openings. -/
def blockComment (depth : Nat) : List Char → Option (List Char)
  | '/' :: '*' :: rest => blockComment (depth + 1) rest
  | '*' :: '/' :: rest =>
    match depth with
    | 0 | 1 => some rest
    | depth => blockComment (depth - 1) rest
  | _ :: rest => blockComment depth rest
  | [] => none

/-- The text of the line, and what follows from its end on. -/
def line : List Char → List Char × List Char
  | [] => ([], [])
  | '\n' :: rest => ([], '\n' :: rest)
  | '\r' :: '\n' :: rest => ([], '\n' :: rest)
  | c :: rest =>
    let (text, rest) := line rest
    (c :: text, rest)

/--
A comment that documents nothing. Four slashes or three stars do not start a documentation comment.
-/
def comment? : List Char → Option (List Char)
  | '/' :: '/' :: '/' :: '/' :: rest => some (line rest).2
  | '/' :: '/' :: '/' :: _ | '/' :: '/' :: '!' :: _ => none
  | '/' :: '/' :: rest => some (line rest).2
  | '/' :: '*' :: '*' :: '/' :: rest => some rest
  | '/' :: '*' :: '*' :: '*' :: rest => blockComment 1 ('*' :: '*' :: rest)
  | '/' :: '*' :: '*' :: _ | '/' :: '*' :: '!' :: _ => none
  | '/' :: '*' :: rest => blockComment 1 rest
  | _ => none

/-- The text without the white space and the comments that it starts with. -/
def skipBlanks : Nat → List Char → List Char
  | 0, text => text
  | bound + 1, text =>
    match comment? text with
    | some rest => skipBlanks bound rest
    | none =>
      match text with
      | c :: rest => if isBlank c then skipBlanks bound rest else text
      | [] => []

/-- A documentation comment: whether it belongs to what encloses it, its text, and what follows. -/
def documentation? (text : List Char) : Option (Bool × List Char × List Char) :=
  let block (isInner : Bool) (body : List Char) : Option (Bool × List Char × List Char) :=
    (blockComment 1 body).map fun rest =>
      (isInner, body.take (body.length - rest.length - 2), rest)
  let onLine (isInner : Bool) (body : List Char) : Option (Bool × List Char × List Char) :=
    let (text, rest) := line body
    some (isInner, text, rest)
  match text with
  | '/' :: '/' :: '!' :: body => onLine true body
  | '/' :: '*' :: '!' :: body => block true body
  | '/' :: '/' :: '/' :: body =>
    match body with
    | '/' :: _ => none
    | body => onLine false body
  | '/' :: '*' :: '*' :: body =>
    match body with
    | '*' :: _ => none
    | body => block false body
  | _ => none

/-- Whether every carriage return is followed by a line feed. -/
def hasOnlyWholeLineEnds : List Char → Bool
  | [] => true
  | '\r' :: '\n' :: rest => hasOnlyWholeLineEnds rest
  | '\r' :: _ => false
  | _ :: rest => hasOnlyWholeLineEnds rest

/-- The attribute that a documentation comment stands for. -/
def documentationForest (isInner : Bool) (text : List Char) (rest : Forest) : Forest :=
  let content := .leaf (.identifier ⟨false, "doc"⟩) <| .leaf (.mark '=' false) <|
    .leaf (.literal (literal (String.ofList text))) .nil
  let body := .group .brackets content rest
  .leaf (.mark '#' false) (if isInner then .leaf (.mark '!' false) body else body)

/-- The punctuation marks. -/
def marks : List Char :=
  ['~', '!', '@', '#', '$', '%', '^', '&', '*', '-', '=', '+', '|', ';', ':', ',', '<', '.', '>',
    '/', '?', '\'']

/-- A punctuation mark at the beginning of the text. The slash of a comment is none. -/
def mark? : List Char → Option (Char × List Char)
  | '/' :: '/' :: _ | '/' :: '*' :: _ => none
  | c :: rest => if marks.contains c then some (c, rest) else none
  | [] => none

/-- An identifier at the beginning of the text, raw or not. -/
def anyIdentifier? (text : List Char) : Option (Identifier × List Char) :=
  let plain (isRaw : Bool) (text : List Char) : Option (Identifier × List Char) :=
    (Literal.plainIdentifier text).map fun rest =>
      (⟨isRaw, String.ofList (text.take (text.length - rest.length))⟩, rest)
  match text with
  | 'r' :: '#' :: rest =>
    match plain true rest with
    | some (identifier, rest) =>
      if ["_", "super", "self", "Self", "crate"].contains identifier.name then none
      else some (identifier, rest)
    | none => none
  | text => plain false text

/-- The beginnings of quoted literals, which no identifier may look like. -/
def literalBeginnings : List String :=
  ["r\"", "r#\"", "r##", "b\"", "b'", "br\"", "br#", "c\"", "cr\"", "cr#"]

/-- An identifier at the beginning of the text that is no beginning of a literal. -/
def identifier? (text : List Char) : Option (Identifier × List Char) :=
  if literalBeginnings.any fun beginning => beginning.toList.isPrefixOf text then none
  else anyIdentifier? text

/--
An apostrophe that starts a lifetime: an identifier follows it, and no second apostrophe. It is joint
with the identifier.
-/
def startsLifetime (rest : List Char) : Bool :=
  match anyIdentifier? rest with
  | none => false
  | some (identifier, after) =>
    match after with
    | '\'' :: _ => false
    | '#' :: _ => identifier.isRaw
    | _ => true

/-- A token at the beginning of the text. -/
def token? (text : List Char) : Option (Token × List Char) :=
  match Literal.scan text with
  | some rest =>
    some (.literal (String.ofList (text.take (text.length - rest.length))), rest)
  | none =>
    let named := (identifier? text).map fun found => (Token.identifier found.1, found.2)
    match mark? text with
    | some ('\'', rest) => if startsLifetime rest then some (.mark '\'' true, rest) else named
    | some (c, rest) => some (.mark c (mark? rest).isSome, rest)
    | none => named

/-- The left bracket at the beginning of the text. -/
def opening? : List Char → Option (Delimiter × List Char)
  | '(' :: rest => some (.parentheses, rest)
  | '[' :: rest => some (.brackets, rest)
  | '\x7b' :: rest => some (.braces, rest)
  | _ => none

/-- The right bracket at the beginning of the text. -/
def closing? : List Char → Option (Delimiter × List Char)
  | ')' :: rest => some (.parentheses, rest)
  | ']' :: rest => some (.brackets, rest)
  | '\x7d' :: rest => some (.braces, rest)
  | _ => none

/-- A comment that stands for an error of the compiler, and counts as a literal. -/
def errorLiteral : String := "(/*ERROR*/)"

/-- The forest up to the given bracket or the end of the text, and what follows. -/
def forest : Nat → Option Delimiter → List Char → Option (Forest × List Char)
  | 0, _, _ => none
  | bound + 1, enclosing, text =>
    let text := skipBlanks text.length text
    match documentation? text with
    | some (isInner, body, rest) =>
      if hasOnlyWholeLineEnds body then
        (forest bound enclosing rest).map fun (more, rest) =>
          (documentationForest isInner body more, rest)
      else none
    | none =>
      if errorLiteral.toList.isPrefixOf text then
        (forest bound enclosing (text.drop errorLiteral.length)).map fun (more, rest) =>
          (.leaf (.literal errorLiteral) more, rest)
      else
        match text with
        | [] => if enclosing.isNone then some (.nil, []) else none
        | text =>
          match opening? text, closing? text with
          | some (delimiter, rest), _ =>
            match forest bound (some delimiter) rest with
            | none => none
            | some (content, rest) =>
              (forest bound enclosing rest).map fun (more, rest) =>
                (.group delimiter content more, rest)
          | none, some (delimiter, rest) =>
            if enclosing = some delimiter then some (.nil, rest) else none
          | none, none =>
            match token? text with
            | none => none
            | some (token, rest) =>
              (forest bound enclosing rest).map fun (more, rest) => (.leaf token more, rest)

/-- The text without a byte order mark. -/
def withoutOrderMark : List Char → List Char
  | '\ufeff' :: rest => rest
  | text => text

end Lexer

/-- The forest of tokens of a text, if it is made of tokens and its brackets match. -/
def Forest.ofText? (text : String) : Option Forest :=
  let chars := Lexer.withoutOrderMark text.toList
  match Lexer.forest (chars.length + 1) none chars with
  | some (forest, _) => some forest
  | none => none

end BeanContainer.Source
