import BeanContainer.Text.Identifier
/-!
# Literals

Where a literal ends that starts at the beginning of a text, if there is one: strings, byte strings
and C strings, plain or raw, characters and bytes, and numbers. A suffix belongs to the literal.
Each function gives what follows the literal.
-/

namespace BeanContainer.Source.Literal

open Text

/-- What is left of a text after something was found at its beginning. -/
abbrev Scan := List Char → Option (List Char)

/-- The value of a hexadecimal digit. -/
def hexValue? (c : Char) : Option Nat :=
  if '0' ≤ c && c ≤ '9' then some (c.toNat - '0'.toNat)
  else if 'a' ≤ c && c ≤ 'f' then some (c.toNat - 'a'.toNat + 10)
  else if 'A' ≤ c && c ≤ 'F' then some (c.toNat - 'A'.toNat + 10)
  else none

/-- Whether the character is a hexadecimal digit. -/
def isHexDigit (c : Char) : Bool :=
  (hexValue? c).isSome

/-- An identifier that is not raw. -/
def plainIdentifier : Scan
  | [] => none
  | first :: rest => if isIdentifierStart first then some (rest.dropWhile isIdentifierContinue) else none

/-- The text after the given beginning. -/
def after : List Char → Scan
  | [], text => some text
  | expected :: more, c :: rest => if c == expected then after more rest else none
  | _ :: _, [] => none

/-- A suffix, which may be missing. -/
def suffix (text : List Char) : List Char :=
  (plainIdentifier text).getD text

/-- What a quoted literal may hold. -/
structure Style where
  isAllowed : Char → Bool
  /-- The characters that may follow a backslash, except for those that take arguments. -/
  escapes : List Char
  /-- The two digits of a hexadecimal escape. -/
  isHexPair : Char → Char → Bool
  /-- The code points that an escape may denote. -/
  isCodePoint : Nat → Bool

/-- Texts. -/
def textStyle : Style where
  isAllowed _ := true
  escapes := ['n', 'r', 't', '\\', '\'', '"', '0']
  isHexPair first second := '0' ≤ first && first ≤ '7' && isHexDigit second
  isCodePoint _ := true

/-- Byte strings: only ASCII, and no code points. -/
def byteStyle : Style where
  isAllowed c := c.toNat < 0x80
  escapes := ['n', 'r', 't', '\\', '\'', '"', '0']
  isHexPair first second := isHexDigit first && isHexDigit second
  isCodePoint _ := false

/-- C strings: no zero, however written. -/
def terminatedStyle : Style where
  isAllowed c := c != '\x00'
  escapes := ['n', 'r', 't', '\\', '\'', '"']
  isHexPair first second :=
    isHexDigit first && isHexDigit second && !(first == '0' && second == '0')
  isCodePoint value := value != 0

/-- The digits of a code point and the closing brace: at most six digits, underscores not counted. -/
def codePoint (value digits : Nat) : List Char → Option (Nat × List Char)
  | [] => none
  | c :: rest =>
    match hexValue? c with
    | some digit => if digits = 6 then none else codePoint (value * 16 + digit) (digits + 1) rest
    | none =>
      if digits = 0 then none
      else if c == '_' then codePoint value digits rest
      else if c == '\x7d' && (value < 0xD800 || (0xE000 ≤ value && value < 0x110000)) then
        some (value, rest)
      else none

/-- The end of a line and the blanks that begin the next ones. A carriage return needs a line feed. -/
def lineContinuation : Scan
  | [] => none
  | '\r' :: '\n' :: rest => lineContinuation rest
  | '\r' :: _ => none
  | c :: rest =>
    if c == ' ' || c == '\t' || c == '\n' then lineContinuation rest else some (c :: rest)

/-- An escape, after its backslash, that stands for one character. -/
def characterEscape (style : Style) : Scan
  | 'x' :: first :: second :: rest => if style.isHexPair first second then some rest else none
  | 'u' :: '\x7b' :: rest =>
    match codePoint 0 0 rest with
    | some (value, rest) => if style.isCodePoint value then some rest else none
    | none => none
  | c :: rest => if style.escapes.contains c then some rest else none
  | [] => none

/-- An escape, after its backslash, in a string, where a line may be continued. -/
def stringEscape (style : Style) : Scan
  | '\n' :: rest => lineContinuation ('\n' :: rest)
  | '\r' :: rest => lineContinuation ('\r' :: rest)
  | text => characterEscape style text

/-- The rest of a string, after its first quote. It holds no more escapes than the bound. -/
def stringBody (style : Style) : Nat → Scan
  | 0, _ => none
  | _ + 1, [] => none
  | bound + 1, c :: rest =>
    if c == '"' then some rest
    else if c == '\r' then
      match rest with
      | '\n' :: rest => stringBody style bound rest
      | _ => none
    else if c == '\\' then
      match stringEscape style rest with
      | some rest => stringBody style bound rest
      | none => none
    else if style.isAllowed c then stringBody style bound rest
    else none

/-- A string with escapes, after its first quote. -/
def cooked (style : Style) (text : List Char) : Option (List Char) :=
  (stringBody style (text.length + 1) text).map suffix

/-- The rest of a raw string, which ends with a quote and the given number of hash marks. -/
def rawBody (isAllowed : Char → Bool) (hashes : Nat) : Scan
  | [] => none
  | '\r' :: '\n' :: rest => rawBody isAllowed hashes rest
  | '\r' :: _ => none
  | c :: rest =>
    if c == '"' && (rest.take hashes == List.replicate hashes '#') then some (rest.drop hashes)
    else if isAllowed c then rawBody isAllowed hashes rest
    else none

/-- A raw string, after the letters before it. There are at most 255 hash marks. -/
def raw (isAllowed : Char → Bool) (text : List Char) : Option (List Char) :=
  let hashes := (text.takeWhile (· == '#')).length
  match text.drop hashes with
  | '"' :: rest => if hashes ≤ 255 then (rawBody isAllowed hashes rest).map suffix else none
  | _ => none

/-- A string of any kind. -/
def string : Scan
  | '"' :: rest => cooked textStyle rest
  | 'r' :: rest => raw textStyle.isAllowed rest
  | 'b' :: '"' :: rest => cooked byteStyle rest
  | 'b' :: 'r' :: rest => raw byteStyle.isAllowed rest
  | 'c' :: '"' :: rest => cooked terminatedStyle rest
  | 'c' :: 'r' :: rest => raw terminatedStyle.isAllowed rest
  | _ => none

/-- A character in apostrophes, after the first one. -/
def quotedCharacter (style : Style) (text : List Char) : Option (List Char) :=
  let closing : List Char → Option (List Char)
    | '\'' :: rest => some (suffix rest)
    | _ => none
  match text with
  | '\\' :: rest => (characterEscape style rest).bind closing
  | c :: rest => if style.isAllowed c then closing rest else none
  | [] => none

/-- A character or a byte. -/
def character : Scan
  | '\'' :: rest => quotedCharacter textStyle rest
  | 'b' :: '\'' :: rest => quotedCharacter byteStyle rest
  | _ => none

/-- The text, if no identifier goes on there. -/
def wordBreak : Scan
  | [] => some []
  | c :: rest => if isIdentifierContinue c then none else some (c :: rest)

/-- The suffix of a number, after which the word must end. -/
def numberSuffix (text : List Char) : Option (List Char) :=
  wordBreak (suffix text)

/--
The digits of a decimal fraction before its exponent: whether they hold a point, and what follows. A
point that another point or an identifier follows belongs to something else.
-/
def fractionDigits (hasPoint : Bool) : List Char → Option (Bool × List Char)
  | [] => some (hasPoint, [])
  | '.' :: rest =>
    if hasPoint then some (true, '.' :: rest)
    else
      match rest with
      | [] => some (true, [])
      | c :: _ => if c == '.' || isIdentifierStart c then none else fractionDigits true rest
  | c :: rest =>
    if c.isDigit || c == '_' then fractionDigits hasPoint rest else some (hasPoint, c :: rest)

/-- An exponent after its letter, if it has a digit and at most one sign. -/
def exponent (hasSign hasDigit : Bool) : Scan
  | [] => if hasDigit then some [] else none
  | c :: rest =>
    if (c == '+' || c == '-') && !hasDigit then
      if hasSign then none else exponent true hasDigit rest
    else if c.isDigit then exponent hasSign true rest
    else if c == '_' then exponent hasSign hasDigit rest
    else if hasDigit then some (c :: rest)
    else none

/-- A decimal fraction: digits with a point, with an exponent, or with both. -/
def fraction (text : List Char) : Option (List Char) :=
  match text with
  | [] => none
  | first :: _ =>
    if !first.isDigit then none
    else
      match fractionDigits false text with
      | none => none
      | some (hasPoint, rest) =>
        match rest with
        | c :: more =>
          if c == 'e' || c == 'E' then
            match exponent false false more with
            | some rest => numberSuffix rest
            | none => if hasPoint then numberSuffix rest else none
          else if hasPoint then numberSuffix rest
          else none
        | [] => if hasPoint then some [] else none

/-- The digits of an integer in the given base: whether there is one at all, and what follows. -/
def integerDigits (base : Nat) (hasDigit : Bool) : List Char → Option (Bool × List Char)
  | [] => some (hasDigit, [])
  | c :: rest =>
    match hexValue? c with
    | some digit =>
      if digit < base then integerDigits base true rest
      else if c.isDigit then none
      else some (hasDigit, c :: rest)
    | none =>
      if c == '_' then
        if !hasDigit && base = 10 then none else integerDigits base hasDigit rest
      else some (hasDigit, c :: rest)

/-- The base of an integer, and its text without the sign of the base. -/
def integerBase : List Char → Nat × List Char
  | '0' :: 'x' :: rest => (16, rest)
  | '0' :: 'o' :: rest => (8, rest)
  | '0' :: 'b' :: rest => (2, rest)
  | text => (10, text)

/-- An integer. -/
def integer (text : List Char) : Option (List Char) :=
  let (base, digits) := integerBase text
  match integerDigits base false digits with
  | some (true, rest) => numberSuffix rest
  | _ => none

/-- A literal. -/
def scan (text : List Char) : Option (List Char) :=
  string text <|> character text <|> fraction text <|> integer text

/-- The value of an integer literal and its suffix; a fraction has none. -/
def integerValue? (text : String) : Option (Nat × String) :=
  let chars := text.toList
  if (fraction chars).isSome then none
  else
    let (base, digits) := integerBase chars
    match integerDigits base false digits with
    | some (true, rest) =>
      let digits := digits.take (digits.length - rest.length)
      let value := (digits.filterMap hexValue?).foldl (fun value digit => value * base + digit) 0
      some (value, String.ofList rest)
    | _ => none

/-- Whether the literal is a number. -/
def isNumber (text : String) : Bool :=
  (text.toList.head?.map Char.isDigit).getD false

/-- Whether the literal is a text. -/
def isText (text : String) : Bool :=
  match text.toList with
  | '"' :: _ | 'r' :: _ => true
  | _ => false

end BeanContainer.Source.Literal
