import BeanContainer.Text.Printable
/-!
# Quoted text

A text in quotes, as descriptions and string literals show it. What could not be read back safely is
escaped: quotes, backslashes, line ends, and every character that does not show on its own.
-/

namespace BeanContainer.Text

/-- The code point of the character in lower-case hexadecimal digits. -/
def hexDigits (c : Char) : String :=
  String.ofList (Nat.toDigits 16 c.toNat)

/-- The character inside quotes. An apostrophe needs no escape there. -/
def escapeChar (c : Char) : String :=
  if c == '\x00' then "\\0"
  else if c == '\t' then "\\t"
  else if c == '\r' then "\\r"
  else if c == '\n' then "\\n"
  else if c == '\\' then "\\\\"
  else if c == '"' then "\\\""
  else if isPrintable c && !isExtending c then c.toString
  else "\\u\x7b" ++ hexDigits c ++ "\x7d"

/-- The text in quotes. -/
def quoted (text : String) : String :=
  "\"" ++ String.join (text.toList.map escapeChar) ++ "\""

/--
The characters of a string literal between its quotes. A zero byte before an octal digit is written
with two digits, since the short form would take the digit for its own.
-/
def escapeLiteral : List Char → String
  | [] => ""
  | c :: rest =>
    let beforeOctal := match rest with
      | next :: _ => '0' ≤ next && next ≤ '7'
      | [] => false
    (if c == '\x00' && beforeOctal then "\\x00" else escapeChar c) ++ escapeLiteral rest

/-- The string literal that denotes the text. -/
def literal (text : String) : String :=
  "\"" ++ escapeLiteral text.toList ++ "\""

end BeanContainer.Text
