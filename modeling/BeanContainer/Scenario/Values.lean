import BeanContainer.Bean.Type
/-!
# Values in scenarios

The types of beans that scenarios use, and how their values come about. Integers are kept in the range
of their type: results out of range wrap around. A constructor makes a content from a seed and from
parts, the number and the text that each bean it used contributed.
-/

namespace BeanContainer

namespace BeanType

def u8 : BeanType := plain "u8" (.integer 0)

def u64 : BeanType := plain "u64" (.integer 0)

def i32 : BeanType := plain "i32" (.integer 0)

def i64 : BeanType := plain "i64" (.integer 0)

def bool : BeanType := plain "bool" (.truth false)

def unit : BeanType := plain "()" .unit

def string : BeanType := plain "alloc::string::String" (.text "")

def str : BeanType := plain "&str" (.text "")

def integers : BeanType := plain "alloc::vec::Vec<i32>" (.integers [])

/-- A number that can be added to through a reference. -/
def counter : BeanType := plain "driver::Counter" (.integer 0)

end BeanType

namespace Scenario

/-- What a fetched bean contributes to the one under construction. -/
structure Part where
  number : Int
  text : String
  deriving DecidableEq, Repr

/-- What a construction starts from. -/
inductive Seed where
  | nothing
  | number (value : Int)
  | truth (value : Bool)
  | text (value : String)
  | items (values : List (Option Int))
  deriving DecidableEq, Repr

/-- The integer of the given number of bits, signed, that is congruent to the value. -/
def wrapSigned (bits : Nat) (value : Int) : Int :=
  value.bmod (Nat.pow 2 bits)

/-- The integer of the given number of bits, unsigned, that is congruent to the value. -/
def wrapUnsigned (bits : Nat) (value : Int) : Int :=
  value % Int.pow 2 bits

/-- The sum of the numbers. -/
def total (numbers : List Int) : Int :=
  numbers.foldr (· + ·) 0

/-- The value in the range of the integer type; other types leave it alone. -/
def wrap : BeanType → Int → Int
  | .shared inner, value => wrap inner value
  | type, value =>
    if type = .u8 then wrapUnsigned 8 value
    else if type = .u64 then wrapUnsigned 64 value
    else if type = .i32 ∨ type = .counter then wrapSigned 32 value
    else if type = .i64 then wrapSigned 64 value
    else value

namespace Seed

/-- The number of the seed, zero if it is none. -/
def toInt : Seed → Int
  | number value => value
  | _ => 0

/-- The truth of the seed, false if it is none. -/
def toBool : Seed → Bool
  | truth value => value
  | _ => false

/-- The text of the seed, empty if it is none. -/
def toText : Seed → String
  | text value => value
  | _ => ""

/-- The numbers of the seed, none if it is no list. -/
def toInts : Seed → List Int
  | items values => values.map (·.getD 0)
  | _ => []

end Seed

/-- The content as a number: texts and lists count their elements. -/
def numberOf : Content → Int
  | .integer value => wrapSigned 64 value
  | .truth value => if value then 1 else 0
  | .unit => 0
  | .text value => value.length
  | .integers values => values.length

/-- The content as a text. -/
def textOf : Content → String
  | .integer value => toString value
  | .truth value => if value then "true" else "false"
  | .unit => "()"
  | .text value => value
  | .integers values => ",".intercalate (values.map toString)

/-- The content as a part of another bean. -/
def partOf (content : Content) : Part :=
  ⟨numberOf content, textOf content⟩

/--
The content of the given type made from a seed and parts: numbers are added up, texts are appended,
a truth holds if the seed or any number does. A shared type has the content of what it shares.
-/
def contentOf (type : BeanType) (seed : Seed) (parts : List Part) : Content :=
  match type.default with
  | .truth _ => .truth (seed.toBool || parts.any (·.number != 0))
  | .unit => .unit
  | .text _ => .text (seed.toText ++ String.join (parts.map (·.text)))
  | .integers _ => .integers ((seed.toInts ++ parts.map (·.number)).map (wrapSigned 32))
  | .integer _ =>
    .integer (wrap type (wrapSigned 64 (seed.toInt + total (parts.map (·.number)))))

/-- The content with the amount added, for a counter. -/
def added (amount : Int) : Content → Content
  | .integer value => .integer (wrap .counter (value + amount))
  | content => content

end Scenario

end BeanContainer
