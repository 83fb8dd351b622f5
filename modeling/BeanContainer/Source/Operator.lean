/-!
# Operators

How tightly operators bind, and the operators between two operands.
-/

namespace BeanContainer.Source

/-- How tightly an operator binds, from the loosest to the tightest. -/
abbrev Precedence := Nat

namespace Precedence

/-- Words such as `return`, which take all that follows. -/
def jump : Precedence := 0
def assignment : Precedence := 1
def range : Precedence := 2
def disjunction : Precedence := 3
def conjunction : Precedence := 4
/-- The match of a pattern as a condition. -/
def matching : Precedence := 5
def comparison : Precedence := 6
def cast : Precedence := 13
def prefixed : Precedence := 14
/-- What no operator can take apart. -/
def closed : Precedence := 15

end Precedence

/-- An operator between two operands. -/
structure Operator where
  text : String
  precedence : Precedence
  deriving DecidableEq, Repr

namespace Operator

/-- The assignment of a value. -/
def assign : Operator := ⟨"=", Precedence.assignment⟩

/-- All operators but the plain assignment; longer ones come first. -/
def all : List Operator :=
  [⟨"+=", 1⟩, ⟨"-=", 1⟩, ⟨"*=", 1⟩, ⟨"/=", 1⟩, ⟨"%=", 1⟩, ⟨"^=", 1⟩, ⟨"&=", 1⟩, ⟨"|=", 1⟩,
    ⟨"<<=", 1⟩, ⟨">>=", 1⟩, ⟨"&&", 4⟩, ⟨"||", 3⟩, ⟨"<<", 10⟩, ⟨">>", 10⟩, ⟨"==", 6⟩, ⟨"<=", 6⟩,
    ⟨"!=", 6⟩, ⟨">=", 6⟩, ⟨"+", 11⟩, ⟨"-", 11⟩, ⟨"*", 12⟩, ⟨"/", 12⟩, ⟨"%", 12⟩, ⟨"^", 8⟩, ⟨"&", 9⟩,
    ⟨"|", 7⟩, ⟨"<", 6⟩, ⟨">", 6⟩]

/-- Whether an expression could begin where the operator stands. -/
def mayBegin (operator : Operator) : Bool :=
  ["-", "*", "&&", "||", "&", "|", "<<", "<"].contains operator.text

/-- Whether arguments in angle brackets could open where the operator stands. -/
def mayOpen (operator : Operator) : Bool :=
  ["<<", "<"].contains operator.text

end Operator

end BeanContainer.Source
