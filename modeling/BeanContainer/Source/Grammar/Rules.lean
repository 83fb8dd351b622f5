import BeanContainer.Source.Parser
/-!
# Rules of the grammar

The rules of the grammar need each other: a type may hold an expression, an expression a type. Each
rule is written over a record of the rules that it needs, and the record is filled level by level.

What a rule reads is written, but for a few spellings that are put into a normal form on the way. Of
the rest only so much is kept as later decisions need: the shape of what was read. An expression is not
written by its rule, but given as a whole, since whoever asks for it may still change it.
-/

namespace BeanContainer.Source

/-- What is known of a path. -/
structure PathShape where
  /-- The identifier of the last segment. -/
  last : Identifier
  /-- Whether the path is one segment and nothing before it. -/
  isSingle : Bool
  /-- Whether no segment has arguments. -/
  isModular : Bool
  /-- Whether the last segment has no arguments. -/
  endsInName : Bool
  deriving Repr

/-- What is known of a type. -/
inductive TypeShape where
  | path (isQualified : Bool) (path : PathShape)
  | reference (lifetime : Option Identifier) (element : Forest)
  | unit
  | parenthesized
  /-- Bounds with no word before them, and whether it is one bound with nothing after it. -/
  | bounds (isOne : Bool)
  /-- A type in an invisible group. It is a type of its own kind, whatever stands in the group. -/
  | grouped (inner : TypeShape)
  | other
  deriving Repr

/-- Whether the type is a path that starts from no other type, in invisible groups or not. -/
def TypeShape.isPath : TypeShape → Bool
  | path isQualified _ => !isQualified
  | grouped inner => inner.isPath
  | _ => false

/-- What is known of a pattern. -/
inductive PatternShape where
  | binding (name : Identifier)
  | range (range : Expression)
  /-- The value of a block that is computed beforehand. -/
  | constant (statements : Forest)
  /-- A pattern that is not looked into. -/
  | verbatim
  | other
  deriving Repr

/-- The rules that refer to each other. -/
structure Grammar where
  /-- A type; whether more bounds may follow after a plus sign. -/
  type (allowsPlus : Bool) : Parser TypeShape
  /--
  A bound; whether it may list what a type captures, and whether it may be constant. Tells whether it
  is a trait.
  -/
  bound (allowsCapture allowsConstant : Bool) : Parser Bool
  /-- An expression; whether a structure may be built in it without parentheses. -/
  expression (allowsStruct : Bool) : Parser Expression
  /-- An expression with operators only in front of it and behind it. -/
  operand (allowsStruct : Bool) : Parser Expression
  /-- The expression with the operators of the given precedence and above that follow. -/
  operators (left : Expression) (allowsStruct : Bool) (base : Precedence) : Parser Expression
  /-- One of the cases of an expression that has several. -/
  arm : Parser Unit
  /-- A pattern without alternatives. -/
  pattern : Parser PatternShape
  /-- The statements of a block. -/
  statements : Parser Unit
  item : Parser Unit
  /-- Fields with names, in braces. -/
  fields : Parser Unit
  /--
  What a declaration imports; whether a path may start at the root, and whether one does inside
  braces.
  -/
  importTree (allowsRoot : Bool) : Parser Bool

namespace Grammar

/-- The grammar that accepts nothing. -/
def empty : Grammar where
  type _ := .fail "nested too deeply"
  bound _ _ := .fail "nested too deeply"
  expression _ := .fail "nested too deeply"
  operand _ := .fail "nested too deeply"
  operators _ _ _ := .fail "nested too deeply"
  arm := .fail "nested too deeply"
  pattern := .fail "nested too deeply"
  statements := .fail "nested too deeply"
  item := .fail "nested too deeply"
  fields := .fail "nested too deeply"
  importTree _ := .fail "nested too deeply"

/-- An expression that brackets or marks keep apart from what stands around it. -/
def value (grammar : Grammar) : Parser Unit := do
  Parser.write (.ofExpression .enclosed (← grammar.expression true))

/-- An expression in front of a block that does not belong to it. -/
def scrutinee (grammar : Grammar) : Parser Unit := do
  Parser.write (.ofExpression .condition (← grammar.expression false))

end Grammar

end BeanContainer.Source
