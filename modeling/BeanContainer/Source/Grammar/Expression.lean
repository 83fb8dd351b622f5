import BeanContainer.Source.Grammar.Generics
import BeanContainer.Source.Grammar.Pattern
/-!
# Expressions

Operators bind as tightly as their precedence says; comparisons are not chained, and a range takes no
further operator on its right. Numbers of fields are written in decimal digits, one by one, also where
two of them were read as one number with a point.
-/

namespace BeanContainer.Source.Grammar

open BeanContainer.Source.Parser

/-- An expression that is neither a path nor ends in a block. -/
def plainAtom (content : Forest) : Expression :=
  .atom .other .nil content

/-- The operator between two operands that comes next, unless it is the plain assignment. -/
def operator? (next : Forest) : Option Operator :=
  Operator.all.find? fun operator => next.starts (.marks operator.text)

/-- Whether a value is assigned next. -/
def seesAssignment (next : Forest) : Bool :=
  next.starts (.marks "=") && !next.starts (.marks "=>")

/-- The precedence of what comes next; the lowest one if it is no operator. -/
def upcomingPrecedence (next : Forest) : Precedence :=
  match operator? next with
  | some operator => operator.precedence
  | none =>
    if seesAssignment next then Precedence.assignment
    else if next.starts (.marks "..") then Precedence.range
    else if next.starts (.word "as") then Precedence.cast
    else Precedence.jump

/-- The right operand of an operator: an operand with all operators that bind more tightly. -/
def rightOperand (grammar : Grammar) (allowsStruct : Bool) (precedence : Precedence) :
    Parser Expression := do
  let first ← grammar.operand allowsStruct
  loop (fun inner => do
    let start ← upcoming
    let next := upcomingPrecedence start
    if precedence < next || (next == precedence && precedence == Precedence.assignment) then
      let inner ← grammar.operators inner allowsStruct next
      return (decide ((← upcoming).size < start.size), inner)
    else return (false, inner)) first

/-- Whether a range without an end stops here. -/
def endsOpenRange (allowsStruct : Bool) (next : Forest) : Bool :=
  next.isEmpty ||
    next.startsAny [.marks ",", .marks ";", .marks "?", .marks "=>", .marks "=", .marks "+",
      .marks "/", .marks "%", .marks "^", .marks ">", .marks "<=", .marks "!=", .marks "-=",
      .marks "*=", .marks "&=", .marks "|=", .marks "<<=", .word "as"] ||
    (next.starts (.marks ".") && !next.starts (.marks "..")) ||
    (!allowsStruct && next.starts (.group .braces))

/-- A range from its dots on, given what stands before them. -/
def range (grammar : Grammar) (allowsStruct : Bool) (first : Expression) : Parser Expression := do
  let (limits, dots) ← captured (rangeLimits false)
  let last : Expression ←
    if limits == .halfOpen && endsOpenRange allowsStruct (← upcoming) then pure .absent
    else grammar.rightOperand allowsStruct Precedence.range
  return .range .nil first dots last

/-- Refuses what must not follow a cast. -/
def checkCast : Parser Unit := do
  let next ← upcoming
  let refuse (what : String) : Parser Unit := failHere ("casts cannot be followed by " ++ what)
  if next.starts (.marks ".") && !next.starts (.marks "..") then
    let second := next.skip
    if second.starts (.word "await") then refuse "`.await`"
    else if second.starts .identifier &&
        second.skip.startsAny [.group .parentheses, .marks "::"] then
      refuse "a method call"
    else refuse "a field access"
  else if next.starts (.marks "?") then refuse "`?`"
  else if next.starts (.group .brackets) then refuse "indexing"
  else if next.starts (.group .parentheses) then refuse "a function call"

/-- The expression with the operators of the given precedence and above that follow. -/
def operatorsRule (grammar : Grammar) (left : Expression) (allowsStruct : Bool)
    (base : Precedence) : Parser Expression :=
  loop (fun left => do
    if left.isRange then return (false, left)
    let next ← upcoming
    match operator? next with
    | some operator =>
      if operator.precedence < base then return (false, left)
      if operator.precedence == Precedence.comparison && left.isComparison then
        failHere "comparison operators cannot be chained"
      silently (marks operator.text)
      let right ← grammar.rightOperand allowsStruct operator.precedence
      return (true, .joined .nil left operator right)
    | none =>
      if base ≤ Precedence.assignment && seesAssignment next then
        silently (marks "=")
        let right ← grammar.rightOperand allowsStruct Precedence.assignment
        return (true, .joined .nil left .assign right)
      else if base ≤ Precedence.range && next.starts (.marks "..") then
        return (true, ← grammar.range allowsStruct left)
      else if base ≤ Precedence.cast && next.starts (.word "as") then
        silently (word "as")
        let type ← written (discard grammar.castType)
        checkCast
        return (true, .cast .nil left type)
      else return (false, left)) left

/-- An expression. -/
def expressionRule (grammar : Grammar) (allowsStruct : Bool) : Parser Expression := do
  let first ← grammar.operand allowsStruct
  grammar.operators first allowsStruct Precedence.jump

/-- Arguments of a call. -/
def arguments (grammar : Grammar) : Parser Unit :=
  enclosed .parentheses (commaSeparated grammar.value)

/-- Numbers of fields with points between them. -/
def fieldNumbers (isNegative : Bool) : List String → Parser Unit
  | [] => pure ()
  | [last] => fieldNumber isNegative last
  | first :: rest => do
    fieldNumber isNegative first
    write (.marks ".")
    fieldNumbers false rest

/-- A number with a fraction that comes next, and whether it is negative. -/
def fraction? (next : Forest) : Option (Bool × String) :=
  let isFraction (text : String) : Bool := Literal.isNumber text && !isInteger text
  next.literal?.filter fun (_, text) => isFraction text

/-- What follows the point behind an expression: a field, a call of a method, or a wait. -/
def access (grammar : Grammar) : Parser Unit := do
  let isDone ← match fraction? (← upcoming) with
    | none => pure false
    | some (isNegative, text) => do
      silently literal
      let parts := text.splitOn "."
      let endsInPoint := parts.getLast? == some ""
      fieldNumbers isNegative (if endsInPoint then parts.dropLast else parts)
      if endsInPoint then write (.marks ".")
      pure !endsInPoint
  if isDone then return
  if ← sees (.word "await") then
    word "await"
    return
  let isNamed ← member
  let hasArguments ←
    if isNamed && (← sees (.marks "::")) then
      let _ ← grammar.angleArguments
      pure true
    else pure false
  if isNamed && (hasArguments || (← sees (.group .parentheses))) then grammar.arguments

/-- The expression with the calls, accesses, indices and question marks behind it. -/
def trailers (grammar : Grammar) (base : Expression) : Parser Expression :=
  loop (fun base => do
    let next ← upcoming
    let behind (kind : TrailerKind) (trailer : Parser Unit) : Parser (Bool × Expression) := do
      return (true, .trailed kind .nil base (← written trailer))
    if next.starts (.group .parentheses) then behind .application grammar.arguments
    else if next.starts (.marks ".") && !next.starts (.marks "..") && !base.isRange then
      behind .access do
        marks "."
        grammar.access
    else if next.starts (.group .brackets) then
      behind .application (enclosed .brackets grammar.value)
    else if next.starts (.marks "?") && !base.isRange then behind .access (marks "?")
    else return (false, base)) base

/-- The fields of a structure that is built, and perhaps another one that gives the rest. -/
def structFields (grammar : Grammar) : Parser Unit :=
  enclosed .braces <| repeating do
    let next ← upcoming
    if next.isEmpty then return false
    if next.starts (.marks "..") then
      marks ".."
      if !(← upcoming).isEmpty then grammar.value
      return false
    grammar.annotations
    let isNamed ← member
    if !isNamed || (← sees (.marks ":")) then
      marks ":"
      grammar.value
    if (← upcoming).isEmpty then return false
    marks ","
    return true

/-- What follows a path: the use of a code generator, the fields of a structure, or neither. -/
def afterPath (grammar : Grammar) (allowsStruct mayGenerate : Bool) : Parser AtomKind := do
  let next ← upcoming
  if mayGenerate && next.starts (.marks "!") && !next.starts (.marks "!=") then
    marks "!"
    let (delimiter, _) ← anyGroup
    return if delimiter = .braces then .generated else .other
  else if allowsStruct && next.starts (.group .braces) then
    grammar.structFields
    return .construction
  else return .path

/-- An expression that starts with a path. -/
def pathExpression (grammar : Grammar) (allowsStruct : Bool) : Parser Expression := do
  let (kind, content) ← captured do
    let (isQualified, path) ← grammar.qualifiedPath true
    let path ← close path
    grammar.afterPath allowsStruct (!isQualified && path.isModular)
  return .atom kind .nil content

/-- More segments of a path in an expression; tells whether none of them has arguments. -/
def furtherSegments (grammar : Grammar) : Parser Bool :=
  loop (fun isModular => do
    let next ← upcoming
    if next.starts (.marks "::") && !next.skip.skip.starts (.group .parentheses) then
      marks "::"
      let (_, arguments) ← grammar.segment true
      if let some (arguments, _) := arguments then write arguments
      return (true, isModular && arguments.isNone)
    else return (false, isModular)) true

/--
An expression in an invisible group. If it is a path, then what follows the group may belong to it, and
the brackets are dropped then.
-/
def groupedExpression (grammar : Grammar) (allowsStruct : Bool) : Parser Expression := do
  let inner ← silently (enclosed .invisible (grammar.expression true))
  if let .atom .path .nil content := inner then
    let (kind, more) ← captured do
      let isModular ← grammar.furtherSegments
      -- Only arguments and the type that a path starts from have such a mark beside the segments.
      grammar.afterPath allowsStruct (isModular && !content.hasMark '<')
    if !more.isEmpty then return .atom kind .nil (content ++ more)
  return plainAtom (.enclosed .invisible (.ofExpression .enclosed inner))

/-- Whether the expression ends in a block, in invisible groups or not. -/
def isBlockLike : Expression → Bool
  | .block .. | .atom (.blockLike _) _ _ => true
  | .atom _ _ (.group .invisible (.expression _ inner .nil) .nil) => isBlockLike inner
  | _ => false

/--
The argument of a closure. Attributes in front of a block without a type take the place of those
inside.
-/
def closureArgument (grammar : Grammar) : Parser Unit := do
  let annotations := Attribute.listForest (← grammar.outerAttributes)
  let (shape, pattern) ← captured grammar.pattern
  if ← sees (.marks ":") then
    write annotations
    write pattern
    marks ":"
    discard (grammar.type true)
  else
    match shape with
    | .verbatim => write pattern
    | .range range => write (.ofExpression .enclosed (range.annotate annotations))
    | .constant statements =>
      write annotations
      write (.word "const")
      write (.enclosed .braces statements)
    | _ =>
      write annotations
      write pattern

/-- A closure. With a result type its body is a block. -/
def closure (grammar : Grammar) (allowsStruct : Bool) : Parser Expression := do
  let (result, head) ← captured do
    let _ ← grammar.binder
    let _ ← optionalWord "const"
    let _ ← optionalWord "static"
    let _ ← optionalWord "async"
    let _ ← optionalWord "move"
    marks "|"
    let _ ← separated (·.starts (.marks "|")) "," grammar.closureArgument
    marks "|"
    grammar.result? true
  match result with
  | some _ =>
    let statements ← silently (enclosed .braces (written grammar.statements))
    return .closure true .nil head (.block .nil .nil .nil statements)
  | none => return .closure false .nil head (← grammar.expression allowsStruct)

/-- Whether a closure comes next. -/
def seesClosure (next : Forest) : Bool :=
  let second := next.skip
  next.startsAny [.marks "|", .word "move", .word "static"] ||
    (next.starts (.word "for") && seesGenerics second) ||
    (next.starts (.word "const") && !second.starts (.group .braces)) ||
    (next.starts (.word "async") && second.startsAny [.marks "|", .word "move"])

/-- A condition with blocks for both outcomes, the second of which may be missing. -/
def conditional (grammar : Grammar) : Parser Unit :=
  repeating do
    word "if"
    grammar.scrutinee
    grammar.block
    if !(← optionalWord "else") then return false
    if ← sees (.word "if") then return true
    if ← sees (.group .braces) then
      grammar.block
      return false
    failExpecting [.word "if", .group .braces]

/-- A loop under a condition. -/
def whileLoop (grammar : Grammar) : Parser Unit := do
  word "while"
  grammar.scrutinee
  grammar.attributedBlock

/-- A loop over elements. -/
def forLoop (grammar : Grammar) : Parser Unit := do
  word "for"
  discard grammar.alternatives
  word "in"
  grammar.scrutinee
  grammar.attributedBlock

/-- A loop without an end of its own. -/
def endlessLoop (grammar : Grammar) : Parser Unit := do
  word "loop"
  grammar.attributedBlock

/-- An expression of several cases. -/
def matchExpression (grammar : Grammar) : Parser Unit := do
  word "match"
  grammar.scrutinee
  enclosed .braces do
    write (Attribute.listForest (← grammar.innerAttributes))
    discard (listWhile (!·.isEmpty) grammar.arm)

/-- Statements in braces after a label, which may be missing. -/
def plainBlock (grammar : Grammar) (label : Forest) : Parser Expression :=
  silently <| enclosed .braces do
    let inner := Attribute.listForest (← grammar.innerAttributes)
    return .block .nil label inner (← written grammar.statements)

/-- A loop or a block after a label. -/
def labelled (grammar : Grammar) : Parser Expression := do
  let label ← written label
  let next ← upcoming
  if next.starts (.group .braces) then return ← grammar.plainBlock label
  let content ← written do
    if next.starts (.word "while") then grammar.whileLoop
    else if next.starts (.word "for") then grammar.forLoop
    else if next.starts (.word "loop") then grammar.endlessLoop
    else failHere "expected loop or block expression"
  return .atom (.blockLike true) .nil (label ++ content)

/-- Whether an expression comes next that ends in a block and needs nothing to end it. -/
def seesBlock (next : Forest) : Bool :=
  next.startsAny [.word "if", .word "while", .word "loop", .word "match", .word "unsafe",
      .group .braces, .lifetime] ||
    (next.starts (.word "for") && !seesGenerics next.skip) ||
    (next.startsAny [.word "try", .word "const"] && next.skip.starts (.group .braces))

/-- An expression that ends in a block. -/
def blockLike (grammar : Grammar) : Parser Expression := do
  let next ← upcoming
  if next.starts .lifetime then grammar.labelled
  else if next.starts (.group .braces) then grammar.plainBlock .nil
  else
    let content ← written do
      if next.starts (.word "if") then grammar.conditional
      else if next.starts (.word "while") then grammar.whileLoop
      else if next.starts (.word "for") then grammar.forLoop
      else if next.starts (.word "loop") then grammar.endlessLoop
      else if next.starts (.word "match") then grammar.matchExpression
      else if next.starts (.word "try") then
        word "try"
        grammar.block
      else
        discard anyIdentifier
        grammar.attributedBlock
    return .atom (.blockLike false) .nil content

/-- Whether an expression may begin here. -/
def beginsExpression (next : Forest) : Bool :=
  (next.starts .anyIdentifier && !next.starts (.word "as")) ||
    next.startsAny [.group .parentheses, .group .brackets, .group .braces, .literal, .marks "..",
      .marks "::", .lifetime, .marks "#"] ||
    (next.starts (.marks "!") && !next.starts (.marks "!=")) ||
    (next.starts (.marks "-") && !next.startsAny [.marks "-=", .marks "->"]) ||
    (next.starts (.marks "*") && !next.starts (.marks "*=")) ||
    (next.starts (.marks "|") && !next.starts (.marks "|=")) ||
    (next.starts (.marks "&") && !next.starts (.marks "&=")) ||
    (next.starts (.marks "<") && !next.startsAny [.marks "<=", .marks "<<="])

/-- The end of a loop or of a labelled block, perhaps with a value. -/
def leaving (grammar : Grammar) (allowsStruct : Bool) : Parser Expression := do
  let head ← written (word "break")
  let next ← upcoming
  if next.starts .lifetime && next.skip.starts (.marks ":") then
    discard (grammar.expression true)
    fail "parentheses required"
  let label ← written do if next.starts .lifetime then discard lifetime
  let next ← upcoming
  let value : Expression ←
    if beginsExpression next && (allowsStruct || !next.starts (.group .braces)) then
      grammar.expression true
    else pure .absent
  return .jump (.leave (!label.isEmpty)) .nil (head ++ label) value

/-- The end of a function or a step of it, perhaps with a value. -/
def answering (grammar : Grammar) : Parser Expression := do
  let head ← written anyIdentifier
  let value : Expression ←
    if beginsExpression (← upcoming) then grammar.expression true else pure .absent
  return .jump .answer .nil head value

/-- Expressions in parentheses: one, or a tuple. -/
def tuple (grammar : Grammar) : Parser Unit :=
  enclosed .parentheses (commaSeparated grammar.value)

/-- Expressions in brackets: all elements, or one and how often it is repeated. -/
def array (grammar : Grammar) : Parser Unit :=
  enclosed .brackets do
    if (← upcoming).isEmpty then return
    grammar.value
    let next ← upcoming
    if next.isEmpty then return
    if next.starts (.marks ",") then
      marks ","
      commaSeparated grammar.value
    else if next.starts (.marks ";") then
      marks ";"
      grammar.value
    else failHere "expected `,` or `;`"

/-- A match of a pattern as a condition. -/
def letExpression (grammar : Grammar) (allowsStruct : Bool) : Parser Expression := do
  let head ← written do
    word "let"
    discard grammar.alternatives
    marks "="
  let first ← grammar.operand allowsStruct
  return .matched .nil head (← grammar.operators first allowsStruct Precedence.comparison)

/-- An expression that is kept as it is read. -/
def kept (parser : Parser Unit) : Parser Expression := do
  let start ← upcoming
  silently parser
  return .atom .verbatim .nil (← since start)

/-- An expression without operators around it. -/
def atom (grammar : Grammar) (allowsStruct : Bool) : Parser Expression := do
  let next ← upcoming
  let second := next.skip
  let plain (parser : Parser Unit) : Parser Expression := do
    return plainAtom (← written parser)
  if next.starts (.group .invisible) then grammar.groupedExpression allowsStruct
  else if next.starts .literal then plain literal
  else if next.starts (.word "async") && (second.starts (.group .braces) ||
      (second.starts (.word "move") && second.skip.starts (.group .braces))) then
    plain do
      word "async"
      discard (optionalWord "move")
      grammar.block
  else if seesBlock next then grammar.blockLike
  else if seesClosure next then grammar.closure allowsStruct
  else if seesBuiltin next then kept builtin
  else if next.startsAny (.identifier :: .marks "::" :: .marks "<" :: pathWords) ||
      (next.starts (.word "try") && second.startsAny [.marks "!", .marks "::"]) then
    grammar.pathExpression allowsStruct
  else if next.starts (.group .parentheses) then plain grammar.tuple
  else if next.starts (.word "break") then grammar.leaving allowsStruct
  else if next.starts (.word "continue") then
    plain do
      word "continue"
      if ← sees .lifetime then discard lifetime
  else if next.startsAny [.word "return", .word "yield"] then grammar.answering
  else if next.starts (.word "become") then
    kept do
      word "become"
      discard (grammar.expression true)
  else if next.starts (.group .brackets) then plain grammar.array
  else if next.starts (.word "let") then grammar.letExpression allowsStruct
  else if next.starts (.marks "..") then grammar.range allowsStruct .absent
  else if next.starts (.word "_") then plain (word "_")
  else failHere "expected an expression"

/-- An operand with an operator in front of it, if one comes next. -/
def prefixed? (grammar : Grammar) (allowsStruct : Bool) : Parser (Option Expression) := do
  let operator ← written do
    if ← sees (.group .invisible) then return
    if ← optionalMarks "&" then
      let next ← upcoming
      if next.starts (.word "raw") && next.skip.startsAny [.word "mut", .word "const"] then
        word "raw"
        if !(← optionalWord "mut") then word "const"
      else discard (optionalWord "mut")
    else if !(← optionalMarks "*") && !(← optionalMarks "!") then discard (optionalMarks "-")
  if operator.isEmpty then return none
  return some (.prefixed .nil operator (← grammar.operand allowsStruct))

/-- An expression with operators only in front of it and behind it. -/
def operandRule (grammar : Grammar) (allowsStruct : Bool) : Parser Expression := do
  let start ← upcoming
  let annotations := Attribute.listForest (← grammar.expressionAttributes)
  match ← grammar.prefixed? allowsStruct with
  | some inner => return inner.annotate annotations
  | none =>
    let inner ← grammar.trailers (← grammar.atom allowsStruct)
    if inner.isVerbatim then return .atom .verbatim .nil (← since start)
    if inner.isRange && !annotations.isEmpty then
      fail "attributes are not allowed on range expressions starting with `..`"
    return inner.annotate annotations

/--
An expression that ends after a block if nothing comes that can only go on with it. Attributes in front
of it go to its first operand.
-/
def boundedExpression (grammar : Grammar) : Parser Expression := do
  let annotations := Attribute.listForest (← grammar.expressionAttributes)
  let next ← upcoming
  let first ←
    if next.starts (.group .invisible) then grammar.groupedExpression true
    else if seesBlock next then grammar.blockLike
    else grammar.operand true
  if isBlockLike first then
    let next ← upcoming
    if (next.starts (.marks ".") && !next.starts (.marks "..")) || next.starts (.marks "?") then
      let inner ← grammar.trailers first
      grammar.operators (inner.annotate annotations) true Precedence.jump
    else return first.annotate annotations
  else
    let inner ← grammar.trailers first
    grammar.operators (inner.annotate annotations) true Precedence.jump

/-- One of the cases of an expression. It ends with a comma, unless it ends with a block. -/
def armRule (grammar : Grammar) : Parser Unit := do
  grammar.annotations
  discard grammar.alternatives
  if ← optionalWord "if" then grammar.value
  marks "=>"
  let inner ← grammar.boundedExpression
  write (.ofExpression .arm inner)
  if !inner.endsInBlock && !(← upcoming).isEmpty then marks ","
  else discard (optionalMarks ",")

end BeanContainer.Source.Grammar
