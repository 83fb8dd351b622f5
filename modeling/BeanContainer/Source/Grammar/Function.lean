import BeanContainer.Source.Grammar.Generics
import BeanContainer.Source.Grammar.Pattern
/-!
# Functions

The signature of a function, kept in so much detail that roles can be given to its arguments, and the
function associated with a type.
-/

namespace BeanContainer.Source

/-- An argument that stands for the value that a function is called on. -/
structure Receiver where
  isReference : Bool
  isMutable : Bool
  content : Forest
  deriving DecidableEq, Repr

/-- An argument with a pattern and a type. -/
structure TypedArgument where
  pattern : Forest
  /-- The name that the pattern binds, if it is just a name. -/
  binding : Option Identifier
  type : Forest
  shape : TypeShape
  deriving Repr

/-- What an argument is, apart from its attributes. -/
inductive ArgumentKind where
  | receiver (receiver : Receiver)
  | typed (argument : TypedArgument)
  deriving Repr

/-- An argument of a function. -/
structure Argument where
  annotations : List Attribute
  kind : ArgumentKind
  hasComma : Bool
  deriving Repr

/-- The result type of a function. -/
structure ResultType where
  type : Forest
  shape : TypeShape
  deriving Repr

/-- The signature of a function. -/
structure Signature where
  /-- The words before the name. -/
  head : Forest
  name : Identifier
  generics : Generics
  arguments : List Argument
  /-- The dots that stand for any more arguments. -/
  variadic : Forest
  result : Option ResultType
  conditions : Forest
  deriving Repr

/-- A function associated with a type. -/
structure AssociatedFunction where
  annotations : List Attribute
  /-- The visibility, and whether the function is a default. -/
  head : Forest
  signature : Signature
  /-- The statements of the body. -/
  body : Forest
  deriving Repr

/-- Attributes of something and of what is inside it. -/
def Attribute.outerForest (annotations : List Attribute) : Forest :=
  Attribute.listForest (annotations.filter (!·.isInner))

/-- Attributes that stand inside of what they belong to. -/
def Attribute.innerForest (annotations : List Attribute) : Forest :=
  Attribute.listForest (annotations.filter (·.isInner))

namespace Argument

/-- The argument without its comma. -/
def content (argument : Argument) : Forest :=
  Attribute.listForest argument.annotations ++
    match argument.kind with
    | .receiver receiver => receiver.content
    | .typed argument => argument.pattern ++ .marks ":" ++ argument.type

/-- The argument and its comma. -/
def forest (argument : Argument) : Forest :=
  if argument.hasComma then argument.content ++ .marks "," else argument.content

end Argument

namespace Signature

/-- The signature as it is written. -/
def forest (signature : Signature) : Forest :=
  let result : Forest := match signature.result with
    | some result => .marks "->" ++ result.type
    | none => .nil
  signature.head ++ .ofIdentifier signature.name ++ signature.generics.forest ++
    .enclosed .parentheses (.join (signature.arguments.map (·.forest)) ++ signature.variadic) ++
    result ++ signature.conditions

/-- Whether the function is declared to be safe, after the words that may stand before that. -/
def isMarkedSafe (signature : Signature) : Bool :=
  ((signature.head.past "const").past "async").starts (.word "safe")

end Signature

namespace AssociatedFunction

/-- The function as it is written. -/
def forest (function : AssociatedFunction) : Forest :=
  Attribute.outerForest function.annotations ++ function.head ++ function.signature.forest ++
    .enclosed .braces (Attribute.innerForest function.annotations ++ function.body)

end AssociatedFunction

namespace Grammar

open BeanContainer.Source.Parser

/-- Who may see something. Nobody else may if there are only empty invisible brackets. -/
def visibility : Parser Unit := do
  if let .group .invisible .nil _ ← upcoming then
    return ← silently (enclosed .invisible (pure ()))
  if !(← sees (.word "pub")) then return
  word "pub"
  match (← upcoming).bare with
  | .group .parentheses content _ =>
    if content.startsAny [.word "crate", .word "self", .word "super"] then
      if content.skip.isEmpty then enclosed .parentheses (discard anyIdentifier)
    else if content.starts (.word "in") then
      enclosed .parentheses do
        word "in"
        discard modularPath
  | _ => return

/-- Whether a function comes next, given whether it may be declared safe. -/
def seesFunction (allowsSafe : Bool) (next : Forest) : Bool :=
  let next := (next.past "const").past "async"
  let next :=
    if allowsSafe && next.starts (.word "safe") then next.skip else next.past "unsafe"
  let next :=
    if next.starts (.word "extern") then
      if next.skip.starts .textLiteral then next.skip.skip else next.skip
    else next
  next.starts (.word "fn")

/-- A receiver. It is not the first word of a path. -/
def receiver (grammar : Grammar) : Parser Receiver := do
  let ((isReference, isMutable), content) ← captured do
    let isReference ← optionalMarks "&"
    if isReference && (← sees .lifetime) then discard lifetime
    let isMutable ← optionalWord "mut"
    word "self"
    if ← sees (.marks "::") then failExpecting []
    if !isReference && (← optionalMarks ":") then discard (grammar.type true)
    return (isReference, isMutable)
  return ⟨isReference, isMutable, content⟩

/--
An argument after its attributes, unless it stands for any more arguments, which are written. An
argument that is only a type with arguments in angle brackets gets a pattern that binds nothing.
-/
def argumentKind (grammar : Grammar) : Parser (Option ArgumentKind) := do
  if let some receiver ← attempt? grammar.receiver then return some (.receiver receiver)
  let next ← upcoming
  if next.starts .identifier && next.skip.starts (.marks "<") then
    let (shape, type) ← captured (grammar.type true)
    return some (.typed ⟨.word "_", none, type, shape⟩)
  let (shape, pattern) ← captured grammar.pattern
  silently (marks ":")
  if ← sees (.marks "...") then
    write pattern
    write (.marks ":")
    marks "..."
    return none
  let binding := match shape with
    | .binding name => some name
    | _ => none
  let (shape, type) ← captured (grammar.type true)
  return some (.typed ⟨pattern, binding, type, shape⟩)

/-- Whether the argument is a receiver. -/
def isReceiver : ArgumentKind → Bool
  | .receiver _ => true
  | .typed _ => false

/-- Refuses a receiver after other arguments. -/
def checkReceiver (arguments : List Argument) (kind : ArgumentKind) : Parser Unit := do
  if isReceiver kind then
    if arguments.any (isReceiver ·.kind) then fail "unexpected second method receiver"
    if !arguments.isEmpty then fail "unexpected method receiver"

/-- The arguments of a function, and the dots that stand for any more. Nothing is written. -/
def argumentList (grammar : Grammar) : Parser (List Argument × Forest) :=
  loop (fun (arguments, variadic) => do
    if (← upcoming).isEmpty then return (false, arguments, variadic)
    let annotations ← grammar.outerAttributes
    let (kind, dots) ← captured do
      if ← sees (.marks "...") then
        marks "..."
        return none
      grammar.argumentKind
    match kind with
    | none =>
      let comma ← written do if !(← upcoming).isEmpty then marks ","
      return (false, arguments, Attribute.listForest annotations ++ dots ++ comma)
    | some kind =>
      checkReceiver arguments kind
      if (← upcoming).isEmpty then
        return (false, arguments ++ [⟨annotations, kind, false⟩], variadic)
      silently (marks ",")
      return (true, arguments ++ [⟨annotations, kind, true⟩], variadic)) ([], .nil)

/-- The signature of a function. It is not written. -/
def signature (grammar : Grammar) (allowsSafe : Bool) : Parser Signature := do
  let head ← written do
    discard (optionalWord "const")
    discard (optionalWord "async")
    if !(allowsSafe && (← optionalWord "safe")) then discard (optionalWord "unsafe")
    foreignLanguage
    word "fn"
  let (name, _) ← captured identifier
  let generics ← grammar.generics
  silently <| enclosedThen .parentheses grammar.argumentList fun (arguments, variadic) => do
    let (shape, type) ← captured do
      if ← sees (.marks "->") then
        silently (marks "->")
        return some (← grammar.type true)
      else return none
    let result := shape.map fun shape => ⟨type, shape⟩
    let conditions ← written grammar.conditions
    return { head, name, generics, arguments, variadic, result, conditions }

/-- The body of a function: the attributes inside it, and its statements. Nothing is written. -/
def functionBody (grammar : Grammar) : Parser (List Attribute × Forest) := do
  silently <| enclosed .braces do
    let annotations ← grammar.innerAttributes
    return (annotations, ← written grammar.statements)

end Grammar

end BeanContainer.Source
