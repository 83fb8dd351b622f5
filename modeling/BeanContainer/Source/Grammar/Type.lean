import BeanContainer.Source.Grammar.Attribute
/-!
# Paths, bounds and types

Paths may have arguments in angle brackets; a path that is a bound may have arguments in parentheses
as functions have them. In lists of parameters and arguments lifetimes are written before all else.
Types and bounds of kinds that are not settled yet are kept as they were read.
-/

namespace BeanContainer.Source

/-- An element of a list in which lifetimes come first. -/
structure Ordered where
  isLifetime : Bool
  content : Forest
  hasComma : Bool
  deriving DecidableEq, Repr

namespace Ordered

/-- The element and its comma. -/
def forest (element : Ordered) : Forest :=
  if element.hasComma then element.content ++ .marks "," else element.content

/--
The elements, lifetimes first. The last lifetime gets a comma if it had none and anything follows.
-/
def listForest (elements : List Ordered) : Forest :=
  let (lifetimes, others) := elements.partition (·.isLifetime)
  let comma : Forest := match lifetimes.getLast? with
    | some last => if last.hasComma || others.isEmpty then .nil else .marks ","
    | none => .nil
  .join (lifetimes.map forest) ++ comma ++ .join (others.map forest)

end Ordered

/-- A path whose last arguments are not written yet. -/
structure OpenPath where
  shape : PathShape
  arguments : Forest
  /-- Whether the last segment has no arguments, or none between its brackets. -/
  isBare : Bool

namespace Grammar

open BeanContainer.Source.Parser

/-- Elements with commas up to a right angle bracket. They are not written. -/
def orderedUpToAngle (element : Parser Bool) (comma : Parser Unit) : Parser (List Ordered) :=
  loop (fun elements => do
    if ← sees (.marks ">") then return (false, elements)
    let (isLifetime, content) ← captured element
    if ← sees (.marks ">") then return (false, elements ++ [⟨isLifetime, content, false⟩])
    silently comma
    return (true, elements ++ [⟨isLifetime, content, true⟩])) []

/-- A label of a loop or a block. -/
def label : Parser Unit := do
  let _ ← lifetime
  marks ":"

/-- A block as an expression, with attributes and a label if there are any. -/
def blockExpression (grammar : Grammar) : Parser Unit := do
  grammar.annotations
  if ← sees .lifetime then label
  grammar.attributedBlock

/-- A constant as an argument: a literal, an identifier, or a block. -/
def constantArgument (grammar : Grammar) : Parser Unit := do
  let next ← upcoming
  if next.starts .literal then literal
  else if next.starts .identifier then discard identifier
  else if next.starts (.group .braces) then grammar.blockExpression
  else failExpecting []

/-- An argument in angle brackets; tells whether it is a lifetime. -/
def angleArgument (grammar : Grammar) : Parser Bool := do
  let next ← upcoming
  if next.starts .lifetime && !next.skip.starts (.marks "+") then
    let _ ← lifetime
    return true
  if next.startsAny [.literal, .group .braces] then
    grammar.constantArgument
    return false
  match ← grammar.type true with
  | .path false path =>
    if path.isSingle then
      if ← optionalMarks "=" then
        if (← upcoming).startsAny [.literal, .group .braces] then grammar.constantArgument
        else discard (grammar.type true)
      else if ← optionalMarks ":" then
        plusSeparated (·.startsAny [.marks ",", .marks ">"]) (discard (grammar.bound false true))
    return false
  | _ => return false

/-- Arguments in angle brackets; tells whether there are none. -/
def angleArguments (grammar : Grammar) : Parser Bool := do
  let _ ← optionalMarks "::"
  marks "<"
  let elements ← orderedUpToAngle grammar.angleArgument (marks ",")
  write (Ordered.listForest elements)
  marks ">"
  return elements.isEmpty

/--
A segment of a path. In an expression arguments need a double colon. Gives the identifier, the
arguments, which are not written, and whether there are none.
-/
def segment (grammar : Grammar) (inExpression : Bool) :
    Parser (Identifier × Option (Forest × Bool)) := do
  let next ← upcoming
  if next.startsAny [.word "super", .word "self", .word "crate", .word "try"] then
    return (← anyIdentifier, none)
  let name ← if next.starts (.word "Self") then anyIdentifier else identifier
  let next ← upcoming
  let hasArguments :=
    (!inExpression && next.starts (.marks "<") && !next.startsAny [.marks "<=", .marks "<<="]) ||
      (next.starts (.marks "::") && next.skip.skip.starts (.marks "<"))
  if hasArguments then
    let (isEmpty, arguments) ← captured grammar.angleArguments
    return (name, some (arguments, isEmpty))
  else
    return (name, none)

/-- The path that starts with a segment. -/
def OpenPath.start (isSingle : Bool) (name : Identifier) (arguments : Option (Forest × Bool)) :
    OpenPath where
  shape := ⟨name, isSingle, arguments.isNone, arguments.isNone⟩
  arguments := (arguments.map (·.1)).getD .nil
  isBare := (arguments.map (·.2)).getD true

/-- The path with one more segment. The arguments of the one before are written now. -/
def extend (grammar : Grammar) (inExpression : Bool) (path : OpenPath) : Parser OpenPath := do
  write path.arguments
  marks "::"
  let (name, arguments) ← grammar.segment inExpression
  let next := OpenPath.start false name arguments
  let isModular := path.shape.isModular && next.shape.isModular
  return { next with shape := { next.shape with isModular } }

/-- The path with all segments that follow. -/
def extendAll (grammar : Grammar) (inExpression : Bool) (path : OpenPath) : Parser OpenPath :=
  loop (fun path => do
    let next ← upcoming
    if next.starts (.marks "::") && !next.skip.skip.starts (.group .parentheses) then
      return (true, ← grammar.extend inExpression path)
    else return (false, path)) path

/-- A path, its last arguments left open. -/
def openPath (grammar : Grammar) (inExpression : Bool) : Parser OpenPath := do
  let fromRoot ← optionalMarks "::"
  let (name, arguments) ← grammar.segment inExpression
  grammar.extendAll inExpression (OpenPath.start (!fromRoot) name arguments)

/-- Writes the last arguments. -/
def close (path : OpenPath) : Parser PathShape := do
  write path.arguments
  return path.shape

/-- A path. -/
def path (grammar : Grammar) (inExpression : Bool) : Parser PathShape := do
  close (← grammar.openPath inExpression)

/-- A path that may start from a type in angle brackets; tells whether it does. -/
def qualifiedPath (grammar : Grammar) (inExpression : Bool) : Parser (Bool × OpenPath) := do
  if !(← sees (.marks "<")) then return (false, ← grammar.openPath inExpression)
  marks "<"
  discard (grammar.type true)
  if ← optionalWord "as" then discard (grammar.path false)
  marks ">"
  marks "::"
  let (name, arguments) ← grammar.segment inExpression
  let path ← loop (fun path => do
    if ← sees (.marks "::") then return (true, ← grammar.extend inExpression path)
    else return (false, path)) (OpenPath.start false name arguments)
  return (true, path)

/-- The result type after an arrow, if there is one. -/
def result? (grammar : Grammar) (allowsPlus : Bool) : Parser (Option TypeShape) := do
  if ← sees (.marks "->") then
    marks "->"
    return some (← grammar.type allowsPlus)
  else return none

/-- Whether arguments in parentheses follow a path without arguments. -/
def seesCall (path : OpenPath) : Parser Bool := do
  let next ← upcoming
  return path.isBare && (next.starts (.group .parentheses) ||
    (next.starts (.marks "::") && next.skip.skip.starts (.group .parentheses)))

/-- Arguments in parentheses and a result, instead of arguments in angle brackets. -/
def callArguments (grammar : Grammar) : Parser Unit := do
  discard (silently (optionalMarks "::"))
  enclosed .parentheses (commaSeparated (discard (grammar.type true)))
  discard (grammar.result? false)

/-- What follows a colon, if there is one. The colon is dropped if nothing follows. -/
def afterColon (parser : Parser Unit) : Parser Unit := do
  if ← sees (.marks ":") then
    silently (marks ":")
    let bounds ← written parser
    if !bounds.isEmpty then
      write (.marks ":")
      write bounds

/-- A parameter that is a lifetime: the bounds after a colon are other lifetimes. -/
def lifetimeParameter : Parser Unit := do
  let _ ← lifetime
  let isEnd := fun (next : Forest) => next.isEmpty || next.startsAny [.marks ",", .marks ">"]
  afterColon (plusSeparated isEnd (discard lifetime))

/-- Bounds after a colon. They end where the condition has it, or where no plus sign follows. -/
def optionalBounds (grammar : Grammar) (isEnd : Forest → Bool) : Parser Unit :=
  afterColon (plusSeparated isEnd (discard (grammar.bound false true)))

/-- Bounds after a colon, which go on up to the end as the condition has it. -/
def allBounds (grammar : Grammar) (isEnd : Forest → Bool) : Parser Unit :=
  afterColon (discard (separated isEnd "+" (discard (grammar.bound false true))))

/-- A parameter that is a type, without its default. -/
def typeParameter (grammar : Grammar) : Parser Unit := do
  discard identifier
  grammar.optionalBounds fun next =>
    next.isEmpty || next.startsAny [.marks ",", .marks ">", .marks "="]

/-- A parameter that is a constant, without its default. -/
def constantParameter (grammar : Grammar) : Parser Unit := do
  word "const"
  discard identifier
  marks ":"
  discard (grammar.type true)

/-- The default of a parameter that is a type. -/
def typeDefault (grammar : Grammar) : Parser Unit := do
  if ← optionalMarks "=" then discard (grammar.type true)

/-- The default of a parameter that is a constant. -/
def constantDefault (grammar : Grammar) : Parser Unit := do
  if ← optionalMarks "=" then grammar.constantArgument

/-- A parameter that a bound is made for. -/
def boundParameter (grammar : Grammar) : Parser Unit := do
  grammar.annotations
  let next ← upcoming
  if next.starts .identifier then
    grammar.typeParameter
    grammar.typeDefault
  else if next.starts .lifetime then lifetimeParameter
  else if next.starts (.word "const") then
    grammar.constantParameter
    grammar.constantDefault
  else failExpecting [.identifier, .lifetime, .word "const"]

/-- Parameters that a bound is made for, if there are any; tells whether there are. -/
def binder (grammar : Grammar) : Parser Bool := do
  if !(← sees (.word "for")) then return false
  word "for"
  marks "<"
  discard (separated (·.starts (.marks ">")) "," grammar.boundParameter)
  marks ">"
  return true

/-- What a type captures. -/
def capture : Parser Unit := do
  word "use"
  marks "<"
  let parameter : Parser Bool := do
    let next ← upcoming
    if next.starts .lifetime then
      let _ ← lifetime
      return true
    else if next.starts .identifier || next.starts (.word "Self") then
      let _ ← anyIdentifier
      return false
    else failExpecting [.lifetime, .identifier, .marks ">"]
  let comma : Parser Unit := do
    if ← sees (.marks ",") then marks "," else failExpecting [.marks ",", .marks ">"]
  write (Ordered.listForest (← orderedUpToAngle parameter comma))
  marks ">"

/-- A trait as a bound; tells whether it is constant. -/
def trait (grammar : Grammar) (allowsConstant : Bool) : Parser Bool := do
  let hasBinder ← grammar.binder
  let isConstant ←
    if ← sees (.group .brackets) then
      enclosed .brackets (word "const")
      if !allowsConstant then fail "`[const]` is not allowed here"
      pure true
    else if ← sees (.word "const") then
      word "const"
      if !allowsConstant then fail "`const` is not allowed here"
      pure true
    else pure false
  let isOptional ← optionalMarks "?"
  let hasBinder := hasBinder || (isOptional && (← grammar.binder))
  let path ← grammar.openPath false
  if ← seesCall path then grammar.callArguments else discard (close path)
  if hasBinder && isOptional then
    fail "`for<...>` binder not allowed with `?` trait polarity modifier"
  return isConstant

/-- A bound; tells whether it is a trait. A constant one is kept as it was read. -/
def boundRule (grammar : Grammar) (allowsCapture allowsConstant : Bool) : Parser Bool := do
  let next ← upcoming
  if next.starts .lifetime then
    let _ ← lifetime
    return false
  else if next.starts (.word "use") then
    capture
    if !allowsCapture then fail "`use<...>` precise capturing syntax is not allowed here"
    return false
  else
    let (isConstant, bound) ← captured <|
      if next.starts (.group .parentheses) then
        enclosed .parentheses (grammar.trait allowsConstant)
      else grammar.trait allowsConstant
    if isConstant then write (← since next) else write bound
    return true

/-- Several bounds in a type; tells whether there is a trait among them. -/
def bounds (grammar : Grammar) (allowsPlus allowsCapture allowsConstant : Bool) : Parser Bool :=
  loop (fun hasTrait => do
    let isTrait ← grammar.bound allowsCapture allowsConstant
    let hasTrait := hasTrait || isTrait
    if !allowsPlus || !(← sees (.marks "+")) then return (false, hasTrait)
    marks "+"
    let goesOn := (← upcoming).startsAny
      ([.anyIdentifier, .marks "::", .marks "?", .lifetime, .group .parentheses] ++
        if allowsConstant then [.group .brackets] else [])
    return (goesOn, hasTrait)) false

/-- Bounds of an object type. -/
def objectBounds (grammar : Grammar) (allowsPlus : Bool) : Parser Unit := do
  if !(← grammar.bounds allowsPlus false false) then
    fail "at least one trait is required for an object type"

/-- The bounds that follow a first one, as long as plus signs come; tells whether there are any. -/
def furtherBounds (grammar : Grammar) : Parser Bool := do
  let hasMore ← sees (.marks "+")
  repeating do
    if ← optionalMarks "+" then
      discard (grammar.bound false false)
      return true
    else return false
  return hasMore

/-- What stands in parentheses as a type. -/
private inductive Parenthesized where
  | finished (shape : TypeShape)
  | optionalBound
  | one (shape : TypeShape)

/-- Whether a type in parentheses can be the first of several bounds. -/
private def canJoin : TypeShape → Bool
  | .path isQualified _ => !isQualified
  | .bounds isOne => isOne
  | _ => false

/-- The content of the forest, if it is nothing but a group in parentheses. -/
private def unwrapped : Forest → Forest
  | .group .parentheses content .nil => content
  | other => other

/--
A type in parentheses, a tuple, or a bound in parentheses with others after it. A bound that has
parentheses of its own in them loses these.
-/
def parenthesizedType (grammar : Grammar) (allowsPlus : Bool) : Parser TypeShape := do
  let mayJoin := allowsPlus && (← upcoming).skip.starts (.marks "+")
  let content : Parser Parenthesized := do
    let next ← upcoming
    if next.isEmpty then return .finished .unit
    if next.starts .lifetime then
      grammar.objectBounds true
      return .finished .parenthesized
    if next.starts (.marks "?") then
      discard (grammar.trait false)
      return .optionalBound
    let (shape, first) ← captured (grammar.type true)
    if ← sees (.marks ",") then
      write first
      marks ","
      commaSeparated (discard (grammar.type true))
      return .finished .other
    write (if mayJoin && canJoin shape then unwrapped first else first)
    return .one shape
  enclosedThen .parentheses content fun
    | .finished shape => return shape
    | .optionalBound => return .bounds (!(← grammar.furtherBounds))
    | .one shape =>
      if mayJoin && canJoin shape then return .bounds (!(← grammar.furtherBounds))
      else return .parenthesized

/--
A path as a type, a type made by a code generator, or bounds that start with a path. What is bound
before a path is dropped if the path is that of a code generator.
-/
def pathType (grammar : Grammar) (allowsPlus : Bool) (binder : Forest) : Parser TypeShape := do
  let ((isQualified, path), name) ← captured do
    let (isQualified, path) ← grammar.qualifiedPath false
    return (isQualified, ← close path)
  let next ← upcoming
  if !isQualified && next.starts (.marks "!") && !next.starts (.marks "!=") && path.isModular then
    write name
    marks "!"
    discard anyGroup
    return .other
  write binder
  write name
  let hasPlus := !isQualified && allowsPlus && next.starts (.marks "+")
  if !binder.isEmpty || hasPlus then
    if hasPlus then
      marks "+"
      repeating do
        if (← upcoming).startsAny
            [.anyIdentifier, .marks "::", .marks "?", .lifetime, .group .parentheses] then
          discard (grammar.bound false false)
          optionalMarks "+"
        else return false
    return .bounds (!hasPlus)
  return .path isQualified path

/-- The language that a function comes from, if it is named. -/
def foreignLanguage : Parser Unit := do
  if ← optionalWord "extern" then
    if ← sees .textLiteral then discard textLiteral

/-- An argument of a function type, perhaps with a name. -/
def functionTypeArgument (grammar : Grammar) (isFirst : Bool) : Parser Unit := do
  let next ← upcoming
  let isSelf := fun (next : Forest) => isFirst && next.starts (.word "mut") &&
    next.skip.starts (.word "self")
  let named := fun (next : Forest) =>
    (next.startsAny [.identifier, .word "_"] || (isFirst && next.starts (.word "self"))) &&
      next.skip.starts (.marks ":") && !next.skip.starts (.marks "::")
  if isSelf next then
    verbatim do
      word "mut"
      if named (← upcoming) then
        discard anyIdentifier
        marks ":"
        discard (grammar.type true)
      else word "self"
  else if named next then
    let hasSelf := next.starts (.word "self")
    let (_, name) ← captured do
      discard anyIdentifier
      marks ":"
    if !hasSelf && isSelf (← upcoming) then
      write name
      word "mut"
      word "self"
    else
      write name
      discard (grammar.type true)
  else discard (grammar.type true)

/-- The dots that stand for any more arguments, perhaps with a name. -/
def seesDots (next : Forest) : Bool :=
  next.starts (.marks "...") ||
    (next.startsAny [.identifier, .word "_"] && next.skip.starts (.marks ":") &&
      next.skip.skip.starts (.marks "..."))

/-- The type of functions. -/
def functionType (grammar : Grammar) : Parser Unit := do
  let _ ← optionalWord "unsafe"
  foreignLanguage
  word "fn"
  let arguments : Parser Bool := loop (fun isFirst => do
    if (← upcoming).isEmpty then return (false, isFirst)
    grammar.annotations
    if seesDots (← upcoming) then
      if ← sees .anyIdentifier then
        discard anyIdentifier
        marks ":"
      marks "..."
      let _ ← optionalMarks ","
      return (false, isFirst)
    grammar.functionTypeArgument isFirst
    if (← upcoming).isEmpty then return (false, false)
    marks ","
    return (true, false)) true
  enclosedThen .parentheses arguments fun _ => discard (grammar.result? false)

/-- What a type may start with. -/
def typeSigns : List Sign :=
  [.word "for", .group .parentheses, .word "fn", .word "unsafe", .word "extern", .identifier,
    .marks "::", .marks "<", .word "dyn", .group .brackets, .marks "*", .marks "&", .marks "!",
    .word "impl", .word "_", .lifetime]

/-- Whether something comes next that only the implementation of the language provides. -/
def seesBuiltin (next : Forest) : Bool :=
  next.starts (.word "builtin") && next.skip.starts (.marks "#")

/-- Something that only the implementation of the language provides, with its arguments. -/
def builtin : Parser Unit := do
  word "builtin"
  marks "#"
  discard identifier
  enclosed .parentheses everything

/--
A type in an invisible group. If it is a path, then it may go on behind the group, with more segments or
with arguments; more segments behind any other type start from that.
-/
def groupedType (grammar : Grammar) (allowsArguments : Bool) : Parser TypeShape := do
  let (shape, inner) ← silently (enclosed .invisible (captured (grammar.type true)))
  let next ← upcoming
  let hasColons := next.starts (.marks "::")
  let asPath? := match shape with
    | .path isQualified path => some (isQualified, path)
    | _ => none
  if hasColons && next.skip.skip.starts .anyIdentifier then
    match asPath? with
    | some (isQualified, path) =>
      write inner
      return .path isQualified (← close (← grammar.extendAll false ⟨path, .nil, path.endsInName⟩))
    | none =>
      write (.marks "<")
      write inner
      write (.marks ">")
      return .path true (← close (← grammar.openPath false))
  if (allowsArguments && next.starts (.marks "<")) ||
      (hasColons && next.skip.skip.starts (.marks "<")) then
    if let some (isQualified, path) := asPath? then
      if path.endsInName then
        write inner
        let (isEmpty, arguments) ← captured grammar.angleArguments
        let path := { path with isModular := false, endsInName := false }
        return .path isQualified (← close (← grammar.extendAll false ⟨path, arguments, isEmpty⟩))
  write (.enclosed .invisible inner)
  return .grouped shape

/-- The type in a cast. A left angle bracket behind an invisible group compares there. -/
def castType (grammar : Grammar) : Parser TypeShape := do
  if ← sees (.group .invisible) then grammar.groupedType false else grammar.type false

/-- A type. -/
def typeRule (grammar : Grammar) (allowsPlus : Bool) : Parser TypeShape := do
  if ← sees (.group .invisible) then return ← grammar.groupedType true
  let start ← upcoming
  let binder ← written (discard grammar.binder)
  let next ← upcoming
  if !binder.isEmpty then
    let signs := [.identifier, .word "fn", .word "unsafe", .word "extern", .word "super",
      .word "self", .word "Self", .word "crate"]
    if !next.startsAny signs then failExpecting signs
  if next.starts (.group .parentheses) then grammar.parenthesizedType allowsPlus
  else if next.startsAny [.word "fn", .word "unsafe", .word "extern"] then
    write binder
    grammar.functionType
    return .other
  else if seesBuiltin next then
    silently builtin
    write (← since start)
    return .other
  else if next.startsAny (.identifier :: .marks "::" :: .marks "<" :: pathWords) then
    grammar.pathType allowsPlus binder
  else if next.starts (.word "dyn") then
    let (isVerbatim, object) ← captured do
      word "dyn"
      let isVerbatim ← optionalMarks "*"
      grammar.objectBounds allowsPlus
      return isVerbatim
    if isVerbatim then write (← since start) else write object
    return .other
  else if next.starts (.group .brackets) then
    enclosed .brackets do
      discard (grammar.type true)
      if ← optionalMarks ";" then grammar.value
    return .other
  else if next.starts (.marks "*") then
    marks "*"
    if ← sees (.word "const") then word "const"
    else if ← sees (.word "mut") then word "mut"
    else failExpecting [.word "const", .word "mut"]
    discard (grammar.type false)
    return .other
  else if next.starts (.marks "&") then
    marks "&"
    let lifetime ← if ← sees .lifetime then some <$> lifetime else pure none
    let _ ← optionalWord "mut"
    let (_, element) ← captured (grammar.type false)
    write element
    return .reference lifetime element
  else if next.starts (.marks "!") then
    marks "!"
    return .other
  else if next.starts (.word "impl") then
    word "impl"
    if !(← grammar.bounds allowsPlus true true) then fail "at least one trait must be specified"
    return .other
  else if next.starts (.word "_") then
    word "_"
    return .other
  else if next.starts .lifetime then
    grammar.objectBounds true
    return .bounds false
  else failExpecting typeSigns

end Grammar

end BeanContainer.Source
