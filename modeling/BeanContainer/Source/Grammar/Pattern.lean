import BeanContainer.Source.Grammar.Type
/-!
# Patterns

A range up to and with its end is written with an equals sign, also where it was read with three dots.
-/

namespace BeanContainer.Source.Grammar

open BeanContainer.Source.Parser

/-- The kinds of dots between the ends of a range. -/
inductive RangeLimits where
  | halfOpen
  | closed
  deriving DecidableEq, Repr

/-- The dots of a range. Three dots may be allowed, and are written as the closed kind. -/
def rangeLimits (allowsThreeDots : Bool) : Parser RangeLimits := do
  let next ← upcoming
  if next.starts (.marks "..=") then
    marks "..="
    return .closed
  else if next.starts (.marks "...") then
    if allowsThreeDots then
      silently (marks "...")
      write (.marks "..=")
      return .closed
    else failExpecting [.marks "..="]
  else if next.starts (.marks "..") then
    marks ".."
    return .halfOpen
  else failExpecting [.marks "..", .marks "..="]

/-- Whether another pattern follows as an alternative. -/
def seesAlternative (next : Forest) : Bool :=
  next.starts (.marks "|") && !next.startsAny [.marks "||", .marks "|="]

/-- Patterns as alternatives of each other, perhaps with a bar before the first. -/
def alternatives (grammar : Grammar) : Parser PatternShape := do
  let hasBar ← optionalMarks "|"
  let first ← grammar.pattern
  loop (fun shape => do
    if seesAlternative (← upcoming) then
      marks "|"
      discard grammar.pattern
      return (true, .other)
    else return (false, shape)) (if hasBar then .other else first)

/-- The value of a block that is computed beforehand; gives its statements. -/
def constantBlock (grammar : Grammar) : Parser Forest := do
  word "const"
  enclosed .braces do
    write (Attribute.listForest (← grammar.innerAttributes))
    let statements ← written grammar.statements
    write statements
    return statements

/-- Whether nothing comes next that could be the end of a range. -/
def endsRange (next : Forest) : Bool :=
  next.isEmpty ||
    next.startsAny [.marks "|", .marks "=", .marks ",", .marks ";", .word "if"] ||
    (next.starts (.marks ":") && !next.starts (.marks "::"))

/-- One end of a range as a pattern, or a pattern that could be one. -/
def rangeBound (grammar : Grammar) : Parser PatternShape := do
  let next ← upcoming
  let signs := [.identifier, .marks "::", .marks "<", .word "self", .word "Self", .word "super",
    .word "crate"]
  if next.starts .literal then
    literal
    return .other
  else if next.startsAny signs then
    let (_, path) ← grammar.qualifiedPath true
    discard (close path)
    return .other
  else if next.starts (.word "const") then
    return .constant (← grammar.constantBlock)
  else failExpecting (.literal :: signs ++ [.word "const"])

/-- The dots and the last end of a range, given the first end. -/
def rangeRest (grammar : Grammar) (allowsThreeDots : Bool) (first : Expression) :
    Parser PatternShape := do
  let (limits, dots) ← captured (rangeLimits allowsThreeDots)
  let last : Expression ←
    if endsRange (← upcoming) then
      if limits == .closed then failHere "expected range upper bound"
      pure .absent
    else pure (.atom .other .nil (← written (discard grammar.rangeBound)))
  if first.isAbsent && last.isAbsent then
    write dots
    return .other
  let range : Expression := .range .nil first dots last
  write (.ofExpression .enclosed range)
  return .range range

/-- The number of a field as it is written. A sign in front of it is no digit. -/
def fieldNumber (isNegative : Bool) (text : String) : Parser Unit :=
  match Literal.integerValue? text with
  | some (value, "") =>
    if isNegative then fail "invalid digit found in string"
    else if Nat.pow 2 32 ≤ value then fail "number too large to fit in target type"
    else write (.ofLiteral (toString value))
  | some _ => fail "expected unsuffixed integer"
  | none => fail "expected integer literal"

/-- Whether the text is that of an integer. -/
def isInteger (text : String) : Bool :=
  (Literal.integerValue? text).isSome

/-- A member of a structure: a name or a number. Tells whether it is a name. -/
def member : Parser Bool := do
  let other : Parser Bool := failHere "expected identifier or integer"
  let next ← upcoming
  if next.starts .identifier then
    let _ ← identifier
    return true
  match next.literal? with
  | some (isNegative, text) =>
    if isInteger text then
      silently literal
      fieldNumber isNegative text
      return false
    else other
  | none => other

/-- A field of a structure in a pattern. -/
def fieldPattern (grammar : Grammar) : Parser Unit := do
  let isBoxed ← optionalWord "box"
  let isReference ← optionalWord "ref"
  let isMutable ← optionalWord "mut"
  if isBoxed || isReference || isMutable then discard identifier
  else
    let isNamed ← member
    if !isNamed || (← sees (.marks ":")) then
      marks ":"
      discard grammar.alternatives

/-- The fields of a structure in a pattern. Two dots stand for the fields that are not named. -/
def structPattern (grammar : Grammar) : Parser Unit :=
  enclosed .braces <| repeating do
    if (← upcoming).isEmpty then return false
    grammar.annotations
    if ← optionalMarks ".." then return false
    grammar.fieldPattern
    if (← upcoming).isEmpty then return false
    marks ","
    return true

/-- A pattern that starts with a path. -/
def pathPattern (grammar : Grammar) : Parser PatternShape := do
  let ((isQualified, path), name) ← captured do
    let (isQualified, path) ← grammar.qualifiedPath true
    return (isQualified, ← close path)
  let next ← upcoming
  if next.starts (.marks "..") then return ← grammar.rangeRest true (.atom .path .nil name)
  write name
  if !isQualified && next.starts (.marks "!") && !next.starts (.marks "!=") && path.isModular then
    marks "!"
    discard anyGroup
    return .other
  else if next.starts (.group .braces) then
    grammar.structPattern
    return .other
  else if next.starts (.group .parentheses) then
    enclosed .parentheses (commaSeparated (discard grammar.alternatives))
    return .other
  else return .other

/-- A pattern that binds a name, and perhaps has a pattern of its own. -/
def bindingPattern (grammar : Grammar) : Parser PatternShape := do
  let _ ← optionalWord "ref"
  let _ ← optionalWord "mut"
  let name ← if ← sees (.word "self") then anyIdentifier else identifier
  if ← optionalMarks "@" then discard grammar.pattern
  return .binding name

/-- Whether a pattern that starts with an identifier starts with a path. -/
def seesPathPattern (next : Forest) : Bool :=
  (next.starts .identifier && next.skip.startsAny
      [.marks "::", .marks "!", .group .braces, .group .parentheses, .marks ".."]) ||
    (next.starts (.word "self") && next.skip.starts (.marks "::")) ||
    next.startsAny [.marks "::", .marks "<", .word "Self", .word "super", .word "crate"]

/-- What a pattern may start with, apart from two dots. -/
def patternSigns : List Sign :=
  [.identifier, .marks "::", .marks "<", .word "_", .literal, .word "const", .word "ref",
    .word "mut", .marks "&", .group .parentheses, .group .brackets]

/-- Whether the pattern is a range that lacks one of its ends. -/
def isOpenRange : PatternShape → Bool
  | .range (.range _ first _ last) => first.isAbsent || last.isAbsent
  | _ => false

/-- A pattern in brackets. A range without both ends needs parentheses there. -/
def slicePattern (grammar : Grammar) : Parser Unit :=
  enclosed .brackets <| commaSeparated do
    if isOpenRange (← grammar.alternatives) then
      fail "range pattern is not allowed unparenthesized inside slice pattern"

/-- A pattern without alternatives. -/
def patternRule (grammar : Grammar) : Parser PatternShape := do
  let next ← upcoming
  if seesPathPattern next then grammar.pathPattern
  else if next.starts (.word "_") then
    word "_"
    return .other
  else if next.starts (.word "box") then
    verbatim do
      word "box"
      discard grammar.pattern
    return .verbatim
  else if next.startsAny [.marks "-", .literal, .word "const"] then
    let (shape, first) ← captured grammar.rangeBound
    if ← sees (.marks "..") then grammar.rangeRest true (.atom .other .nil first)
    else
      write first
      return shape
  else if next.startsAny [.word "ref", .word "mut", .word "self", .identifier] then
    grammar.bindingPattern
  else if next.starts (.marks "&") then
    marks "&"
    let _ ← optionalWord "mut"
    discard grammar.pattern
    return .other
  else if next.starts (.group .parentheses) then
    enclosed .parentheses (commaSeparated (discard grammar.alternatives))
    return .other
  else if next.starts (.group .brackets) then
    grammar.slicePattern
    return .other
  else if next.starts (.marks "...") then failExpecting (patternSigns ++ [.word "const"])
  else if next.starts (.marks "..") then grammar.rangeRest false .absent
  else failExpecting (patternSigns ++ [.marks "..", .word "const"])

end BeanContainer.Source.Grammar
