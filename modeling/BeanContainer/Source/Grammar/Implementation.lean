import BeanContainer.Source.Grammar.Function
/-!
# Implementations

A block that associates functions, constants and types with a type, perhaps on behalf of a trait. Its
functions are kept in detail. Unusual items, such as functions without a body, are kept as they were
read, and their attributes are not looked at.
-/

namespace BeanContainer.Source

/-- An item of an implementation. -/
inductive ImplementationItem where
  | function (declaration : AssociatedFunction)
  | other (content : Forest)
  deriving Repr

/-- The item as it is written. -/
def ImplementationItem.forest : ImplementationItem → Forest
  | .function declaration => declaration.forest
  | .other content => content

/-- An implementation. -/
structure Implementation where
  annotations : List Attribute
  /-- The words up to the generic parameters. -/
  head : Forest
  generics : Generics
  /-- The trait, up to the word before the type, if there is one. -/
  trait : Option Forest
  selfType : Forest
  conditions : Forest
  items : List ImplementationItem
  deriving Repr

namespace Implementation

/-- The implementation as it is written. -/
def forest (implementation : Implementation) : Forest :=
  Attribute.outerForest implementation.annotations ++ implementation.head ++
    implementation.generics.forest ++ implementation.trait.getD .nil ++ implementation.selfType ++
    implementation.conditions ++
    .enclosed .braces (Attribute.innerForest implementation.annotations ++
      .join (implementation.items.map (·.forest)))

/-- The functions among the items. -/
def functions (implementation : Implementation) : List AssociatedFunction :=
  implementation.items.filterMap fun
    | .function declaration => some declaration
    | .other _ => none

end Implementation

namespace Grammar

open BeanContainer.Source.Parser

/--
A constant, from its word on. Tells whether it is unusual: whether it has generic parameters or
conditions, or no value where one is required.
-/
def constantItem (grammar : Grammar) (requiresValue : Bool) : Parser Bool := do
  word "const"
  let next ← upcoming
  if next.startsAny [.identifier, .word "_"] then discard anyIdentifier
  else failExpecting [.identifier, .word "_"]
  let isGeneric ← sees (.marks "<")
  write (← grammar.generics).forest
  marks ":"
  discard (grammar.type true)
  let hasValue ← optionalMarks "="
  if hasValue then grammar.value
  let isConditional ← sees (.word "where")
  grammar.conditions
  marks ";"
  return isGeneric || isConditional || (requiresValue && !hasValue)

/-- Where the conditions of a type with a name may stand. -/
inductive ConditionPlace where
  | beforeType
  | afterType
  | both
  deriving DecidableEq, Repr

/-- A name for a type, from its word on. Tells whether it has bounds and whether it has a type. -/
def typeItem (grammar : Grammar) (place : ConditionPlace) : Parser (Bool × Bool) := do
  word "type"
  discard identifier
  write (← grammar.generics).forest
  let hasBounds ← sees (.marks ":")
  grammar.allBounds fun next => next.startsAny [.word "where", .marks "=", .marks ";"]
  let isConditional ← sees (.word "where")
  if place ≠ .afterType then grammar.conditions
  let hasType ← optionalMarks "="
  if hasType then discard (grammar.type true)
  if place = .afterType || (place = .both && !isConditional) then grammar.conditions
  marks ";"
  return (hasBounds, hasType)

/-- The use of a code generator as an item. A semicolon ends it unless braces do. -/
def generatorItem : Parser Unit := do
  discard modularPath
  marks "!"
  let (delimiter, _) ← anyGroup
  if delimiter ≠ .braces then marks ";"

/-- What the use of a code generator as an item may start with. -/
def generatorSigns : List Sign :=
  [.identifier, .word "self", .word "super", .word "crate", .marks "::"]

/-- An item of an implementation. It is not written. -/
def implementationItem (grammar : Grammar) : Parser ImplementationItem := do
  let start ← upcoming
  let annotations ← grammar.outerAttributes
  let visible ← written visibility
  let next ← upcoming
  let isDefault := next.starts (.word "default") && !next.skip.starts (.marks "!")
  let default ← written do if isDefault then word "default"
  let head := visible ++ default
  let next ← upcoming
  let attributed (content : Forest) : ImplementationItem :=
    .other (Attribute.listForest annotations ++ head ++ content)
  let mayGenerate := visible.isEmpty && !isDefault
  if seesFunction false next then
    let signature ← grammar.signature false
    if ← silently (optionalMarks ";") then return .other (← since start)
    let (inner, body) ← grammar.functionBody
    return .function { annotations := annotations ++ inner, head, signature, body }
  else if next.starts (.word "const") then
    let (isUnusual, content) ← captured (grammar.constantItem true)
    if isUnusual then return .other (← since start) else return attributed content
  else if next.starts (.word "type") then
    let ((hasBounds, hasType), content) ← captured (grammar.typeItem .afterType)
    if hasBounds || !hasType then return .other (← since start) else return attributed content
  else if mayGenerate && next.startsAny generatorSigns then
    return attributed (← written generatorItem)
  else
    failExpecting ((if isDefault || next.starts (.word "default") then [] else [.word "default"]) ++
      [.word "fn", .word "const", .word "type"] ++ if mayGenerate then generatorSigns else [])

/-- What an implementation is for: perhaps a trait, and a type. -/
structure Subject where
  trait : Option Forest
  selfType : Forest
  isUnusual : Bool

/--
The subject of an implementation. Only a trait can be refused, with an exclamation mark. Invisible
brackets around a trait are dropped.
-/
def subject (grammar : Grammar) (allowsUnusual : Bool) : Parser Subject := do
  let start ← upcoming
  let isRefused := start.starts (.marks "!") && !start.skip.starts (.group .braces)
  let refusal ← written do if isRefused then marks "!"
  let (shape, first) ← captured (grammar.type true)
  if ← sees (.word "for") then
    if !shape.isPath && !allowsUnusual then fail "expected trait path"
    silently (word "for")
    let selfType ← written (grammar.type true)
    return ⟨some (refusal ++ first.ungrouped ++ .word "for"), selfType, !shape.isPath⟩
  else if isRefused then fail "inherent impls cannot be negative"
  else return ⟨none, first, false⟩

/--
An implementation. It is not written. Inside of a block it may have a visibility and other unusual
parts; it is not looked into then.
-/
def implementation (grammar : Grammar) (allowsUnusual : Bool) :
    Parser (Option Implementation) := do
  let annotations ← grammar.outerAttributes
  let visible ← written do if allowsUnusual then visibility
  let head ← written do
    discard (optionalWord "default")
    discard (optionalWord "unsafe")
    word "impl"
  let generics ← if seesGenerics (← upcoming) then grammar.generics else pure ⟨[]⟩
  let next ← upcoming
  let isConstant := allowsUnusual && (next.starts (.word "const") ||
    (next.starts (.marks "?") && next.skip.starts (.word "const")))
  silently do
    if isConstant then
      discard (optionalMarks "?")
      word "const"
  let subject ← grammar.subject allowsUnusual
  let conditions ← written grammar.conditions
  let (inner, items) ← silently <| enclosed .braces do
    let inner ← grammar.innerAttributes
    let items ← listWhile (!·.isEmpty) grammar.implementationItem
    return (inner, items)
  if !visible.isEmpty || isConstant || subject.isUnusual then return none
  return some
    { annotations := annotations ++ inner, head, generics, trait := subject.trait
      selfType := subject.selfType, conditions, items }

end Grammar

end BeanContainer.Source
