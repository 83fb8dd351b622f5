import BeanContainer.Source.Grammar.Expression
import BeanContainer.Source.Grammar.Implementation
/-!
# Items and statements

What stands in the body of a function: items, declarations of variables, and expressions. Items that
are unusual are kept as they were read, their attributes with them.
-/

namespace BeanContainer.Source.Grammar

open BeanContainer.Source.Parser

/-- Whether fields come next that make up a type of their own. -/
def seesFields (next : Forest) : Bool :=
  next.starts (.word "struct") ||
    (next.starts (.word "union") && next.skip.starts (.group .braces))

/-- A field with a name. One without may consist of further fields, which are not looked into. -/
def namedField (grammar : Grammar) : Parser Unit := do
  grammar.annotations
  visibility
  let isNameless ← optionalWord "_"
  if !isNameless then discard identifier
  marks ":"
  if isNameless && seesFields (← upcoming) then
    verbatim do
      discard anyIdentifier
      grammar.fields
  else discard (grammar.type true)

/-- Fields with names, in braces. -/
def fieldsRule (grammar : Grammar) : Parser Unit :=
  enclosed .braces (commaSeparated grammar.namedField)

/-- A field without a name. -/
def namelessField (grammar : Grammar) : Parser Unit := do
  grammar.annotations
  visibility
  discard (grammar.type true)

/-- Fields without names, in parentheses. -/
def namelessFields (grammar : Grammar) : Parser Unit :=
  enclosed .parentheses (commaSeparated grammar.namelessField)

/-- A name and its generic parameters. -/
def genericName (grammar : Grammar) : Parser Unit := do
  discard identifier
  write (← grammar.generics).forest

/-- A structure. -/
def structItem (grammar : Grammar) : Parser Unit := do
  word "struct"
  grammar.genericName
  let isConditional ← sees (.word "where")
  grammar.conditions
  let next ← upcoming
  if !isConditional && next.starts (.group .parentheses) then
    grammar.namelessFields
    let isConditional ← sees (.word "where")
    grammar.conditions
    if ← sees (.marks ";") then marks ";"
    else failExpecting ((if isConditional then [] else [.word "where"]) ++ [.marks ";"])
  else if next.starts (.group .braces) then grammar.fields
  else if next.starts (.marks ";") then marks ";"
  else
    failExpecting ((if isConditional then [] else [.word "where", .group .parentheses]) ++
      [.group .braces, .marks ";"])

/-- A variant of an enumeration. A visibility is read, but means nothing and is not written. -/
def variant (grammar : Grammar) : Parser Unit := do
  grammar.annotations
  silently visibility
  discard identifier
  let next ← upcoming
  if next.starts (.group .braces) then grammar.fields
  else if next.starts (.group .parentheses) then grammar.namelessFields
  if ← optionalMarks "=" then grammar.value

/-- An enumeration. -/
def enumItem (grammar : Grammar) : Parser Unit := do
  word "enum"
  grammar.genericName
  grammar.conditions
  enclosed .braces (commaSeparated grammar.variant)

/-- A union. -/
def unionItem (grammar : Grammar) : Parser Unit := do
  word "union"
  grammar.genericName
  grammar.conditions
  grammar.fields

/-- A function of a trait. Its body may be missing. -/
def traitFunction (grammar : Grammar) : Parser Unit := do
  write (← grammar.signature false).forest
  let next ← upcoming
  if next.starts (.group .braces) then grammar.attributedBlock
  else if next.starts (.marks ";") then marks ";"
  else failExpecting [.group .braces, .marks ";"]

/-- A constant of a trait, from its word on; tells whether it is unusual. -/
def traitConstant (grammar : Grammar) : Parser Bool := do
  let functionSigns := [.word "async", .word "unsafe", .word "extern", .word "fn"]
  let next := (← upcoming).skip
  if next.startsAny [.identifier, .word "_"] then grammar.constantItem false
  else if next.startsAny functionSigns then
    grammar.traitFunction
    return false
  else
    word "const"
    failExpecting ([.identifier, .word "_"] ++ functionSigns)

/-- An item of a trait. It is unusual if it has a visibility or is a default. -/
def traitItem (grammar : Grammar) : Parser Unit := do
  let start ← upcoming
  let annotations ← grammar.outerAttributes
  let visible ← written visibility
  let (isDefault, _) ← captured (optionalWord "default")
  let next ← upcoming
  let hasHead := !visible.isEmpty || isDefault
  let (isUnusual, content) ← captured do
    if seesFunction false next then
      grammar.traitFunction
      return false
    else if next.starts (.word "const") then grammar.traitConstant
    else if next.starts (.word "type") then
      discard (grammar.typeItem .afterType)
      return false
    else if !hasHead && next.startsAny generatorSigns then
      generatorItem
      return false
    else
      failExpecting ([.word "fn", .word "const", .word "type"] ++
        if hasHead then [] else generatorSigns)
  if isUnusual || hasHead then write (← since start)
  else
    write (Attribute.listForest annotations)
    write content

/-- A name for bounds, from its equals sign on. -/
def boundsAlias (grammar : Grammar) : Parser Unit := do
  marks "="
  let isEnd := fun (next : Forest) => next.startsAny [.word "where", .marks ";"]
  discard (separated isEnd "+" (discard (grammar.bound false false)))
  grammar.conditions
  marks ";"

/-- A trait, or a name for bounds. -/
def traitDeclaration (grammar : Grammar) : Parser Unit := do
  let isUnsafe ← optionalWord "unsafe"
  let isAutomatic ← optionalWord "auto"
  word "trait"
  grammar.genericName
  let mayBeAlias := !isUnsafe && !isAutomatic
  let next ← upcoming
  if mayBeAlias && next.starts (.marks "=") then grammar.boundsAlias
  else
    if mayBeAlias && !next.startsAny [.group .braces, .marks ":", .word "where"] then
      failExpecting [.group .braces, .marks ":", .word "where", .marks "="]
    grammar.allBounds fun next => next.startsAny [.word "where", .group .braces]
    grammar.conditions
    enclosed .braces do
      write (Attribute.listForest (← grammar.innerAttributes))
      discard (listWhile (!·.isEmpty) grammar.traitItem)

/-- A module. -/
def moduleItem (grammar : Grammar) : Parser Unit := do
  discard (optionalWord "unsafe")
  word "mod"
  if ← sees (.word "try") then word "try" else discard identifier
  let next ← upcoming
  if next.starts (.marks ";") then marks ";"
  else if next.starts (.group .braces) then
    enclosed .braces do
      write (Attribute.listForest (← grammar.innerAttributes))
      discard (listWhile (!·.isEmpty) grammar.item)
  else failExpecting [.marks ";", .group .braces]

/-- What a declaration imports; tells whether a path inside braces starts at the root. -/
def importTreeRule (grammar : Grammar) (allowsRoot : Bool) : Parser Bool := do
  let next ← upcoming
  let signs := [.identifier, .word "self", .word "super", .word "crate", .word "try"]
  if next.startsAny signs then
    discard anyIdentifier
    if ← optionalMarks "::" then grammar.importTree false
    else if ← optionalWord "as" then
      if (← upcoming).startsAny [.identifier, .word "_"] then discard anyIdentifier
      else failHere "expected identifier or underscore"
      return false
    else return false
  else if next.starts (.marks "*") then
    marks "*"
    return false
  else if next.starts (.group .braces) then
    enclosed .braces <| loop (fun hasRoot => do
      if (← upcoming).isEmpty then return (false, hasRoot)
      let isRoot ← if allowsRoot then optionalMarks "::" else pure false
      let isUnusual ← grammar.importTree (allowsRoot && !isRoot)
      let hasRoot := hasRoot || isRoot || isUnusual
      if (← upcoming).isEmpty then return (false, hasRoot)
      marks ","
      return (true, hasRoot)) false
  else failExpecting (signs ++ [.marks "*", .group .braces])

/-- An import; tells whether it is unusual. -/
def importItem (grammar : Grammar) : Parser Bool := do
  word "use"
  let fromRoot ← optionalMarks "::"
  let isUnusual ← grammar.importTree (!fromRoot)
  marks ";"
  return isUnusual

/-- A variable of a program; tells whether it is unusual, without a type or a value. -/
def staticItem (grammar : Grammar) : Parser Bool := do
  word "static"
  discard (optionalWord "mut")
  discard identifier
  if ← sees (.marks "=") then
    marks "="
    grammar.value
    marks ";"
    return true
  marks ":"
  discard (grammar.type true)
  if ← optionalMarks ";" then return true
  marks "="
  grammar.value
  marks ";"
  return false

/-- A function, a variable or a type from elsewhere. -/
def foreignItem (grammar : Grammar) : Parser Unit := do
  let start ← upcoming
  let annotations ← grammar.outerAttributes
  let (isUnusual, content) ← captured do
    let visible ← written visibility
    write visible
    let next ← upcoming
    if seesFunction true next then
      let signature ← grammar.signature true
      write signature.forest
      let hasBody ← sees (.group .braces)
      if hasBody then grammar.attributedBlock else marks ";"
      return hasBody || signature.isMarkedSafe
    else if next.starts (.word "static") ||
        (next.startsAny [.word "unsafe", .word "safe"] && next.skip.starts (.word "static")) then
      let isMarked := !next.starts (.word "static")
      if isMarked then discard anyIdentifier
      word "static"
      discard (optionalWord "mut")
      discard identifier
      marks ":"
      discard (grammar.type true)
      let hasValue ← optionalMarks "="
      if hasValue then grammar.value
      marks ";"
      return isMarked || hasValue
    else if next.starts (.word "type") then
      let (hasBounds, hasType) ← grammar.typeItem .both
      return hasBounds || hasType
    else if visible.isEmpty && next.startsAny generatorSigns then
      generatorItem
      return false
    else
      failExpecting ([.word "fn", .word "static", .word "type"] ++
        if visible.isEmpty then generatorSigns else [])
  if isUnusual then write (← since start)
  else
    write (Attribute.listForest annotations)
    write content

/-- Items from another language. -/
def foreignModule (grammar : Grammar) : Parser Unit := do
  discard (optionalWord "unsafe")
  foreignLanguage
  enclosed .braces do
    write (Attribute.listForest (← grammar.innerAttributes))
    discard (listWhile (!·.isEmpty) grammar.foreignItem)

/-- A library from elsewhere. -/
def foreignLibrary : Parser Unit := do
  word "extern"
  word "crate"
  if ← sees (.word "self") then word "self" else discard identifier
  if ← optionalWord "as" then
    if ← sees (.word "_") then word "_" else discard identifier
  marks ";"

/-- A code generator with a name. -/
def generatorDeclaration : Parser Unit := do
  word "macro"
  discard identifier
  let hasArguments ← sees (.group .parentheses)
  if hasArguments then discard anyGroup
  if ← sees (.group .braces) then discard anyGroup
  else failExpecting ((if hasArguments then [] else [.group .parentheses]) ++ [.group .braces])

/-- The use of a code generator as an item, perhaps with a name for what is generated. -/
def namedGeneratorItem : Parser Unit := do
  discard modularPath
  marks "!"
  let next ← upcoming
  if next.starts (.word "try") then discard anyIdentifier
  else if next.starts .identifier then discard identifier
  let (delimiter, _) ← anyGroup
  if delimiter ≠ .braces then marks ";"

/-- Something from elsewhere: a library, or items, which have no visibility. -/
def foreignDeclaration (grammar : Grammar) (isVisible : Bool) : Parser Unit := do
  let next ← upcoming
  let second := next.skip
  let third := second.skip
  if next.starts (.word "extern") then
    if second.starts (.word "crate") then
      foreignLibrary
      return
    if second.starts .textLiteral then
      if !third.starts (.group .braces) then
        foreignLanguage
        failExpecting [.group .braces]
    else if !second.starts (.group .braces) then
      word "extern"
      failExpecting [.word "crate", .group .braces, .textLiteral]
  if isVisible then failExpecting [.word "extern"]
  grammar.foreignModule

/-- An implementation among other items; tells whether it is unusual. -/
def implementationDeclaration (grammar : Grammar) (isVisible : Bool) : Parser Bool := do
  match ← grammar.implementation true with
  | some implementation =>
    write implementation.forest
    return isVisible
  | none => return true

/-- An item that starts with the word for what the language cannot check. -/
def unsafeItem (grammar : Grammar) (isVisible : Bool) : Parser Bool := do
  let next := (← upcoming).skip
  let signs := [.word "trait", .word "auto", .word "impl", .word "extern", .word "mod"]
  let usual (parser : Parser Unit) : Parser Bool := do
    parser
    return false
  if next.starts (.word "trait") || (next.starts (.word "auto") && next.skip.starts (.word "trait")) then
    usual grammar.traitDeclaration
  else if next.starts (.word "impl") then grammar.implementationDeclaration isVisible
  else if next.starts (.word "extern") then usual (grammar.foreignDeclaration isVisible)
  else if next.starts (.word "mod") then usual grammar.moduleItem
  else
    word "unsafe"
    failExpecting (signs.filter (!next.starts ·))

/-- An item after its attributes and its visibility; tells whether it is unusual. -/
def itemBody (grammar : Grammar) (isVisible : Bool) : Parser Bool := do
  let usual (parser : Parser Unit) : Parser Bool := do
    parser
    return false
  let next ← upcoming
  let second := next.skip
  if seesFunction false next then
    write (← grammar.signature false).forest
    if ← optionalMarks ";" then return true
    grammar.attributedBlock
    return false
  else if next.starts (.word "extern") then usual (grammar.foreignDeclaration isVisible)
  else if next.starts (.word "use") then grammar.importItem
  else if next.starts (.word "static") then grammar.staticItem
  else if next.starts (.word "const") then grammar.constantItem true
  else if next.starts (.word "unsafe") then grammar.unsafeItem isVisible
  else if next.starts (.word "mod") then usual grammar.moduleItem
  else if next.starts (.word "type") then
    let (hasBounds, hasType) ← grammar.typeItem .beforeType
    return hasBounds || !hasType
  else if next.starts (.word "struct") then usual grammar.structItem
  else if next.starts (.word "enum") then usual grammar.enumItem
  else if next.starts (.word "union") && second.starts .identifier then usual grammar.unionItem
  else if next.starts (.word "trait") || (next.starts (.word "auto") && second.starts (.word "trait"))
      then usual grammar.traitDeclaration
  else if next.starts (.word "impl") ||
      (next.starts (.word "default") && !second.starts (.marks "!")) then
    grammar.implementationDeclaration isVisible
  else if next.starts (.word "macro") then
    generatorDeclaration
    return true
  else if !isVisible && next.startsAny generatorSigns then usual namedGeneratorItem
  else
    let words := ["fn", "extern", "use", "static", "const", "unsafe", "mod", "type", "struct", "enum",
      "union", "trait", "auto", "impl", "default", "macro"]
    let signs := words.map .word ++ if isVisible then [] else generatorSigns
    failExpecting (signs.filter (!next.starts ·))

/-- The rest of an item whose attributes were read from the given start on. -/
def restOfItem (grammar : Grammar) (start : Forest) (annotations : List Attribute) :
    Parser Unit := do
  let (isUnusual, content) ← captured do
    let visible ← written visibility
    write visible
    grammar.itemBody (!visible.isEmpty)
  if isUnusual then write (← since start)
  else
    write (Attribute.listForest annotations)
    write content

/-- An item. -/
def itemRule (grammar : Grammar) : Parser Unit := do
  let start ← upcoming
  let annotations ← grammar.outerAttributes
  grammar.restOfItem start annotations

/-- The declaration of a variable. A value that ends in braces leaves no other case. -/
def letStatement (grammar : Grammar) : Parser Unit := do
  word "let"
  discard grammar.pattern
  if ← optionalMarks ":" then discard (grammar.type true)
  if ← optionalMarks "=" then
    let start ← upcoming
    grammar.value
    if !(← since start).endsWithBraces && (← sees (.word "else")) then
      word "else"
      grammar.block
  marks ";"

/-- Whether an item comes next in a block. -/
def seesItem (next : Forest) : Bool :=
  let second := next.skip
  let third := second.skip
  next.startsAny [.word "pub", .word "extern", .word "use", .word "fn", .word "mod", .word "type",
      .word "struct", .word "enum", .word "trait", .word "impl", .word "macro"] ||
    (next.starts (.word "crate") && !second.starts (.marks "::")) ||
    (next.starts (.word "static") && (second.starts (.word "mut") ||
      (second.starts .identifier && !(second.starts (.word "async") &&
        third.startsAny [.word "move", .marks "|"])))) ||
    (next.starts (.word "const") && !(second.startsAny
        [.group .braces, .word "static", .word "move", .marks "|"] ||
      (second.starts (.word "async") &&
        !third.startsAny [.word "unsafe", .word "extern", .word "fn"]))) ||
    (next.starts (.word "unsafe") && !second.starts (.group .braces)) ||
    (next.starts (.word "async") &&
      second.startsAny [.word "unsafe", .word "extern", .word "fn"]) ||
    (next.starts (.word "union") && second.starts .identifier) ||
    (next.starts (.word "auto") && second.starts (.word "trait")) ||
    (next.starts (.word "default") && second.startsAny [.word "unsafe", .word "impl"])

/-- How a statement goes on that starts with the use of a code generator. -/
inductive GeneratorUse where
  | none
  /-- It is a statement of its own. -/
  | statement
  /-- What is generated gets a name. -/
  | item
  deriving DecidableEq, Repr

/-- Whether the use of a code generator comes next, and which. -/
def generatorUse : Parser GeneratorUse := do
  let some next ← ahead? modularPath | return .none
  let second := next.skip
  let third := second.skip
  if !next.starts (.marks "!") then return .none
  else if second.startsAny [.identifier, .word "try"] then return .item
  else if second.starts (.group .braces) &&
      !((third.starts (.marks ".") && !third.starts (.marks "..")) ||
        third.starts (.marks "?")) then return .statement
  else return .none

/-- A statement; tells whether it needs a semicolon after it if anything follows. -/
def statement (grammar : Grammar) : Parser Bool := do
  let start ← upcoming
  let annotations ← grammar.outerAttributes
  let next ← upcoming
  let use ← generatorUse
  if use = .statement then
    write (Attribute.listForest annotations)
    discard modularPath
    marks "!"
    discard anyGroup
    discard (optionalMarks ";")
    return false
  else if next.starts (.word "let") && !next.starts (.group .invisible) then
    write (Attribute.listForest annotations)
    grammar.letStatement
    return false
  else if seesItem next || use = .item then
    grammar.restOfItem start annotations
    return false
  else
    let inner ← grammar.boundedExpression
    write (.ofExpression .statement
      (inner.annotateFirst (Attribute.listForest annotations) (start.until next)))
    let hasSemicolon ← optionalMarks ";"
    return !hasSemicolon && !inner.isStatement

/-- The statements of a block. -/
def statementsRule (grammar : Grammar) : Parser Unit :=
  repeating do
    if ← optionalMarks ";" then return true
    if (← upcoming).isEmpty then return false
    let needsSemicolon ← grammar.statement
    if (← upcoming).isEmpty then return false
    if needsSemicolon then failHere "unexpected token, expected `;`"
    return true

end BeanContainer.Source.Grammar
