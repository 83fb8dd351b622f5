import BeanContainer.Source.Grammar.Rules
/-!
# Attributes

An attribute is a path in brackets after a hash mark, alone, with a group of any tokens, or with a
value. An inner one, marked by an exclamation mark, belongs to what encloses it.
-/

namespace BeanContainer.Source

/-- What follows the path of an attribute. -/
inductive AttributeForm where
  | bare
  | list (content : Forest)
  | value
  deriving DecidableEq, Repr

/-- An attribute. -/
structure Attribute where
  /-- The identifier that the path consists of, if it is only one. -/
  name : Option Identifier
  isInner : Bool
  form : AttributeForm
  /-- The tokens of the attribute, from the hash mark on. -/
  content : Forest
  deriving DecidableEq, Repr

/-- The forest that is marked as the attribute. -/
def Attribute.forest (tag : Attribute) : Forest :=
  .tagged tag.name tag.content .nil

/-- The forest of attributes one after the other. -/
def Attribute.listForest (attributes : List Attribute) : Forest :=
  .join (attributes.map (·.forest))

/-- Whether the path of the attribute is just the given word. -/
def Attribute.isNamed (tag : Attribute) (name : String) : Bool :=
  tag.name == some ⟨false, name⟩

namespace Grammar

open BeanContainer.Source.Parser

/-- The words that may stand for a segment of a path. -/
def pathWords : List Sign :=
  [.word "super", .word "self", .word "Self", .word "crate"]

/-- A path without arguments; gives its identifier if it is only one. -/
def modularPath : Parser (Option Identifier) := do
  let fromRoot ← optionalMarks "::"
  let segments ← loop (fun (segments, _) => do
    if !(← upcoming).startsAny (.identifier :: pathWords) then return (false, segments, true)
    let segment ← anyIdentifier
    let hasMore ← optionalMarks "::"
    return (hasMore, segments ++ [segment], hasMore)) ([], true)
  match segments with
  | ([], _) => do
    let _ ← identifier
    return none
  | (_, true) => failHere "expected path segment after `::`"
  | ([segment], false) => return if fromRoot then none else some segment
  | _ => return none

/-- What follows the path of an attribute. -/
def attributeForm (grammar : Grammar) : Parser AttributeForm := do
  let next ← upcoming
  if next.startsAny [.group .parentheses, .group .brackets, .group .braces] then
    let (_, content) ← anyGroup
    return .list content
  if !next.starts (.marks "=") || next.startsAny [.marks "==", .marks "=>"] then return .bare
  marks "="
  let value ← upcoming
  if (← ahead? literal).any (·.isEmpty) then literal
  else if value.starts (.marks "#") && value.skip.starts (.group .brackets) then
    failHere "unexpected attribute inside of attribute"
  else grammar.value
  return .value

/-- An attribute. -/
def tag (grammar : Grammar) (isInner : Bool) : Parser Attribute := do
  let ((name, form), content) ← captured do
    marks "#"
    if isInner then marks "!"
    enclosed .brackets do
      let name ←
        if ← sees (.word "unsafe") then some <$> anyIdentifier
        else modularPath
      return (name, ← attributeForm grammar)
  return ⟨name, isInner, form, content⟩

/-- The attributes in front of something. They are not written. -/
def outerAttributes (grammar : Grammar) : Parser (List Attribute) :=
  listWhile (·.starts (.marks "#")) (grammar.tag false)

/-- The attributes in front of an expression. Those in an invisible group belong to what is in it. -/
def expressionAttributes (grammar : Grammar) : Parser (List Attribute) :=
  listWhile (fun next => next.starts (.marks "#") && !next.starts (.group .invisible))
    (grammar.tag false)

/-- The attributes of what encloses them. They are not written. -/
def innerAttributes (grammar : Grammar) : Parser (List Attribute) :=
  listWhile (fun next => next.starts (.marks "#") && next.skip.starts (.marks "!"))
    (grammar.tag true)

/-- The attributes in front of something, which are written there. -/
def annotations (grammar : Grammar) : Parser Unit := do
  write (Attribute.listForest (← grammar.outerAttributes))

/-- Statements in braces. -/
def block (grammar : Grammar) : Parser Unit :=
  enclosed .braces grammar.statements

/-- Statements in braces, with attributes before them. -/
def attributedBlock (grammar : Grammar) : Parser Unit :=
  enclosed .braces do
    write (Attribute.listForest (← grammar.innerAttributes))
    grammar.statements

end Grammar

end BeanContainer.Source
