import BeanContainer.Source.Grammar.Type
/-!
# Generic parameters

Parameters in angle brackets, with bounds and defaults, and conditions on them after a word of their
own.
-/

namespace BeanContainer.Source

/-- A generic parameter: what is declared, and its default. -/
structure GenericParameter where
  isLifetime : Bool
  /-- Attributes, name and bounds. -/
  declared : Forest
  default : Forest
  hasComma : Bool
  deriving DecidableEq, Repr

/-- Generic parameters. -/
structure Generics where
  parameters : List GenericParameter
  deriving DecidableEq, Repr

namespace Generics

/-- Parameters in angle brackets, lifetimes first; nothing if there are none. -/
private def inAngles (elements : List Ordered) : Forest :=
  if elements.isEmpty then .nil else .marks "<" ++ Ordered.listForest elements ++ .marks ">"

/-- The parameters as they are declared. -/
def forest (generics : Generics) : Forest :=
  inAngles (generics.parameters.map fun parameter =>
    ⟨parameter.isLifetime, parameter.declared ++ parameter.default, parameter.hasComma⟩)

/-- The parameters without their defaults, as an implementation has them. -/
def withoutDefaults (generics : Generics) : Forest :=
  inAngles (generics.parameters.map fun parameter =>
    ⟨parameter.isLifetime, parameter.declared, parameter.hasComma⟩)

end Generics

namespace Grammar

open BeanContainer.Source.Parser

/-- A generic parameter without its comma. -/
def genericParameter (grammar : Grammar) : Parser GenericParameter := do
  let annotations ← written grammar.annotations
  let next ← upcoming
  if next.starts .lifetime then
    let declared ← written lifetimeParameter
    return ⟨true, annotations ++ declared, .nil, false⟩
  else if next.starts .identifier then
    let declared ← written grammar.typeParameter
    let default ← written grammar.typeDefault
    return ⟨false, annotations ++ declared, default, false⟩
  else if next.starts (.word "const") then
    let declared ← written grammar.constantParameter
    let default ← written grammar.constantDefault
    return ⟨false, annotations ++ declared, default, false⟩
  else if next.starts (.word "_") then
    let declared ← written anyIdentifier
    return ⟨false, annotations ++ declared, .nil, false⟩
  else failExpecting [.lifetime, .identifier, .word "const"]

/-- Generic parameters, if there are any. They are not written. -/
def generics (grammar : Grammar) : Parser Generics := do
  if !(← sees (.marks "<")) then return ⟨[]⟩
  silently do
    marks "<"
    let parameters ← loop (fun parameters => do
      if ← sees (.marks ">") then return (false, parameters)
      let parameter ← grammar.genericParameter
      if ← sees (.marks ">") then return (false, parameters ++ [parameter])
      marks ","
      return (true, parameters ++ [{ parameter with hasComma := true }])) []
    marks ">"
    return ⟨parameters⟩

/-- Whether generic parameters follow, and not a path that starts from a type. -/
def seesGenerics (next : Forest) : Bool :=
  let second := next.skip
  let third := second.skip
  next.starts (.marks "<") && (second.startsAny [.marks ">", .marks "#", .word "const"] ||
    (second.startsAny [.lifetime, .identifier] && (third.startsAny [.marks ">", .marks ",", .marks "="] ||
      (third.starts (.marks ":") && !third.starts (.marks "::")))))

/-- Whether the conditions end here. -/
private def endsConditions (next : Forest) : Bool :=
  next.isEmpty || next.startsAny [.group .braces, .marks ",", .marks ";", .marks "="] ||
    (next.starts (.marks ":") && !next.starts (.marks "::"))

/-- A condition on parameters. -/
def condition (grammar : Grammar) : Parser Unit := do
  let next ← upcoming
  if next.starts .lifetime && next.skip.starts (.marks ":") then
    discard lifetime
    marks ":"
    plusSeparated (fun next => endsConditions next || next.starts (.marks ":")) (discard lifetime)
  else
    let _ ← grammar.binder
    discard (grammar.type true)
    marks ":"
    plusSeparated endsConditions (discard (grammar.bound false true))

/-- Conditions on parameters, if there are any. -/
def conditions (grammar : Grammar) : Parser Unit := do
  if ← sees (.word "where") then
    silently (word "where")
    if seesGenerics (← upcoming) then
      failHere "generic parameters on `where` clauses are reserved for future use"
    let conditions ← written <| repeating do
      if endsConditions (← upcoming) then return false
      grammar.condition
      optionalMarks ","
    if !conditions.isEmpty then
      write (.word "where")
      write conditions

end Grammar

end BeanContainer.Source
