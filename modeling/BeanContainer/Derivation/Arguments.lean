import BeanContainer.Bean.Kind
import BeanContainer.Source.Grammar.Basic
/-!
# Arguments of a derivation

What the author of a configuration says beside the code: a name, declared beans, further resources,
and dependencies. The arguments are entries between commas. Entries of one kind add up in their order;
only the name can be given but once.
-/

namespace BeanContainer.Derivation

open Source

/-- A bean that the configuration declares; the name is a string literal. -/
structure DeclaredBean where
  name : String
  kind : StrategyKind
  deriving DecidableEq, Repr

/-- One entry of the arguments. Names are string literals, dependencies are paths. -/
inductive Entry where
  | name (literal : String)
  | bean (bean : DeclaredBean)
  | resources (literals : List String)
  | dependencies (paths : List Forest)
  deriving DecidableEq, Repr

/-- All arguments. -/
structure Arguments where
  name : Option String := none
  beans : List DeclaredBean := []
  resources : List String := []
  dependencies : List Forest := []
  deriving DecidableEq, Repr

/-- The word for a kind of strategy. -/
def kindWord : StrategyKind → String
  | .singleton => "singleton"
  | .factory => "factory"
  | .supplied => "instance"
  | .smartSingleton => "smart_singleton"
  | .smartFactory => "smart_factory"

/-- The kind that the identifier is the word for. -/
def kindOf? (identifier : Identifier) : Option StrategyKind :=
  StrategyKind.all.find? fun kind => identifier == ⟨false, kindWord kind⟩

namespace Entry

open BeanContainer.Source.Parser

/--
The path at the beginning of an entry. Any word of the language may be in it. Gives the identifier
that it consists of if it is only one.
-/
def path : Parser (Option Identifier) := do
  let fromRoot ← optionalMarks "::"
  let next ← upcoming
  if next.isEmpty then failHere "expected nested attribute"
  if next.starts .literal && !next.starts .anyIdentifier then
    fail "unexpected literal in nested attribute, expected ident"
  if !next.starts .anyIdentifier then
    fail "unexpected token in nested attribute, expected ident"
  let first ← anyIdentifier
  let segments ← loop (fun segments => do
    if ← optionalMarks "::" then
      discard anyIdentifier
      return (true, segments + 1)
    else return (false, segments)) 1
  return if fromRoot || segments ≠ 1 then none else some first

/-- The kind of strategy of a declared bean. -/
def kind : Parser StrategyKind := do
  match kindOf? (← identifier) with
  | some kind => return kind
  | none =>
    fail "expects one of `singleton`, `factory`, `instance`, `smart_singleton` or `smart_factory`"

/-- Elements in parentheses, with commas between them. -/
def listed {α : Type} (element : Parser α) : Parser (List α) :=
  enclosed .parentheses <| loop (fun elements => do
    if (← upcoming).isEmpty then return (false, elements)
    let elements := elements ++ [← element]
    if (← upcoming).isEmpty then return (false, elements)
    marks ","
    return (true, elements)) []

/-- An entry, given whether the arguments have a name already. -/
def parse (grammar : Grammar) (hasName : Bool) : Parser Entry := do
  match ← path with
  | some ⟨false, "name"⟩ =>
    if hasName then fail "`name` is given more than once"
    marks "="
    return .name (← textLiteral)
  | some ⟨false, "bean"⟩ =>
    enclosed .parentheses do
      let name ← textLiteral
      marks ","
      return .bean ⟨name, ← kind⟩
  | some ⟨false, "resource"⟩ => return .resources (← listed textLiteral)
  | some ⟨false, "depends_on"⟩ =>
    return .dependencies (← listed (written (grammar.path false)))
  | _ =>
    fail "expects `name = \"...\"`, `bean(\"...\", kind)`, `resource(\"...\")` or `depends_on(...)`"

end Entry

namespace Arguments

open BeanContainer.Source.Parser

/-- The arguments with one more entry. -/
def add (arguments : Arguments) : Entry → Arguments
  | .name literal => { arguments with name := some literal }
  | .bean bean => { arguments with beans := arguments.beans ++ [bean] }
  | .resources literals => { arguments with resources := arguments.resources ++ literals }
  | .dependencies paths => { arguments with dependencies := arguments.dependencies ++ paths }

/-- Entries with commas between them. -/
def parse (grammar : Grammar) : Parser Arguments := do
  if (← upcoming).isEmpty then return {}
  loop (fun arguments => do
    let arguments := arguments.add (← Entry.parse grammar arguments.name.isSome)
    if (← upcoming).isEmpty then return (false, arguments)
    marks ","
    return (!(← upcoming).isEmpty, arguments)) ({} : Arguments)

/--
The arguments that a forest of tokens denotes. The grammar is left only what stands in the parentheses
of an entry, so that invisible brackets around entries need no levels of it.
-/
def ofForest (forest : Forest) : Except String Arguments :=
  parseAll (parse (.enoughFor forest.opened)) forest

end Arguments

end BeanContainer.Derivation
