import BeanContainer.Derivation.Arguments
import BeanContainer.Derivation.Roles
import BeanContainer.Source.Grouping
import BeanContainer.Source.Lexer
/-!
# The derived configuration

The implementation of a configuration that is generated for a type. It declares the resources that it
fetches, one for each argument of the constructor, and then the further ones; it fetches them in the
same order and hands them to the constructor.
-/

namespace BeanContainer.Derivation

open Source

/-- A path of words. -/
def codePath : List String → Forest
  | [] => .nil
  | [last] => .word last
  | first :: rest => .word first ++ .marks "::" ++ codePath rest

/-- A string literal that denotes the text. -/
def quotedText (text : String) : Forest :=
  .ofLiteral (Text.literal text)

/-- A forest in parentheses. -/
def inParentheses (content : Forest) : Forest :=
  .enclosed .parentheses content

/-- A reference that is valid for ever to a type. -/
def staticReference (type : Forest) : Forest :=
  .marks "&" ++ .leaf (.mark '\'' true) (.word "static") ++ type

/-- A constant with its type and value. -/
def constant (name : String) (type value : Forest) : Forest :=
  .word "const" ++ .word name ++ .marks ":" ++ type ++ .marks "=" ++ value ++ .marks ";"

/-- A constant that is a list of values of the given type. -/
def listConstant (name : String) (type content : Forest) : Forest :=
  constant name (staticReference (.enclosed .brackets type))
    (.marks "&" ++ .enclosed .brackets content)

/-- The declaration of a resource. -/
def resourceEntry (resource : String) (binding : Option Identifier) : Forest :=
  let entry (function : String) (arguments : Forest) : Forest :=
    codePath ["beanbag", "config", "Resource", function] ++ inParentheses arguments ++ .marks ","
  match binding with
  | some name => entry "bound" (.ofLiteral resource ++ .marks "," ++ quotedText name.text)
  | none => entry "named" (.ofLiteral resource)

/-- The declarations of all resources: those that are fetched come first. -/
def resourceEntries (injections : List Injection) (further : List String) : Forest :=
  .join (injections.map fun injection => resourceEntry injection.resource injection.binding) ++
    .join (further.map fun resource => resourceEntry resource none)

/-- The declaration of a bean. -/
def beanEntry (bean : DeclaredBean) : Forest :=
  codePath ["beanbag", "config", "BeanDecl", "new"] ++
    inParentheses (.ofLiteral bean.name ++ .marks "," ++
      codePath ["beanbag", "strategy", "StrategyKind", bean.kind.name]) ++ .marks ","

/-- The variable that holds the bean for the argument of the given number. -/
def variableName (number : Nat) : Forest :=
  .word ("dep" ++ toString number)

/--
Fetches the bean for an argument: by reference if the type of the argument is a reference, unless that
one is valid for ever, and otherwise by value.
-/
def fetchStatement (number : Nat) (injection : Injection) : Forest :=
  let (function, type) : String × Forest := match injection.shape with
    | .reference lifetime element =>
      if lifetime == some ⟨false, "static"⟩ then ("get_bean", injection.type)
      else ("get_bean_ref", element)
    | _ => ("get_bean", injection.type)
  .word "let" ++ variableName number ++ .marks "=" ++ .word "registry" ++ .marks "." ++
    .word function ++ .marks "::" ++ .marks "<" ++ type ++ .marks ">" ++
    inParentheses (.ofLiteral injection.resource) ++ .marks "?" ++ .marks ";"

/-- The call of the constructor with all that was fetched. -/
def constructorCall (construct : ConstructorRole) : Forest :=
  let arguments := (List.range construct.injections.length).map fun number =>
    variableName number ++ .marks ","
  let call : Forest := .word "Self" ++ .marks "::" ++ .ofIdentifier construct.name ++
    inParentheses (.join arguments)
  if construct.isFallible then
    let name : Forest := .marks "<" ++ .word "Self" ++ .word "as" ++
      codePath ["beanbag", "config", "Configuration"] ++ .marks ">" ++ .marks "::" ++ .word "NAME"
    call ++ .marks "." ++ .word "map_err" ++ inParentheses (.marks "|" ++ .word "err" ++ .marks "|" ++
      .enclosed .braces (codePath ["beanbag", "config", "ConfigurationError", "construction"] ++
        inParentheses (name ++ .marks "," ++ .word "err" ++ .marks ",")))
  else .word "Ok" ++ inParentheses call

/-- The type of the registry. -/
def registryType : Forest :=
  codePath ["beanbag", "registry", "BeanRegistry"]

/-- The type of a result that may be a failure of a configuration. -/
def resultType (value : Forest) : Forest :=
  codePath ["std", "result", "Result"] ++ .marks "<" ++ value ++ .marks "," ++
    codePath ["beanbag", "config", "ConfigurationError"] ++ .marks ">"

/-- A function with its arguments, the type of what it gives, and its body. -/
def functionCode (name : String) (arguments result body : Forest) : Forest :=
  .word "fn" ++ .word name ++ inParentheses arguments ++ .marks "->" ++ resultType result ++
    .enclosed .braces body

/-- The function that builds the configuration. -/
def constructCode (construct : ConstructorRole) : Forest :=
  let statements := construct.injections.zipIdx.map fun (injection, number) =>
    fetchStatement number injection
  functionCode "construct" (.word "registry" ++ .marks ":" ++ .marks "&" ++ registryType ++ .marks ",")
    (.word "Self") (.join statements ++ constructorCall construct)

/-- The body of a hook: calls the function with the role. -/
def hookBody (hook : HookRole) : Forest :=
  let call (arguments : Forest) : Forest :=
    .word "self" ++ .marks "." ++ .ofIdentifier hook.name ++ inParentheses arguments
  let code :=
    if hook.takesRegistry then call (.word "registry")
    else .enclosed .braces (.word "let" ++ .word "_" ++ .marks "=" ++ .word "registry" ++ .marks ";" ++
      call .nil)
  if hook.isFallible then
    code ++ .marks "." ++ .word "map_err" ++
      inParentheses (codePath ["std", "convert", "Into", "into"])
  else code ++ .marks ";" ++ .word "Ok" ++ inParentheses (inParentheses .nil)

/-- A hook, whose registry may be one that it can change. -/
def hookCode (name : String) (registryReference : Forest) (hook : HookRole) : Forest :=
  functionCode name
    (.marks "&" ++ .word "mut" ++ .word "self" ++ .marks "," ++ .word "registry" ++ .marks ":" ++
      registryReference ++ registryType ++ .marks ",")
    (inParentheses .nil) (hookBody hook)

/-- The implementation of a configuration for the type that the given implementation is for. -/
def configurationCode (arguments : Arguments) (implementation : Implementation) (roles : Roles) :
    Forest :=
  let name : Forest := match arguments.name with
    | some literal => constant "NAME" (staticReference (.word "str")) (.ofLiteral literal)
    | none => .nil
  let dependencies := arguments.dependencies.map fun path => path ++ .marks ","
  let body := name ++
    listConstant "RESOURCES" (codePath ["beanbag", "config", "Resource"])
      (resourceEntries roles.construct.injections arguments.resources) ++
    listConstant "BEANS" (codePath ["beanbag", "config", "BeanDecl"])
      (.join (arguments.beans.map beanEntry)) ++
    .word "type" ++ .word "Dependencies" ++ .marks "=" ++ inParentheses (.join dependencies) ++
    .marks ";" ++
    constructCode roles.construct ++
    ((roles.postInit.map (hookCode "post_init" (.marks "&"))).getD .nil) ++
    ((roles.provideBeans.map (hookCode "provide_beans" (.marks "&" ++ .word "mut"))).getD .nil)
  .word "impl" ++ implementation.generics.withoutDefaults ++
    codePath ["beanbag", "config", "Configuration"] ++ .word "for" ++ implementation.selfType ++
    implementation.conditions ++ .enclosed .braces body

/--
The implementation without the attributes that give roles, followed by the configuration that is
derived from it.
-/
def expand (arguments : Arguments) (implementation : Implementation) :
    Except DerivationError Forest :=
  (Roles.ofImplementation implementation).map fun roles =>
    implementation.forest.without isMarker ++ configurationCode arguments implementation roles

/-- The implementation that a forest of tokens is. -/
def implementationOf? (forest : Forest) : Option Implementation :=
  match Parser.parseAll ((Grammar.enoughFor forest).implementation false) forest with
  | .ok implementation => implementation
  | .error _ => none

/--
What the source text of the arguments and of an item expands to. Both are split into tokens before
either is looked into, and the arguments come first.
-/
def derive (arguments item : String) : Except DerivationError Forest :=
  match Forest.ofText? arguments, Forest.ofText? item with
  | some arguments, some item =>
    match Arguments.ofForest arguments with
    | .error message => .error (.arguments message)
    | .ok arguments =>
      match implementationOf? item with
      | none => .error .item
      | some implementation => expand arguments implementation
  | _, _ => .error .text

end BeanContainer.Derivation
