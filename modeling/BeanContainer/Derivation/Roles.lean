import BeanContainer.Derivation.Error
import BeanContainer.Source.Grammar.Basic
import BeanContainer.Text.Quoted
/-!
# Roles of functions

The functions of an implementation that make up a configuration: the constructor, whose arguments are
beans to be fetched, and the two hooks, which may be missing.
-/

namespace BeanContainer.Derivation

open Source

/-- The identifier of the marker. -/
def Marker.identifier (marker : Marker) : Identifier :=
  ⟨false, marker.name⟩

/-- Whether the identifier is one of the markers. -/
def isMarker (identifier : Identifier) : Bool :=
  [Marker.construct, .postInit, .provideBeans, .resource].any (·.identifier == identifier)

/-- An argument of the constructor: a bean that is fetched for it. -/
structure Injection where
  /-- The name of the bean, a string literal. -/
  resource : String
  /-- The argument as an identifier, if it is one. -/
  binding : Option Identifier
  type : Forest
  shape : TypeShape
  deriving Repr

/-- The constructor. -/
structure ConstructorRole where
  name : Identifier
  injections : List Injection
  /-- Whether it may fail. -/
  isFallible : Bool
  deriving Repr

/-- A hook. -/
structure HookRole where
  name : Identifier
  takesRegistry : Bool
  isFallible : Bool
  deriving DecidableEq, Repr

/-- All roles. -/
structure Roles where
  construct : ConstructorRole
  postInit : Option HookRole
  provideBeans : Option HookRole
  deriving Repr

/-- The name of the resource that an attribute of an argument gives. -/
def resourceOf (tag : Attribute) : Except DerivationError String :=
  match tag.form with
  | .bare => .error (.resource "expected attribute arguments in parentheses: #[resource(...)]")
  | .value => .error (.resource "expected parentheses: #[resource(...)]")
  | .list content => (Parser.parseAll Parser.textLiteral content).mapError .resource

/-- The name of the resource that the attributes of an argument give. It may be given only once. -/
def resourceAmong (given : Option String) :
    List Attribute → Except DerivationError (Option String)
  | [] => .ok given
  | tag :: rest =>
    if tag.isNamed Marker.resource.name then
      match given with
      | some _ => .error .repeatedResource
      | none =>
        match resourceOf tag with
        | .error error => .error error
        | .ok resource => resourceAmong (some resource) rest
    else resourceAmong given rest

namespace Injection

/--
The bean that is fetched for an argument. If no attribute names it, the argument does, whose name then
must be all there is to its pattern.
-/
def ofArgument (annotations : List Attribute) (argument : TypedArgument) :
    Except DerivationError Injection :=
  match resourceAmong none annotations, argument.binding with
  | .error error, _ => .error error
  | .ok (some resource), binding => .ok ⟨resource, binding, argument.type, argument.shape⟩
  | .ok none, some name =>
    .ok ⟨Text.literal name.name, some name, argument.type, argument.shape⟩
  | .ok none, none => .error .namelessArgument

/-- The beans that are fetched for all arguments, unless one of these is refused. -/
def ofArguments : List Argument → Except DerivationError (List Injection)
  | [] => .ok []
  | argument :: rest =>
    match argument.kind with
    | .receiver _ => ofArguments rest
    | .typed typed =>
      match ofArgument argument.annotations typed with
      | .error error => .error error
      | .ok injection => (ofArguments rest).map (injection :: ·)

end Injection

/-- Whether the type is a path whose last segment says that it may be a failure. -/
def isResult : TypeShape → Bool
  | .path _ path => path.last == ⟨false, "Result"⟩
  | _ => false

/-- Whether the type is that of nothing. -/
def isUnit : TypeShape → Bool
  | .unit => true
  | _ => false

/-- The constructor that a signature describes. -/
def ConstructorRole.ofSignature (signature : Signature) : Except DerivationError ConstructorRole :=
  let startsWithReceiver := match signature.arguments with
    | ⟨_, .receiver _, _⟩ :: _ => true
    | _ => false
  if startsWithReceiver then .error .constructorReceiver
  else
    match Injection.ofArguments signature.arguments with
    | .error error => .error error
    | .ok injections =>
      match signature.result with
      | none => .error .missingResult
      | some result => .ok ⟨signature.name, injections, isResult result.shape⟩

/-- The hook that a signature describes. -/
def HookRole.ofSignature (marker : Marker) (signature : Signature) :
    Except DerivationError HookRole :=
  match signature.arguments with
  | ⟨_, .receiver receiver, _⟩ :: others =>
    if receiver.isReference && receiver.isMutable then
      let isFallible := match signature.result with
        | none => false
        | some result => !isUnit result.shape
      match others with
      | [] => .ok ⟨signature.name, false, isFallible⟩
      | [_] => .ok ⟨signature.name, true, isFallible⟩
      | _ => .error (.hookArguments marker)
    else .error (.hookReceiver marker)
  | _ => .error (.hookReceiver marker)

/-- The signature of the only function with the marker, if there is one. -/
def marked? (functions : List AssociatedFunction) (marker : Marker) :
    Except DerivationError (Option Signature) :=
  match functions.filter fun function => function.annotations.any (·.isNamed marker.name) with
  | [] => .ok none
  | [function] => .ok (some function.signature)
  | _ => .error (.repeatedMarker marker)

/-- The hook with the marker, if there is one. -/
def hook? (functions : List AssociatedFunction) (marker : Marker) :
    Except DerivationError (Option HookRole) :=
  match marked? functions marker with
  | .error error => .error error
  | .ok none => .ok none
  | .ok (some signature) => (HookRole.ofSignature marker signature).map some

/-- The roles of the functions of an implementation. It must not be on behalf of a trait. -/
def Roles.ofImplementation (implementation : Implementation) : Except DerivationError Roles :=
  let functions := implementation.functions
  if implementation.trait.isSome then .error .trait
  else
    match marked? functions .construct with
    | .error error => .error error
    | .ok none => .error .missingConstructor
    | .ok (some signature) =>
      match ConstructorRole.ofSignature signature with
      | .error error => .error error
      | .ok construct =>
        match hook? functions .postInit with
        | .error error => .error error
        | .ok postInit =>
          match hook? functions .provideBeans with
          | .error error => .error error
          | .ok provideBeans => .ok ⟨construct, postInit, provideBeans⟩

end BeanContainer.Derivation
