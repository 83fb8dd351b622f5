/-!
# Failures of derivations

Why no configuration could be derived. A failure is a cause; its wording is a function of the cause.
-/

namespace BeanContainer.Derivation

/-- The attributes that give roles to functions and their arguments. -/
inductive Marker where
  | construct
  | postInit
  | provideBeans
  | resource
  deriving DecidableEq, Repr

/-- The word of the marker. -/
def Marker.name : Marker → String
  | construct => "construct"
  | postInit => "post_init"
  | provideBeans => "provide_beans"
  | resource => "resource"

/-- Why no configuration could be derived. -/
inductive DerivationError where
  /-- The source text is not made of tokens. -/
  | text
  /-- The arguments are malformed. -/
  | arguments (message : String)
  /-- The item is no implementation. -/
  | item
  /-- The implementation is on behalf of a trait. -/
  | trait
  /-- Several functions have the role. -/
  | repeatedMarker (marker : Marker)
  | missingConstructor
  /-- The constructor is called on a value. -/
  | constructorReceiver
  /-- An argument names several resources. -/
  | repeatedResource
  /-- The name of a resource is malformed. -/
  | resource (message : String)
  /-- An argument is no plain name and names no resource. -/
  | namelessArgument
  /-- The constructor has no result type. -/
  | missingResult
  /-- A hook is not called on a value that it may change. -/
  | hookReceiver (marker : Marker)
  /-- A hook has too many arguments. -/
  | hookArguments (marker : Marker)
  deriving DecidableEq, Repr

/-- The failure in words. -/
def DerivationError.message : DerivationError → String
  | text => "cannot tokenize"
  | arguments message | resource message => message
  | item => "`#[configuration]` should be annotated on the `impl` block"
  | trait => "`#[configuration]` should be annotated on an inherent `impl` block"
  | repeatedMarker marker =>
    "only one associated function can be annotated with `#[" ++ marker.name ++ "]`"
  | missingConstructor => "no associated function is annotated with `#[construct]`"
  | constructorReceiver => "method is not allowed to be annotated with `#[construct]`"
  | repeatedResource => "only one `#[resource(...)]` is allowed per argument"
  | namelessArgument =>
    "expects `#[resource(\"...\")]` on an argument that is not a plain identifier"
  | missingResult => "a constructor's return type should be `Self` or `Result<Self, E>`"
  | hookReceiver marker => "`#[" ++ marker.name ++ "]` expects a method taking `&mut self`"
  | hookArguments marker =>
    "`#[" ++ marker.name ++ "]` accepts at most one argument besides `&mut self`"

end BeanContainer.Derivation
