import BeanContainer.Proofs.Derivation.Arguments
import BeanContainer.Proofs.Derivation.Construction
import BeanContainer.Proofs.Source.Signature

/-!
# What arguments are served with

Each argument of a constructor is served with a resource that is declared for it and with a query that
is made for it. What these are is said here from the argument alone, its attributes, pattern and type,
and it is shown that an accepted implementation gets exactly that.
-/

namespace BeanContainer

open Source

/-- There is nothing in the forest but the literal of a text, perhaps with invisible brackets. -/
def Source.Forest.IsText (content : Forest) (literal : String) : Prop :=
  Literal.isText literal = true ∧
    ∃ rest, content.bare = .leaf (.literal literal) rest ∧ rest.isBlank = true

namespace Derivation

/-- The declaration of a resource: its name, which is a literal, and the identifier it is bound to. -/
structure DeclaredResource where
  name : String
  binding : Option Identifier

def DeclaredResource.code (resource : DeclaredResource) : Forest :=
  match resource.binding with
  | some identifier =>
    codePath ["beanbag", "config", "Resource", "bound"] ++
      inParentheses (.ofLiteral resource.name ++ .marks "," ++ quotedText identifier.text) ++
      .marks ","
  | none =>
    codePath ["beanbag", "config", "Resource", "named"] ++
      inParentheses (.ofLiteral resource.name) ++ .marks ","

/-- What an argument is served with. -/
structure Service where
  resource : DeclaredResource
  query : Query

def resourceTags (annotations : List Attribute) : List Attribute :=
  annotations.filter (·.isNamed Marker.resource.name)

/-- The name of the resource for an argument: a literal that an attribute gives, or its identifier. -/
inductive IsResourceName (annotations : List Attribute) (binding : Option Identifier) :
    String → Prop
  | given {tag : Attribute} {content : Forest} {literal : String}
      (only : resourceTags annotations = [tag]) (isList : tag.form = .list content)
      (isText : content.IsText literal) : IsResourceName annotations binding literal
  | bound {identifier : Identifier} (none : resourceTags annotations = [])
      (isBound : binding = some identifier) :
      IsResourceName annotations binding (Text.literal identifier.name)

/--
How a bean of the type is fetched: by reference to the element, if the type is a reference that is not
valid for ever, and otherwise by value. A type in an invisible group is a type of its own kind, also if
there is a reference in the group: it is fetched by value, and the group is part of it.
-/
inductive IsFetchedAs (argument : TypedArgument) : Access → Forest → Prop
  | reference {lifetime : Option Identifier} {element : Forest}
      (isReference : argument.shape = .reference lifetime element)
      (spelled : IsReference argument.type lifetime element)
      (notStatic : lifetime ≠ some ⟨false, "static"⟩) :
      IsFetchedAs argument .reference element
  | value (static : ∀ lifetime element, argument.shape = .reference lifetime element →
        lifetime = some ⟨false, "static"⟩)
      (grouped : ∀ inner, argument.shape = .grouped inner →
        ∃ content, argument.type = .enclosed .invisible content) :
      IsFetchedAs argument .value argument.type

/-- The argument is served: the resource is asked for by the name that it is declared with. -/
inductive Serves : Argument → Service → Prop
  | typed {annotations : List Attribute} {argument : TypedArgument} {hasComma : Bool}
      {name : String} {access : Access} {type : Forest}
      (isBinding : ∀ identifier, argument.binding = some identifier →
        IsBinding argument.pattern identifier)
      (isName : IsResourceName annotations argument.binding name)
      (isFetchedAs : IsFetchedAs argument access type) :
      Serves ⟨annotations, .typed argument, hasComma⟩
        ⟨⟨name, argument.binding⟩, ⟨access, type, name⟩⟩

/-- What the argument with the injection is served with. -/
def Injection.service (injection : Injection) : Service where
  resource := ⟨injection.resource, injection.binding⟩
  query := match injection.shape with
    | .reference lifetime element =>
      if lifetime == some ⟨false, "static"⟩ then ⟨.value, injection.type, injection.resource⟩
      else ⟨.reference, element, injection.resource⟩
    | _ => ⟨.value, injection.type, injection.resource⟩

theorem parseAll_textLiteral_iff {content : Forest} {literal : String} :
    Parser.parseAll Parser.textLiteral content = .ok literal ↔ content.IsText literal := by
  constructor
  · intro parses
    have isLiteral : Parser.textLiteral.Meets ⟨content, none⟩ fun reading =>
        Literal.isText reading.value = true ∧
          content.bare = .leaf (.literal reading.value) reading.input.rest :=
      Parser.meets_textLiteral.mpr fun text rest isNext isText => ⟨isText, isNext⟩
    rcases isLiteral.parseAll parses with ⟨_, rest, isBlank, isText, isNext⟩
    exact ⟨isText, rest, isNext, isBlank⟩
  · rintro ⟨isText, rest, isNext, isBlank⟩
    exact Parser.parseAll_eq_ok_iff.mpr ⟨_, rest, isBlank, Parser.run_textLiteral isText isNext⟩

end Derivation

end BeanContainer
