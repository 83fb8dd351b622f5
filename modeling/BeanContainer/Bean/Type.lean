import BeanContainer.Bean.Content
/-!
# Types of beans

A bean has a type, and a request names the type it wants together with the way it wants it: by value
or by reference. Two requests differ if either differs, and messages name both at once.
-/

namespace BeanContainer

/-- The types of beans. Any type will do that has a name and a default value. -/
inductive BeanType where
  | plain (name : String) (default : Content)
  /-- A bean of a shared type is an object that all its holders have in common. -/
  | shared (inner : BeanType)
  deriving DecidableEq, Repr

namespace BeanType

/-- The name of the type in messages. -/
def name : BeanType → String
  | plain name _ => name
  | shared inner => "alloc::sync::Arc<" ++ inner.name ++ ">"

/-- The content a bean of the type has if nothing is said about it. -/
def default : BeanType → Content
  | plain _ content => content
  | shared inner => inner.default

end BeanType

/-- The way a bean is handed out. -/
inductive Access where
  | value
  | reference
  deriving DecidableEq, Repr

/-- A type together with the way its beans are handed out. -/
structure Handover where
  access : Access
  type : BeanType
  deriving DecidableEq, Repr

/-- The name of the handover in messages: a reference is marked by an ampersand. -/
def Handover.name (handover : Handover) : String :=
  match handover.access with
  | .value => handover.type.name
  | .reference => "&" ++ handover.type.name

end BeanContainer
