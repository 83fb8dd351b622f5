import BeanContainer.Bean.Type
/-!
# Failures of requests for beans

Why a bean could not be registered or handed out. The wording of an error, and the chain of causes
below it, are functions of the error.
-/

namespace BeanContainer

/-- What is wrong with a name. -/
inductive NameFault where
  | empty
  | duplicated
  | unregistered
  deriving DecidableEq, Repr

/-- The fault in words. -/
def NameFault.reason : NameFault → String
  | empty => "bean name cannot be empty"
  | duplicated => "bean name is already registered"
  | unregistered => "bean is not registered"

/-- A failure of user code: what it says, and what the causes below it say, outermost first. -/
structure Failure where
  message : String
  sources : List String
  deriving DecidableEq, Repr

/-- A failure without causes of its own is said in one text. -/
instance : Coe String Failure where
  coe message := ⟨message, []⟩

/-- Where one text is wanted, a failure is its message. -/
instance : Coe Failure String where
  coe := Failure.message

/--
A failed request. A construction fails with a failure of the constructor's own, or with the failure
of a request that the constructor made and wrapped.
-/
inductive BeanError where
  | invalidName (name : String) (fault : NameFault)
  | invalidType (name : String) (wanted actual : Handover)
  | cycle (trace : List String)
  | construction (name : String) (cause : Failure)
  | wrapped (name : String) (cause : BeanError)
  deriving DecidableEq, Repr

namespace BeanError

/-- The kind of the failure, in one word. -/
def kind : BeanError → String
  | invalidName .. => "InvalidBeanName"
  | invalidType .. => "InvalidBeanType"
  | cycle .. => "BeanDependencyCycle"
  | construction .. | wrapped .. => "BeanConstruction"

/-- The failure in words, without its causes. -/
def message : BeanError → String
  | invalidName name fault => "invalid bean name \"" ++ name ++ "\": " ++ fault.reason
  | invalidType name wanted actual =>
    "bean \"" ++ name ++ "\" is requested as `" ++ wanted.name ++ "` but registered as `" ++
      actual.name ++ "`"
  | cycle trace =>
    "could not resolve beans depending on each other: " ++ " -> ".intercalate trace
  | construction name _ | wrapped name _ => "could not construct the bean \"" ++ name ++ "\""

/-- The causes below the failure in words, outermost first. -/
def sources : BeanError → List String
  | construction _ cause => cause.message :: cause.sources
  | wrapped _ cause => cause.message :: cause.sources
  | _ => []

/-- The names that depend on each other, if that is the failure. -/
def cycleTrace? : BeanError → Option (List String)
  | cycle trace => some trace
  | _ => none

end BeanError

end BeanContainer
