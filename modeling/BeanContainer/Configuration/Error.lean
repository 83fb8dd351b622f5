import BeanContainer.Bean.Error
/-!
# Failures of configurations

Why a configuration could not be built or why the assembly of a context got stuck. A failed request
for a bean passes through a configuration untouched: same words, same causes.
-/

namespace BeanContainer

/-- A configuration left waiting and the resources it waits for. -/
structure Pending where
  name : String
  resources : List String
  deriving DecidableEq, Repr

/-- The pending configuration in words. -/
def Pending.text (pending : Pending) : String :=
  pending.name ++ " [" ++ ", ".intercalate pending.resources ++ "]"

/-- A failed configuration or assembly. -/
inductive ConfigurationError where
  | missingResources (configuration : String) (resources : List String)
  | initialization (pending : List Pending)
  | cycle (trace : List String)
  | construction (configuration : String) (cause : Failure)
  | bean (error : BeanError)
  deriving DecidableEq, Repr

namespace ConfigurationError

/-- The kind of the failure, in one word. -/
def kind : ConfigurationError → String
  | missingResources .. => "MissingResources"
  | initialization _ => "Initialization"
  | cycle _ => "Cycle"
  | construction .. => "Construction"
  | bean _ => "Bean"

/-- The failure in words, without its causes. -/
def message : ConfigurationError → String
  | missingResources configuration resources =>
    "configuration " ++ configuration ++ " is missing resources [" ++
      ", ".intercalate resources ++ "]"
  | initialization pending =>
    "could not initialize configurations with unsatisfied resources: " ++
      "; ".intercalate (pending.map (·.text))
  | cycle trace => "configurations depend on each other: " ++ " -> ".intercalate trace
  | construction configuration _ => "could not construct configuration " ++ configuration
  | bean error => error.message

/-- The causes below the failure in words, outermost first. -/
def sources : ConfigurationError → List String
  | construction _ cause => cause.message :: cause.sources
  | bean error => error.sources
  | _ => []

end ConfigurationError

end BeanContainer
