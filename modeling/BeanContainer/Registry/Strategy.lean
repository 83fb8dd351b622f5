import BeanContainer.Registry.Procedure
/-!
# Strategies

The strategy behind a registered name decides when a bean is made and what is handed out: beans that
are made anew, one bean for all requests, or one that the caller supplied.
-/

namespace BeanContainer

/--
A bean constructor. It reads the registry it is called with and ends in a bean, or in a failure. The
bean need not be new: a constructor may pass on an object that it was handed out itself. Neither need
a constructor do the same each time: it is told the number of the run, which is one for its first
run.
-/
structure Constructor where
  /-- Whether runs are listed among the calls of constructors. -/
  listed : Bool
  run : Nat → Procedure Empty (Except BeanError Bean)

/-- The constructor of beans that need nothing. -/
def Constructor.default (type : BeanType) : Constructor where
  listed := false
  run _ := .make type.default type fun bean => .done (.ok bean)

/-- How beans of one name come into being. The type is the one the constructor makes. -/
inductive Strategy where
  | singleton (type : BeanType) (constructor : Constructor)
  | factory (type : BeanType) (constructor : Constructor)
  | supplied (type : BeanType) (bean : Bean)
  | smartSingleton (type : BeanType) (constructor : Constructor)
  | smartFactory (type : BeanType) (constructor : Constructor)

namespace Strategy

/-- The kind of the strategy. -/
def kind : Strategy → StrategyKind
  | singleton .. => .singleton
  | factory .. => .factory
  | supplied .. => .supplied
  | smartSingleton .. => .smartSingleton
  | smartFactory .. => .smartFactory

/-- What is handed out: references to a singleton, values of all others, shared by the smart ones. -/
def handover : Strategy → Handover
  | singleton type _ => ⟨.reference, type⟩
  | factory type _ | supplied type _ => ⟨.value, type⟩
  | smartSingleton type _ | smartFactory type _ => ⟨.value, .shared type⟩

end Strategy

/-- Where a strategy sits: behind a name of the registry, or on its own under a label. -/
inductive Site where
  | bean (name : String)
  | strategy (label : String)
  | provider (label : String)
  deriving DecidableEq, Repr

/-- The label under which runs of the constructor are listed. -/
def Site.label : Site → String
  | bean name => name
  | strategy label | provider label => label

/-- A change of the registry: a procedure can add beans, and nothing else. -/
inductive Registration where
  /-- Registers a strategy. -/
  | strategy (name : String) (strategy : Strategy)
  /-- Registers a bean that the caller supplies. -/
  | supply (name : String) (type : BeanType) (bean : Bean)
  /-- Registers a default singleton if the name is missing and missing names may be registered. -/
  | ensure (name : String) (type : BeanType)

end BeanContainer
