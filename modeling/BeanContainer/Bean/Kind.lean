/-!
# Kinds of strategies

How a bean comes into being, without its type and its constructor: what a declaration promises and
what the registry can be asked for.
-/

namespace BeanContainer

/--
The five strategies. A singleton is made once and lent out, a factory makes a bean for every
request, a supplied bean was made by the caller; the smart ones wrap what they make in a shared
object and hand out the share.
-/
inductive StrategyKind where
  | singleton
  | factory
  | supplied
  | smartSingleton
  | smartFactory
  deriving DecidableEq, Repr

namespace StrategyKind

/-- The name of the kind in messages and descriptions. -/
def name : StrategyKind → String
  | singleton => "Singleton"
  | factory => "Factory"
  | supplied => "Instance"
  | smartSingleton => "SmartSingleton"
  | smartFactory => "SmartFactory"

/-- All kinds. -/
def all : List StrategyKind :=
  [singleton, factory, supplied, smartSingleton, smartFactory]

/-- The kind of the given name. -/
def ofName? (name : String) : Option StrategyKind :=
  all.find? (·.name == name)

end StrategyKind

end BeanContainer
