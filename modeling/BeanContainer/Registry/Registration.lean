import BeanContainer.Registry.Resolution
/-!
# Registration

Beans are only ever added. A name must not be empty and must be free; the first registration of a
name wins, and a refused one changes nothing.
-/

namespace BeanContainer

namespace Registry

/-- Registers a strategy under a name. -/
def insert (name : String) (strategy : Strategy) (registry : Registry) :
    Except BeanError Unit × Registry :=
  if name.isEmpty then (.error (.invalidName name .empty), registry)
  else if registry.contains name then (.error (.invalidName name .duplicated), registry)
  else
    (.ok (), { registry with beans := registry.beans ++ [(name, strategy)] }.report
      (.registered name strategy.handover strategy.kind))

/-- Registers a bean that the caller supplies. -/
def supply (name : String) (type : BeanType) (bean : Bean) (registry : Registry) :
    Except BeanError Unit × Registry :=
  registry.insert name (.supplied type bean)

/-- Registers a singleton that needs nothing. -/
def insertDefault (name : String) (type : BeanType) (registry : Registry) :
    Except BeanError Unit × Registry :=
  registry.insert name (.singleton type (.default type))

/-- Registers a default singleton if the name is missing and missing names may be registered. -/
def ensure (name : String) (type : BeanType) (registry : Registry) :
    Except BeanError Unit × Registry :=
  if registry.autoRegister && !registry.contains name then
    (registry.report (.registeringMissing name)).insertDefault name type
  else (.ok (), registry)

/-- Requests a bean by reference, registering it first if it is missing and may be. -/
def getOrInsert (name : String) (type : BeanType) (registry : Registry) :
    Option (Except BeanError Bean × Registry) :=
  match registry.ensure name type with
  | (.error error, registry) => some (.error error, registry)
  | (.ok (), registry) => registry.get 0 ⟨name, ⟨.reference, type⟩⟩

end Registry

/-- Carries out the registration. -/
def Registration.apply : Registration → Registry → Except BeanError Unit × Registry
  | strategy name made, registry => registry.insert name made
  | supply name type bean, registry => registry.supply name type bean
  | ensure name type, registry => registry.ensure name type

namespace Procedure

/-- Runs a procedure that only reads the registry. -/
def read {α : Type} (procedure : Procedure Empty α) (registry : Registry) :
    Option (α × Registry) :=
  procedure.run Registry.get nofun 0 registry

/-- Runs a procedure that may add beans to the registry. -/
def perform {α : Type} (procedure : Procedure Registration α) (registry : Registry) :
    Option (α × Registry) :=
  procedure.run Registry.get Registration.apply 0 registry

end Procedure

end BeanContainer
