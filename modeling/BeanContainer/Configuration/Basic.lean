import BeanContainer.Configuration.Error
import BeanContainer.Registry.Registration
/-!
# Configurations

A configuration is a bundle of beans with a declaration: the resources it needs and the beans it
provides. Its hooks are run in order: one builds its state, one may look at the registry afterwards,
and one provides the beans.

The type `σ` is the state of a built configuration. Configurations refer to each other by their place
in a list of all configurations, which stands for the type of each.
-/

namespace BeanContainer

/-- The place of a configuration in the list of all configurations. -/
abbrev ConfigurationId := Nat

/-- A bean that a configuration needs, and the argument it is bound to if there is one. -/
structure Resource where
  name : String
  binding : Option String
  deriving DecidableEq, Repr

/-- A bean that a configuration promises to provide, with the kind of its strategy. -/
structure BeanDeclaration where
  name : String
  kind : StrategyKind
  deriving DecidableEq, Repr

/-- A configuration: what it declares, and its hooks. -/
structure Configuration (σ : Type) where
  name : String
  resources : List Resource
  beans : List BeanDeclaration
  dependencies : List ConfigurationId
  construct : Procedure Empty (Except ConfigurationError σ)
  /-- A hook that fails may still have changed the state. -/
  postInit : σ → Procedure Empty (Except ConfigurationError Unit × σ)
  provide : σ → Procedure Registration (Except ConfigurationError Unit × σ)

/-- The name of a configuration that is given none. -/
def undefinedName : String := "Undefined"

/--
The argument bound to the resource: of the declarations of that name, the first that has a binding
decides.
-/
def Configuration.binding? {σ : Type} (configuration : Configuration σ) (resource : String) :
    Option String :=
  (configuration.resources.filter (·.name == resource)).findSome? (·.binding)

/-- A configuration that waits for resources. -/
structure Queued (σ : Type) where
  id : ConfigurationId
  configuration : Configuration σ
  /-- The resources not found yet, in the order of their first declaration. -/
  missing : List String

/-- A built configuration. -/
structure Active (σ : Type) where
  id : ConfigurationId
  configuration : Configuration σ
  state : σ

/-- The lookup that notes down each name it is asked for. -/
def noting (isThere : String → Bool) (name : String) : StateM (List String) Bool := do
  modify (· ++ [name])
  return isThere name

namespace Queued

variable {σ : Type}

/-- Waits for every declared resource, each named once. -/
def ofConfiguration (id : ConfigurationId) (configuration : Configuration σ) : Queued σ where
  id := id
  configuration := configuration
  missing := (configuration.resources.map (·.name)).eraseDups

/-- Strikes out the resources that are there, for good, and tells whether none is left. -/
def prune (isThere : String → Bool) (queued : Queued σ) : Bool × Queued σ :=
  let missing := queued.missing.filter fun name => !isThere name
  (missing.isEmpty, { queued with missing })

/-- Strikes out resources as `prune` does, with a lookup that may have effects. -/
def pruneBy {m : Type → Type} [Monad m] (isThere : String → m Bool) (queued : Queued σ) :
    m (Bool × Queued σ) := do
  let missing ← queued.missing.filterM fun name => return !(← isThere name)
  return (missing.isEmpty, { queued with missing })

/--
Builds the configuration if the registry has every resource that was not found before. Otherwise each
missing one is reported.
-/
def build (queued : Queued σ) (registry : Registry) :
    Option (Except ConfigurationError (Active σ) × Registry) :=
  let configuration := queued.configuration
  let missing := queued.missing.filter fun name => !registry.contains name
  if missing.isEmpty then
    match configuration.construct.read registry with
    | none => none
    | some (.error error, registry) => some (.error error, registry)
    | some (.ok state, registry) => some (.ok ⟨queued.id, configuration, state⟩, registry)
  else
    let registry := missing.foldl (fun registry resource =>
      registry.report (.missing configuration.name resource (configuration.binding? resource)))
      registry
    some (.error (.missingResources configuration.name missing), registry)

end Queued

namespace Active

variable {σ : Type}

/-- The warnings about declared beans that the registry has not, or has under another strategy. -/
def warnings (configuration : Configuration σ) (registry : Registry) : List Event :=
  configuration.beans.filterMap fun bean =>
    match registry.kind? bean.name with
    | none => some (.notProvided configuration.name bean.name)
    | some kind =>
      if kind = bean.kind then none
      else some (.providedOtherwise configuration.name bean.name bean.kind kind)

/-- Runs the hooks of a built configuration, then checks the declared beans. -/
def start (active : Active σ) (registry : Registry) :
    Option (Except ConfigurationError Unit × Active σ × Registry) :=
  let configuration := active.configuration
  match (configuration.postInit active.state).read registry with
  | none => none
  | some ((.error error, state), registry) =>
    some (.error error, { active with state }, registry)
  | some ((.ok (), state), registry) =>
    match (configuration.provide state).perform registry with
    | none => none
    | some ((.error error, state), registry) =>
      some (.error error, { active with state }, registry)
    | some ((.ok (), state), registry) =>
      let registry := (warnings configuration registry).foldl
        (fun registry event => registry.report event) registry
      some (.ok (), { active with state }, registry)

end Active

end BeanContainer
