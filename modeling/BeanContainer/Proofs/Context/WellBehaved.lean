import BeanContainer.Proofs.Context.Supplying

/-!
# Well-behaved configurations

A configuration is well-behaved if its hooks succeed whenever its resources are registered, and the
last of them registers the declared beans and nothing else, unless one of them is taken. Nothing is
asked of the hooks but for registries that may come up in an assembly: those that have grown out of
the registry from which it starts.
-/

namespace BeanContainer

variable {σ : Type}

namespace Configuration

/-- The registry has grown out of the base and has all resources of the configuration. -/
structure ReadyIn (configuration : Configuration σ) (base registry : Registry) : Prop where
  beans : base.beans <+: registry.beans
  restores : base.Restores registry
  satisfied : configuration.IsSatisfied registry

/-- The first hook may build the state. -/
def Constructs (configuration : Configuration σ) (base : Registry) (state : σ) : Prop :=
  ∃ registry after, configuration.ReadyIn base registry ∧
    configuration.construct.read registry = some (.ok state, after)

/-- The second hook may leave the state behind. -/
def Initializes (configuration : Configuration σ) (base : Registry) (state : σ) : Prop :=
  ∃ constructed registry after, configuration.Constructs base constructed ∧
    configuration.ReadyIn base registry ∧
      (configuration.postInit constructed).read registry = some ((.ok (), state), after)

/--
The hooks succeed with every registry that has the resources, the last one if the declared beans are
free, and that one registers the declared beans and no others.
-/
structure WellBehaved (configuration : Configuration σ) (base : Registry) : Prop where
  construct : ∀ {registry}, configuration.ReadyIn base registry →
    ∃ state after, configuration.construct.read registry = some (.ok state, after)
  postInit : ∀ {state registry}, configuration.Constructs base state →
    configuration.ReadyIn base registry →
      ∃ initialized after,
        (configuration.postInit state).read registry = some ((.ok (), initialized), after)
  provide : ∀ {state registry}, configuration.Initializes base state →
    configuration.ReadyIn base registry →
      (∀ bean ∈ configuration.beanNames, registry.contains bean = false) →
        ∃ provided after,
          (configuration.provide state).perform registry = some ((.ok (), provided), after) ∧
            ∀ name, after.contains name = true ↔
              registry.contains name = true ∨ name ∈ configuration.beanNames

/-- What is ready stays so in what a hook leaves behind that only reads. -/
theorem ReadyIn.of_beans_eq {configuration : Configuration σ} {base registry after : Registry}
    (ready : configuration.ReadyIn base registry) (same : after.beans = registry.beans)
    (restores : registry.Restores after) : configuration.ReadyIn base after where
  beans := by
    rw [same]
    exact ready.beans
  restores := ready.restores.trans restores
  satisfied resource resource_mem := by
    rw [Registry.contains_congr same]
    exact ready.satisfied resource resource_mem

/-- What is asked of the hooks is asked of no more registries when the base grows. -/
theorem WellBehaved.of_grown {configuration : Configuration σ} {base later : Registry}
    (wellBehaved : configuration.WellBehaved base) (grown : base.beans <+: later.beans)
    (restores : base.Restores later) : configuration.WellBehaved later := by
  have ready : ∀ {registry}, configuration.ReadyIn later registry →
      configuration.ReadyIn base registry := fun ready =>
    ⟨grown.trans ready.beans, restores.trans ready.restores, ready.satisfied⟩
  have constructs : ∀ {state}, configuration.Constructs later state →
      configuration.Constructs base state := by
    rintro state ⟨registry, after, isReady, ran⟩
    exact ⟨registry, after, ready isReady, ran⟩
  refine ⟨fun isReady => wellBehaved.construct (ready isReady),
    fun built isReady => wellBehaved.postInit (constructs built) (ready isReady), ?_⟩
  rintro state registry ⟨constructed, before, after, built, isReady, ran⟩ isReadyNow
  exact wellBehaved.provide ⟨constructed, before, after, constructs built, ready isReady, ran⟩
    (ready isReadyNow)

theorem supplying_wellBehaved (name : String) (resources : List String) {beans : List String}
    (nodup : beans.Nodup) (nonempty : ∀ bean ∈ beans, bean ≠ "") (base : Registry) :
    (supplying name resources beans).WellBehaved base where
  construct _ := ⟨(), _, rfl⟩
  postInit _ _ := ⟨(), _, rfl⟩
  provide _ _ free := by
    rw [beanNames_supplying] at free ⊢
    rcases perform_supplyAll nodup nonempty free with ⟨after, performed, names_iff⟩
    exact ⟨(), after, performed, names_iff⟩

end Configuration

namespace Context

/-- A well-behaved configuration whose resources are registered is loaded, and adds its beans. -/
theorem load_of_wellBehaved {queued : Queued σ} {context : Context σ} {base : Registry}
    (wellBehaved : queued.configuration.WellBehaved base)
    (ready : queued.configuration.ReadyIn base context.registry)
    (satisfied : (queued.pruned context.registry).missing = [])
    (free : ∀ bean ∈ queued.configuration.beanNames, context.registry.contains bean = false) :
    ∃ active registry, context.load queued = some (.ok true, queued.pruned context.registry,
        { context with registry, active := context.active ++ [active] }) ∧
      active.id = queued.id ∧ active.configuration = queued.configuration ∧
      context.registry.beans <+: registry.beans ∧ context.registry.Restores registry ∧
      ∀ name, registry.contains name = true ↔
        context.registry.contains name = true ∨ name ∈ queued.configuration.beanNames := by
  rcases wellBehaved.construct ready with ⟨state, afterConstruct, constructed⟩
  have beansConstruct := Procedure.read_beans constructed
  have restoresConstruct := Procedure.read_restores constructed
  have readyConstruct := ready.of_beans_eq beansConstruct restoresConstruct
  have constructs : queued.configuration.Constructs base state :=
    ⟨context.registry, afterConstruct, ready, constructed⟩
  rcases wellBehaved.postInit constructs readyConstruct with ⟨initialized, afterInit, ran⟩
  have beansInit := Procedure.read_beans ran
  have restoresInit := Procedure.read_restores ran
  have sameNames : afterInit.contains = context.registry.contains :=
    Registry.contains_congr (beansInit.trans beansConstruct)
  have initializes : queued.configuration.Initializes base initialized :=
    ⟨state, afterConstruct, afterInit, constructs, readyConstruct, ran⟩
  rcases wellBehaved.provide initializes (readyConstruct.of_beans_eq beansInit restoresInit)
    (by rwa [sameNames]) with ⟨provided, afterProvide, performed, names_iff⟩
  have grown := Procedure.perform_beans_grow performed
  rw [beansInit, beansConstruct] at grown
  have restores := (restoresConstruct.trans restoresInit).trans
    (Procedure.perform_restores performed)
  have loaded := load_of_completesWith satisfied (.intro constructed ran performed)
  have sameBeans := activate_beans queued provided afterProvide context
  refine ⟨_, _, loaded, rfl, rfl, ?_, ?_, ?_⟩
  · exact sameBeans ▸ grown
  · exact (restores.trans (queued.inspected_restores afterProvide)).trans ⟨rfl, fun _ => rfl, rfl⟩
  · intro name
    rw [← sameNames, ← names_iff]
    exact Eq.congr_left (congrFun (Registry.contains_congr sameBeans) name)

end Context

end BeanContainer
