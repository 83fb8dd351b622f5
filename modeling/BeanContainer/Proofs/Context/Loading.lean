import BeanContainer.Context.Basic
import BeanContainer.Proofs.Context.Hooks
import Mathlib.Tactic.ByContra

/-!
# Loading one configuration

A queued configuration strikes out the resources that it has found and never looks at them again.
Its list of missing resources is nevertheless right at all times: up to the names that are
registered meanwhile, it agrees with the declared resources. This holds because beans are only ever
added, and it is all that the assembly has to know about the past of a queued configuration.

A load calls the hooks once nothing is missing, and then does as they do. If one of them fails, the
registry is left as it is by then. If all of them complete, the declared beans are checked and the
configuration becomes active. This is all that a load can do.
-/

namespace BeanContainer

variable {σ : Type}

/-- The names of the declared resources, each once, in the order of first declaration. -/
def Configuration.required (configuration : Configuration σ) : List String :=
  (configuration.resources.map (·.name)).eraseDups

/-- The names of the declared beans. -/
def Configuration.beanNames (configuration : Configuration σ) : List String :=
  configuration.beans.map (·.name)

/-- All resources of the configuration are registered. -/
def Configuration.IsSatisfied (configuration : Configuration σ) (registry : Registry) : Prop :=
  ∀ resource ∈ configuration.resources, registry.contains resource.name = true

namespace Queued

/--
Up to what is registered now, the missing resources of the queued configuration are its declared
resources.
-/
def Tracks (registry : Registry) (queued : Queued σ) : Prop :=
  (queued.missing.filter fun name => !registry.contains name) =
    queued.configuration.required.filter fun name => !registry.contains name

/-- The queued configuration with the registered resources struck out. -/
def pruned (registry : Registry) (queued : Queued σ) : Queued σ :=
  { queued with missing := queued.missing.filter fun name => !registry.contains name }

theorem prune_contains (registry : Registry) (queued : Queued σ) :
    queued.prune registry.contains =
      ((queued.pruned registry).missing.isEmpty, queued.pruned registry) := rfl

@[simp]
theorem pruned_configuration (registry : Registry) (queued : Queued σ) :
    (queued.pruned registry).configuration = queued.configuration := rfl

@[simp]
theorem pruned_id (registry : Registry) (queued : Queued σ) :
    (queued.pruned registry).id = queued.id := rfl

@[simp]
theorem pruned_pruned (registry : Registry) (queued : Queued σ) :
    (queued.pruned registry).pruned registry = queued.pruned registry := by
  simp [pruned]

theorem tracks_ofConfiguration (id : ConfigurationId) (configuration : Configuration σ)
    (registry : Registry) : (ofConfiguration id configuration).Tracks registry := rfl

theorem Tracks.pruned_missing {registry : Registry} {queued : Queued σ}
    (tracks : queued.Tracks registry) :
    (queued.pruned registry).missing =
      queued.configuration.required.filter fun name => !registry.contains name := tracks

theorem Tracks.pruned {registry : Registry} {queued : Queued σ}
    (tracks : queued.Tracks registry) : (queued.pruned registry).Tracks registry := by
  unfold Tracks
  rw [tracks.pruned_missing, List.filter_filter]
  simp

/-- A queued configuration keeps track of its resources when beans are added. -/
theorem Tracks.of_grown {before after : Registry} {queued : Queued σ}
    (tracks : queued.Tracks before) (grown : before.beans <+: after.beans) :
    queued.Tracks after := by
  have absent : ∀ name,
      (!after.contains name) = (!after.contains name && !before.contains name) := by
    intro name
    cases contained : before.contains name with
    | true => simp [Registry.contains_of_grown grown contained]
    | false => simp
  have refilter : ∀ names : List String, (names.filter fun name => !after.contains name) =
      (names.filter fun name => !before.contains name).filter fun name => !after.contains name := by
    intro names
    rw [List.filter_filter]
    exact List.filter_congr fun name _ => absent name
  unfold Tracks
  rw [refilter queued.missing, refilter queued.configuration.required, tracks]

/-- A queued configuration can be loaded exactly if all its declared resources are registered. -/
theorem Tracks.pruned_missing_eq_nil_iff {registry : Registry} {queued : Queued σ}
    (tracks : queued.Tracks registry) :
    (queued.pruned registry).missing = [] ↔ queued.configuration.IsSatisfied registry := by
  rw [tracks.pruned_missing]
  simp [Configuration.required, Configuration.IsSatisfied, List.filter_eq_nil_iff]

end Queued

namespace Context

/-- The later context has the beans of the earlier one and maybe more, and the same in flight. -/
structure Grows (before after : Context σ) : Prop where
  beans : before.registry.beans <+: after.registry.beans
  restores : before.registry.Restores after.registry

theorem Grows.of_registry_eq {before after : Context σ} (same : after.registry = before.registry) :
    before.Grows after := by
  refine ⟨by simp [same], ?_⟩
  rw [same]
  exact Registry.Restores.refl _

theorem Grows.trans {first second third : Context σ} (left : first.Grows second)
    (right : second.Grows third) : first.Grows third :=
  ⟨left.beans.trans right.beans, left.restores.trans right.restores⟩

/-- The registry of the later context is as it is after procedures and reports. -/
theorem carries_grown : Carries fun before _ after =>
    before.beans <+: after.beans ∧ before.Restores after where
  refl registry := ⟨List.prefix_rfl, .refl registry⟩
  append left right := ⟨left.1.trans right.1, left.2.trans right.2⟩
  report _ _ := ⟨List.prefix_rfl, rfl, fun _ => rfl, rfl⟩
  read ran := ⟨Procedure.read_beans ran ▸ List.prefix_rfl, Procedure.read_restores ran⟩
  perform ran := ⟨Procedure.perform_beans_grow ran, Procedure.perform_restores ran⟩

/-- Every waiting configuration keeps track of its resources. -/
def Tracks (context : Context σ) : Prop :=
  ∀ queued ∈ context.waiting, queued.Tracks context.registry

end Context

/-- The registry when the hooks have completed and the declared beans have been checked. -/
def Queued.inspected (queued : Queued σ) (provided : Registry) : Registry :=
  (Active.warnings queued.configuration provided).foldl
    (fun registry event => registry.report event) provided

@[simp]
theorem Registry.report_all_beans (events : List Event) (registry : Registry) :
    (events.foldl (fun registry event => registry.report event) registry).beans =
      registry.beans := by
  induction events generalizing registry with
  | nil => rfl
  | cons event rest ih => exact ih (registry.report event)

@[simp]
theorem Queued.inspected_beans (queued : Queued σ) (provided : Registry) :
    (queued.inspected provided).beans = provided.beans :=
  Registry.report_all_beans _ provided

theorem Queued.inspected_restores (queued : Queued σ) (provided : Registry) :
    provided.Restores (queued.inspected provided) :=
  (Context.carries_grown.report_all _ provided).2

namespace Context

/-- The context in which the configuration is active after its hooks have completed. -/
def activate (queued : Queued σ) (final : σ) (provided : Registry) (context : Context σ) :
    Context σ :=
  { context with
    registry := (queued.inspected provided).report (.loaded queued.configuration.name)
    active := context.active ++ [⟨queued.id, queued.configuration, final⟩] }

@[simp]
theorem activate_beans (queued : Queued σ) (final : σ) (provided : Registry)
    (context : Context σ) :
    (context.activate queued final provided).registry.beans = provided.beans :=
  queued.inspected_beans provided

/-- Loads a configuration and tells the hooks called. -/
def traceLoad (queued : Queued σ) (context : Context σ) :
    Traced (HookCall σ) (Except ConfigurationError Bool × Queued σ × Context σ) :=
  let (satisfied, pruned) := queued.prune context.registry.contains
  if satisfied then
    (queued.traceHooks context.registry).map fun
      | (.error error, registry) => (.error error, pruned, { context with registry })
      | (.ok final, provided) => (.ok true, pruned, context.activate queued final provided)
  else .pure (.ok false, pruned, context)

end Context

/-- The calls made to load a queued configuration: none if a resource is still missing. -/
def Queued.hookCalls (queued : Queued σ) (registry : Registry) : List (HookCall σ) :=
  (Context.traceLoad queued { registry }).events

namespace Context

variable {queued pruned : Queued σ} {context after : Context σ}

theorem traceLoad_of_missing (missing : (queued.pruned context.registry).missing ≠ []) :
    context.traceLoad queued = .pure (.ok false, queued.pruned context.registry, context) := by
  simp [traceLoad, Queued.prune_contains, missing]

theorem traceLoad_of_satisfied (satisfied : (queued.pruned context.registry).missing = []) :
    context.traceLoad queued = (queued.traceHooks context.registry).map fun
      | (.error error, registry) =>
        (.error error, queued.pruned context.registry, { context with registry })
      | (.ok final, provided) =>
        (.ok true, queued.pruned context.registry, context.activate queued final provided) := by
  simp [traceLoad, Queued.prune_contains, satisfied]

@[simp]
theorem traceLoad_events (queued : Queued σ) (context : Context σ) :
    (context.traceLoad queued).events = queued.hookCalls context.registry := by
  unfold Queued.hookCalls traceLoad
  simp only
  split <;> rfl

theorem hookCalls_of_satisfied {registry : Registry}
    (satisfied : (queued.pruned registry).missing = []) :
    queued.hookCalls registry = (queued.traceHooks registry).events := by
  rw [Queued.hookCalls, traceLoad_of_satisfied satisfied, Traced.map_events]

/-- A load comes to what it comes to when the hooks called are told. -/
@[simp]
theorem traceLoad_result (queued : Queued σ) (context : Context σ) :
    (context.traceLoad queued).result = context.load queued := by
  by_cases satisfied : (queued.pruned context.registry).missing = []
  · have ready : queued.prune context.registry.contains =
        (true, queued.pruned context.registry) := by
      rw [Queued.prune_contains, satisfied]
      rfl
    rw [traceLoad_of_satisfied satisfied, load, ready]
    simp only [Queued.build, satisfied, List.filter_nil, List.isEmpty_nil, if_true,
      Queued.pruned_configuration, Queued.pruned_id, Traced.map_result, Queued.traceHooks, callHook,
      Traced.tell_result, Procedure.traceRead_result]
    cases queued.configuration.construct.read context.registry with
    | none => rfl
    | some construction =>
        rcases construction with ⟨error | built, constructed⟩
        · rfl
        · simp only [Active.start, Traced.tell_result]
          cases (queued.configuration.postInit built).read constructed with
          | none => rfl
          | some initialization =>
              rcases initialization with ⟨⟨error | _, initial⟩, initialized⟩
              · rfl
              · simp only [Traced.tell_result, Procedure.tracePerform_zero_result]
                cases (queued.configuration.provide initial).perform initialized with
                | none => rfl
                | some provision =>
                    rcases provision with ⟨⟨error | _, final⟩, provided⟩ <;> rfl
  · rw [traceLoad_of_missing satisfied, load, Queued.prune_contains,
      List.isEmpty_eq_false_iff.mpr satisfied]
    rfl

/--
What a load comes to: the configuration goes on waiting and nothing else happens, or the load ends
as the hooks do.
-/
inductive LoadEnds (queued : Queued σ) (context : Context σ) : Prop
  | missing (missing : (queued.pruned context.registry).missing ≠ [])
      (calls : queued.hookCalls context.registry = [])
      (loaded : context.load queued = some (.ok false, queued.pruned context.registry, context))
  | hung (satisfied : (queued.pruned context.registry).missing = [])
      (attempt : Attempt .hung ((queued.hookCalls context.registry).map HookCall.summary))
      (loaded : context.load queued = none)
  | failed {error : ConfigurationError} {left : Registry}
      (satisfied : (queued.pruned context.registry).missing = [])
      (attempt : Attempt (.failed error) ((queued.hookCalls context.registry).map HookCall.summary))
      (fails : queued.FailsWith context.registry error left)
      (loaded : context.load queued = some (.error error, queued.pruned context.registry,
        { context with registry := left }))
  | completed {final : σ} {provided : Registry}
      (satisfied : (queued.pruned context.registry).missing = [])
      (attempt : Attempt .completed ((queued.hookCalls context.registry).map HookCall.summary))
      (completes : queued.CompletesWith context.registry final provided)
      (loaded : context.load queued = some (.ok true, queued.pruned context.registry,
        context.activate queued final provided))

theorem loadEnds (queued : Queued σ) (context : Context σ) : LoadEnds queued context := by
  by_cases satisfied : (queued.pruned context.registry).missing = []
  · have traced := traceLoad_of_satisfied satisfied
    have ended := traceLoad_result queued context
    have told := traceLoad_events queued context
    have ends := queued.hooksEnd context.registry
    generalize queued.traceHooks context.registry = hooks at traced ends
    rw [traced] at ended told
    cases ends with
    | hung attempt => exact .hung satisfied (told ▸ attempt) ended.symm
    | failed attempt fails => exact .failed satisfied (told ▸ attempt) fails ended.symm
    | completed attempt completes => exact .completed satisfied (told ▸ attempt) completes ended.symm
  · have traced := traceLoad_of_missing satisfied
    refine .missing satisfied ?_ ?_
    · rw [← traceLoad_events, traced, Traced.pure_events]
    · rw [← traceLoad_result, traced, Traced.pure_result]

/-- What a load leaves behind that comes to its end. -/
theorem load_cases {outcome : Except ConfigurationError Bool}
    (loaded : context.load queued = some (outcome, pruned, after)) :
    (outcome = .ok false ∧ after = context) ∨
      (∃ error left, outcome = .error error ∧ queued.FailsWith context.registry error left ∧
        after = { context with registry := left }) ∨
      ∃ final provided, outcome = .ok true ∧ (queued.pruned context.registry).missing = [] ∧
        queued.CompletesWith context.registry final provided ∧
        after = context.activate queued final provided := by
  cases loadEnds queued context with
  | missing _ _ ended =>
      cases ended.symm.trans loaded
      exact .inl ⟨rfl, rfl⟩
  | hung _ _ ended => cases ended.symm.trans loaded
  | failed _ _ fails ended =>
      cases ended.symm.trans loaded
      exact .inr (.inl ⟨_, _, rfl, fails, rfl⟩)
  | completed satisfied _ completes ended =>
      cases ended.symm.trans loaded
      exact .inr (.inr ⟨_, _, rfl, satisfied, completes, rfl⟩)

theorem load_of_missing (missing : (queued.pruned context.registry).missing ≠ []) :
    context.load queued = some (.ok false, queued.pruned context.registry, context) := by
  rw [← traceLoad_result, traceLoad_of_missing missing, Traced.pure_result]

theorem load_of_failsWith {error : ConfigurationError} {left : Registry}
    (satisfied : (queued.pruned context.registry).missing = [])
    (fails : queued.FailsWith context.registry error left) :
    context.load queued = some (.error error, queued.pruned context.registry,
      { context with registry := left }) := by
  rw [← traceLoad_result, traceLoad_of_satisfied satisfied, Traced.map_result,
    fails.traceHooks_result]
  rfl

theorem load_of_completesWith {final : σ} {provided : Registry}
    (satisfied : (queued.pruned context.registry).missing = [])
    (completes : queued.CompletesWith context.registry final provided) :
    context.load queued = some (.ok true, queued.pruned context.registry,
      context.activate queued final provided) := by
  rw [← traceLoad_result, traceLoad_of_satisfied satisfied, Traced.map_result,
    completes.traceHooks_result]
  rfl

/-- Which configurations wait besides does not matter to a load. -/
theorem load_waiting (queued : Queued σ) (context : Context σ) (waiting : List (Queued σ)) :
    ({ context with waiting } : Context σ).load queued = (context.load queued).map
      fun (outcome, pruned, after) => (outcome, pruned, { after with waiting }) := by
  rw [← traceLoad_result, ← traceLoad_result]
  by_cases satisfied : (queued.pruned context.registry).missing = []
  · rw [traceLoad_of_satisfied satisfied, traceLoad_of_satisfied (by exact satisfied),
      Traced.map_result, Traced.map_result, Option.map_map]
    congr 1
    funext ⟨outcome, registry⟩
    cases outcome <;> rfl
  · rw [traceLoad_of_missing satisfied, traceLoad_of_missing (by exact satisfied)]
    rfl

theorem waiting_of_load {outcome : Except ConfigurationError Bool}
    (loaded : context.load queued = some (outcome, pruned, after)) :
    after.waiting = context.waiting := by
  rcases load_cases loaded with ⟨_, rfl⟩ | ⟨_, _, _, _, rfl⟩ | ⟨_, _, _, _, _, rfl⟩ <;> rfl

/--
Hooks are called only when nothing is missing, and the first one on the registry as it is then.
-/
theorem mem_hookCalls {registry : Registry} {call : HookCall σ}
    (call_mem : call ∈ queued.hookCalls registry) :
    call.configuration = queued.configuration ∧ (queued.pruned registry).missing = [] ∧
      (call.stage = .construct → call.registry = registry) := by
  have satisfied : (queued.pruned registry).missing = [] := by
    by_contra missing
    rw [Queued.hookCalls, traceLoad_of_missing missing] at call_mem
    cases call_mem
  rw [hookCalls_of_satisfied satisfied] at call_mem
  have call := Queued.mem_traceHooks call_mem
  exact ⟨call.1, satisfied, call.2⟩

end Context

/-- What is done in the hooks called to load a configuration. -/
def Queued.moments (queued : Queued σ) (registry : Registry) : List Moment :=
  (queued.hookCalls registry).flatMap (·.moments)

theorem Carries.load {relation : Registry → List Moment → Registry → Prop}
    (carries : Carries relation) {queued pruned : Queued σ} {context after : Context σ}
    {outcome : Except ConfigurationError Bool}
    (loaded : context.load queued = some (outcome, pruned, after)) :
    relation context.registry (queued.moments context.registry) after.registry := by
  unfold Queued.moments
  rw [← Context.traceLoad_events]
  rw [← Context.traceLoad_result] at loaded
  by_cases satisfied : (queued.pruned context.registry).missing = []
  · rw [Context.traceLoad_of_satisfied satisfied] at loaded ⊢
    rcases Option.map_eq_some_iff.mp loaded with ⟨⟨error | final, left⟩, called, ended⟩
    · cases ended
      exact carries.hooks called
    · cases ended
      have checked := carries.report_all (Active.warnings queued.configuration left) left
      exact carries.quietly (carries.quietly (carries.hooks called) checked) (carries.report _ _)
  · rw [Context.traceLoad_of_missing satisfied] at loaded ⊢
    cases loaded
    exact carries.refl _

theorem Context.load_grows {queued pruned : Queued σ} {context after : Context σ}
    {outcome : Except ConfigurationError Bool}
    (loaded : context.load queued = some (outcome, pruned, after)) : context.Grows after :=
  ⟨(carries_grown.load loaded).1, (carries_grown.load loaded).2⟩

end BeanContainer
