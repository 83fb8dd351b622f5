import BeanContainer.Configuration.Basic
import BeanContainer.Proofs.Registry.Growth
import BeanContainer.Proofs.Registry.Trace

/-!
# The hooks of a configuration

The hooks of a configuration are called in order, until one does not come to its end or fails. The
calls are told here together with the registries they are made on and what is done in them.
-/

namespace BeanContainer

variable {σ : Type}

/-- The hooks of a configuration, in the order in which they run. -/
inductive Stage where
  | construct
  | postInit
  | provide
  deriving DecidableEq, Repr

/-- How a call of a hook ended, if it did. -/
inductive Ending where
  | completed
  | failed (error : ConfigurationError)
  | hung
  deriving DecidableEq, Repr

/-- The ending of a hook that comes to the outcome, if it comes to any. -/
def Ending.of {α : Type} : Option (Except ConfigurationError α) → Ending
  | none => .hung
  | some (.error error) => .failed error
  | some (.ok _) => .completed

/-- A call of a hook: of which configuration, on which registry, what it does, and how it ends. -/
structure HookCall (σ : Type) where
  stage : Stage
  configuration : Configuration σ
  registry : Registry
  moments : List Moment
  ending : Ending

/-- The hook called and how the call ended. -/
def HookCall.summary (call : HookCall σ) : Stage × Ending :=
  (call.stage, call.ending)

/-- Calls a hook, which is the given run of a procedure, and goes on if it comes to an end. -/
def callHook {α β γ : Type} (stage : Stage) (configuration : Configuration σ) (registry : Registry)
    (run : Traced Moment (α × Registry)) (outcome : α → Except ConfigurationError β)
    (next : α → Registry → Traced (HookCall σ) γ) : Traced (HookCall σ) γ :=
  let ending := Ending.of (run.result.map fun answer => outcome answer.1)
  .tell ⟨stage, configuration, registry, run.events, ending⟩
    (match run.result with
    | none => .stuck
    | some (value, registry) => next value registry)

/-- Calls the hooks in order, up to the first that does not complete. -/
def Queued.traceHooks (queued : Queued σ) (registry : Registry) :
    Traced (HookCall σ) (Except ConfigurationError σ × Registry) :=
  let configuration := queued.configuration
  callHook .construct configuration registry (configuration.construct.traceRead registry)
    (fun outcome => outcome) fun
    | .error error, left => .pure (.error error, left)
    | .ok built, constructed =>
      let postInit := configuration.postInit built
      callHook .postInit configuration constructed (postInit.traceRead constructed) (·.1) fun
        | (.error error, _), left => .pure (.error error, left)
        | (.ok (), initial), initialized =>
          let provide := configuration.provide initial
          callHook .provide configuration initialized (provide.tracePerform 0 initialized) (·.1)
            fun answer provided => .pure (answer.1.map fun _ => answer.2, provided)

/--
An attempt to load a configuration, as the hooks called and how they ended. It goes on to the next
hook only if the one before completed, and it ends as its last hook does.
-/
inductive Attempt : Ending → List (Stage × Ending) → Prop
  | construct {ending : Ending} (incomplete : ending ≠ .completed) :
      Attempt ending [(.construct, ending)]
  | postInit {ending : Ending} (incomplete : ending ≠ .completed) :
      Attempt ending [(.construct, .completed), (.postInit, ending)]
  | provide (ending : Ending) :
      Attempt ending [(.construct, .completed), (.postInit, .completed), (.provide, ending)]

theorem Attempt.exists_getLast? {ending : Ending} {attempt : List (Stage × Ending)}
    (isAttempt : Attempt ending attempt) : ∃ stage, attempt.getLast? = some (stage, ending) := by
  cases isAttempt with
  | construct _ => exact ⟨.construct, rfl⟩
  | postInit _ => exact ⟨.postInit, rfl⟩
  | provide => exact ⟨.provide, rfl⟩

/-- An attempt goes on to the next hook only if the one before completed. -/
theorem Attempt.completed_of_mem_dropLast {ending : Ending} {attempt : List (Stage × Ending)}
    (isAttempt : Attempt ending attempt) : ∀ call ∈ attempt.dropLast, call.2 = .completed := by
  cases isAttempt with
  | construct _ => simp
  | postInit _ => simp
  | provide => simp

namespace Queued

/-- A hook of the configuration fails with the error and leaves the registry as given last. -/
inductive FailsWith (queued : Queued σ) (registry : Registry) (error : ConfigurationError) :
    Registry → Prop
  | construct {left : Registry}
      (fails : queued.configuration.construct.read registry = some (.error error, left)) :
      FailsWith queued registry error left
  | postInit {state changed : σ} {constructed left : Registry}
      (constructs : queued.configuration.construct.read registry = some (.ok state, constructed))
      (fails : (queued.configuration.postInit state).read constructed =
        some ((.error error, changed), left)) :
      FailsWith queued registry error left
  | provide {state initial changed : σ} {constructed initialized left : Registry}
      (constructs : queued.configuration.construct.read registry = some (.ok state, constructed))
      (initializes : (queued.configuration.postInit state).read constructed =
        some ((.ok (), initial), initialized))
      (fails : (queued.configuration.provide initial).perform initialized =
        some ((.error error, changed), left)) :
      FailsWith queued registry error left

/-- All hooks of the configuration complete. They leave the state and the registry as given. -/
inductive CompletesWith (queued : Queued σ) (registry : Registry) : σ → Registry → Prop
  | intro {built initial final : σ} {constructed initialized provided : Registry}
      (constructs : queued.configuration.construct.read registry = some (.ok built, constructed))
      (initializes : (queued.configuration.postInit built).read constructed =
        some ((.ok (), initial), initialized))
      (provides : (queued.configuration.provide initial).perform initialized =
        some ((.ok (), final), provided)) :
      CompletesWith queued registry final provided

variable {queued : Queued σ} {registry left provided : Registry} {error : ConfigurationError}
  {final : σ}

theorem FailsWith.traceHooks_result (fails : queued.FailsWith registry error left) :
    (queued.traceHooks registry).result = some (.error error, left) := by
  cases fails with
  | construct fails => simp [traceHooks, callHook, fails]
  | postInit constructs fails => simp [traceHooks, callHook, constructs, fails]
  | provide constructs initializes fails =>
      simp [traceHooks, callHook, constructs, initializes, fails, Except.map]

theorem CompletesWith.traceHooks_result (completes : queued.CompletesWith registry final provided) :
    (queued.traceHooks registry).result = some (.ok final, provided) := by
  rcases completes with ⟨constructs, initializes, provides⟩
  simp [traceHooks, callHook, constructs, initializes, provides, Except.map]

/-- What calling the hooks comes to: one of them hangs or fails, or all of them complete. -/
inductive HooksEnd (queued : Queued σ) (registry : Registry) :
    Traced (HookCall σ) (Except ConfigurationError σ × Registry) → Prop
  | hung {calls : List (HookCall σ)} (attempt : Attempt .hung (calls.map HookCall.summary)) :
      HooksEnd queued registry ⟨calls, none⟩
  | failed {calls : List (HookCall σ)} {error : ConfigurationError} {left : Registry}
      (attempt : Attempt (.failed error) (calls.map HookCall.summary))
      (fails : queued.FailsWith registry error left) :
      HooksEnd queued registry ⟨calls, some (.error error, left)⟩
  | completed {calls : List (HookCall σ)} {final : σ} {provided : Registry}
      (attempt : Attempt .completed (calls.map HookCall.summary))
      (completes : queued.CompletesWith registry final provided) :
      HooksEnd queued registry ⟨calls, some (.ok final, provided)⟩

theorem hooksEnd (queued : Queued σ) (registry : Registry) :
    queued.HooksEnd registry (queued.traceHooks registry) := by
  cases constructs : queued.configuration.construct.read registry with
  | none =>
      simp only [traceHooks, callHook, Procedure.traceRead_result, constructs]
      exact .hung (.construct (by simp))
  | some construction =>
      rcases construction with ⟨error | built, constructed⟩
      · simp only [traceHooks, callHook, Procedure.traceRead_result, constructs]
        exact .failed (.construct (by simp)) (.construct constructs)
      · cases initializes : (queued.configuration.postInit built).read constructed with
        | none =>
            simp only [traceHooks, callHook, Procedure.traceRead_result, constructs, initializes]
            exact .hung (.postInit (by simp))
        | some initialization =>
            rcases initialization with ⟨⟨error | _, initial⟩, initialized⟩
            · simp only [traceHooks, callHook, Procedure.traceRead_result, constructs, initializes]
              exact .failed (.postInit (by simp)) (.postInit constructs initializes)
            · cases provides : (queued.configuration.provide initial).perform initialized with
              | none =>
                  simp only [traceHooks, callHook, Procedure.traceRead_result, constructs,
                    initializes, Procedure.tracePerform_zero_result, provides]
                  exact .hung (.provide .hung)
              | some provision =>
                  rcases provision with ⟨⟨error | _, final⟩, provided⟩
                  · simp only [traceHooks, callHook, Procedure.traceRead_result, constructs,
                      initializes, Procedure.tracePerform_zero_result, provides]
                    exact .failed (.provide (.failed error))
                      (.provide constructs initializes provides)
                  · simp only [traceHooks, callHook, Procedure.traceRead_result, constructs,
                      initializes, Procedure.tracePerform_zero_result, provides]
                    exact .completed (.provide .completed)
                      (.intro constructs initializes provides)

end Queued

/-- A call is the one of the hook, or it is made afterwards. -/
theorem mem_callHook {α β γ : Type} {stage : Stage} {configuration : Configuration σ}
    {registry : Registry} {run : Traced Moment (α × Registry)}
    {outcome : α → Except ConfigurationError β} {next : α → Registry → Traced (HookCall σ) γ}
    {call : HookCall σ}
    (call_mem : call ∈ (callHook stage configuration registry run outcome next).events) :
    (call.stage = stage ∧ call.configuration = configuration ∧ call.registry = registry) ∨
      ∃ value left, call ∈ (next value left).events := by
  simp only [callHook, Traced.tell_events, List.mem_cons] at call_mem
  rcases call_mem with rfl | call_mem
  · exact .inl ⟨rfl, rfl, rfl⟩
  · split at call_mem
    · cases call_mem
    · next value left _ => exact .inr ⟨value, left, call_mem⟩

/-- All calls are of the configuration, and the first hook is called before anything changes. -/
theorem Queued.mem_traceHooks {queued : Queued σ} {registry : Registry} {call : HookCall σ}
    (call_mem : call ∈ (queued.traceHooks registry).events) :
    call.configuration = queued.configuration ∧
      (call.stage = .construct → call.registry = registry) := by
  rcases mem_callHook call_mem with ⟨_, same, first⟩ | ⟨error | built, constructed, call_mem⟩
  · exact ⟨same, fun _ => first⟩
  · cases call_mem
  · rcases mem_callHook call_mem with
      ⟨stage_eq, same, _⟩ | ⟨⟨error | _, initial⟩, initialized, call_mem⟩
    · exact ⟨same, by simp [stage_eq]⟩
    · cases call_mem
    · rcases mem_callHook call_mem with ⟨stage_eq, same, _⟩ | ⟨_, _, call_mem⟩
      · exact ⟨same, by simp [stage_eq]⟩
      · cases call_mem

/--
A relation between an earlier and a later registry, and what is done in between, that procedures and
reports keep.
-/
structure Carries (relation : Registry → List Moment → Registry → Prop) : Prop where
  refl : ∀ registry, relation registry [] registry
  append : ∀ {first second third moments later}, relation first moments second →
    relation second later third → relation first (moments ++ later) third
  report : ∀ event registry, relation registry [] (registry.report event)
  read : ∀ {α : Type} {procedure : Procedure Empty α} {result registry after},
    procedure.read registry = some (result, after) →
      relation registry (procedure.traceRead registry).events after
  perform : ∀ {α : Type} {procedure : Procedure Registration α} {result registry after},
    procedure.perform registry = some (result, after) →
      relation registry (procedure.course 0 registry) after

namespace Carries

variable {relation : Registry → List Moment → Registry → Prop} {queued : Queued σ}
  {registry after : Registry}

theorem quietly (carries : Carries relation) {first second third : Registry}
    {moments : List Moment} (left : relation first moments second)
    (right : relation second [] third) : relation first moments third := by
  rw [← List.append_nil moments]
  exact carries.append left right

theorem report_all (carries : Carries relation) (events : List Event) (registry : Registry) :
    relation registry [] (events.foldl (fun registry event => registry.report event) registry) := by
  induction events generalizing registry with
  | nil => exact carries.refl registry
  | cons event rest ih => exact carries.append (carries.report event registry) (ih _)

/-- A hook that ends and what follows it carry on together. -/
theorem hook (carries : Carries relation) {α β γ : Type} {stage : Stage}
    {configuration : Configuration σ} {run : Traced Moment (α × Registry)}
    {outcome : α → Except ConfigurationError β}
    {next : α → Registry → Traced (HookCall σ) (γ × Registry)} {final : γ}
    (first : ∀ {value left}, run.result = some (value, left) → relation registry run.events left)
    (goesOn : ∀ {value left}, (next value left).result = some (final, after) →
      relation left ((next value left).events.flatMap (·.moments)) after)
    (called : (callHook stage configuration registry run outcome next).result =
      some (final, after)) :
    relation registry
      ((callHook stage configuration registry run outcome next).events.flatMap (·.moments))
      after := by
  cases ran : run.result with
  | none => simp [callHook, ran] at called
  | some answer =>
      rcases answer with ⟨value, left⟩
      simp only [callHook, ran, Traced.tell_result, Traced.tell_events,
        List.flatMap_cons] at called ⊢
      exact carries.append (first ran) (goesOn called)

/-- What procedures keep is kept by the hooks, also if one of them fails. -/
theorem hooks (carries : Carries relation) {outcome : Except ConfigurationError σ}
    (called : (queued.traceHooks registry).result = some (outcome, after)) :
    relation registry ((queued.traceHooks registry).events.flatMap (·.moments)) after := by
  have reads : ∀ {α : Type} {procedure : Procedure Empty α} {value registry left},
      (procedure.traceRead registry).result = some (value, left) →
        relation registry (procedure.traceRead registry).events left :=
    fun ran => carries.read ((Procedure.traceRead_result _ _).symm.trans ran)
  refine carries.hook reads ?_ called
  rintro (error | built) constructed called
  · cases called
    exact carries.refl after
  · refine carries.hook reads ?_ called
    rintro ⟨error | _, initial⟩ initialized called
    · cases called
      exact carries.refl after
    · refine carries.hook ?_ ?_ called
      · exact fun ran => carries.perform ((Procedure.tracePerform_zero_result _ _).symm.trans ran)
      · intro answer provided called
        cases called
        exact carries.refl after

theorem completes (carries : Carries relation) {final : σ}
    (completes : queued.CompletesWith registry final after) :
    relation registry ((queued.traceHooks registry).events.flatMap (·.moments)) after :=
  carries.hooks completes.traceHooks_result

end Carries

end BeanContainer
