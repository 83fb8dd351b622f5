import BeanContainer.Proofs.Context.Log

/-!
# Promises of active configurations

A configuration promises the beans that it declares, and is warned about those that are not there as
declared when its hooks have completed. Beans are neither removed nor replaced by anything that may
happen later. So what was found at that time is still there in every later state, and if nobody was
warned, all promises of active configurations are kept from then on.
-/

namespace BeanContainer

variable {σ : Type}

namespace Registry

/-- Everything that was registered or reported earlier still is. -/
structure Preserves (before after : Registry) : Prop where
  beans : before.beans <+: after.beans
  events : before.events <+: after.events

theorem Uses.events {before after : Registry} (uses : before.Uses after) :
    before.events <+: after.events := by
  rcases uses with ⟨news, reports, _⟩
  exact ⟨news, reports.told.symm⟩

/-- Nothing is forgotten, whatever is done. -/
theorem carries_preserves : Carries fun before _ after => before.Preserves after where
  refl _ := ⟨List.prefix_rfl, List.prefix_rfl⟩
  append left right := ⟨left.beans.trans right.beans, left.events.trans right.events⟩
  report _ _ := ⟨List.prefix_rfl, List.prefix_append _ _⟩
  read ran :=
    ⟨(Procedure.read_accounts ran).retains.beans, (Procedure.read_uses ran).events⟩
  perform ran :=
    ⟨(Procedure.perform_accounts ran).retains.beans, (Procedure.perform_uses ran).events⟩

theorem kind?_of_grown {before after : Registry} (grown : before.beans <+: after.beans)
    {name : String} {kind : StrategyKind} (ofKind : before.kind? name = some kind) :
    after.kind? name = some kind := by
  rcases Option.map_eq_some_iff.mp ofKind with ⟨strategy, found, rfl⟩
  rw [kind?, find?_of_grown grown found, Option.map_some]

/-- Each declared bean is registered as declared, or a warning about it has been reported. -/
def Honours (registry : Registry) (configuration : Configuration σ) : Prop :=
  ∀ bean ∈ configuration.beans, registry.kind? bean.name = some bean.kind ∨
    ∃ kind?, ∃ event ∈ registry.events, configuration.warning? bean kind? = some event

theorem Preserves.honours {before after : Registry} {configuration : Configuration σ}
    (preserves : before.Preserves after) (honours : before.Honours configuration) :
    after.Honours configuration := by
  intro bean bean_mem
  rcases honours bean bean_mem with ofKind | ⟨kind?, event, event_mem, warned⟩
  · exact .inl (kind?_of_grown preserves.beans ofKind)
  · exact .inr ⟨kind?, event, preserves.events.subset event_mem, warned⟩

/-- When it is checked, a configuration is warned about what is not as declared. -/
theorem honours_of_warnings {registry after : Registry} {configuration : Configuration σ}
    (sameBeans : after.beans = registry.beans)
    (warns : Active.warnings configuration registry ⊆ after.events) :
    after.Honours configuration := by
  intro bean bean_mem
  cases warned : configuration.warning? bean (registry.kind? bean.name) with
  | none =>
      left
      have ofKind := Configuration.warning?_eq_none_iff.mp warned
      exact kind?_of_grown (sameBeans ▸ List.prefix_rfl) ofKind
  | some event =>
      right
      refine ⟨_, event, warns ?_, warned⟩
      rw [Active.warnings_eq]
      exact List.mem_filterMap.mpr ⟨bean, bean_mem, warned⟩

end Registry

namespace Context

/-- The promises of all active configurations are kept, apart from those that were warned about. -/
def Honours (context : Context σ) : Prop :=
  ∀ active ∈ context.active, context.registry.Honours active.configuration

variable {context after : Context σ}

theorem Honours.of_preserves (honours : context.Honours)
    (preserves : context.registry.Preserves after.registry)
    (sameActive : after.active = context.active) : after.Honours := by
  intro active active_mem
  rw [sameActive] at active_mem
  exact preserves.honours (honours active active_mem)

/-- A load leaves the promises kept, since it ends with a check if it succeeds. -/
theorem Honours.load {queued pruned : Queued σ} {outcome : Except ConfigurationError Bool}
    (honours : context.Honours) (loaded : context.load queued = some (outcome, pruned, after)) :
    after.Honours := by
  have preserves := Registry.carries_preserves.load loaded
  rcases load_cases loaded with ⟨_, rfl⟩ | ⟨_, _, _, _, rfl⟩ | ⟨final, provided, _, _, _, rfl⟩
  · exact honours
  · exact honours.of_preserves preserves rfl
  · intro active active_mem
    rcases List.mem_append.mp active_mem with active_mem | active_mem
    · exact preserves.honours (honours active active_mem)
    · rw [List.mem_singleton.mp active_mem]
      refine Registry.honours_of_warnings (activate_beans queued final provided context) ?_
      intro event event_mem
      rw [activate_events]
      exact List.mem_append_left _ (List.mem_append_right _ event_mem)

theorem upholds_honours :
    Upholds (fun _ : Configuration σ => True)
      fun before _ after => before.Honours → after.Honours where
  waits _ _ := id
  append left right := right ∘ left
  load _ loaded honours := honours.load loaded
  assembled context _ honours :=
    honours.of_preserves (Registry.carries_preserves.report _ context.registry) rfl

end Context

namespace Journal

/-- Each operation leaves the promises kept, whether or not it fails. -/
theorem Valid.honours_step {all : List (Configuration σ)} {journal : Journal σ}
    (valid : journal.Valid) (running : journal.hung = false) (honours : journal.context.Honours)
    (operation : Operation σ) : (journal.step all operation).context.Honours := by
  rcases Registry.carries_preserves.step all journal operation with ⟨_, _, preserves⟩
  cases valid.leaves running operation with
  | hung sameContext _ => rwa [sameContext]
  | queued id queues _ =>
      refine honours.of_preserves preserves ?_
      rw [queues, Context.queue_eq_extend, Context.extend]
  | assembled ended _ =>
      exact Context.upholds_honours.assemble_turns (fun _ _ => trivial) ended honours
  | loaded ended _ => exact honours.load ended
  | used ended sameContext _ =>
      refine honours.of_preserves preserves ?_
      rw [sameContext]

theorem Valid.run_honours {all : List (Configuration σ)} {journal : Journal σ}
    (valid : journal.Valid) (honours : journal.context.Honours) (operations : List (Operation σ)) :
    (journal.run all operations).context.Honours :=
  Valid.run_induction (motive := fun journal => journal.context.Honours)
    (fun _ operation valid running honours => valid.honours_step running honours operation)
    valid honours operations

end Journal

namespace Context

open Journal (reliable faltering usurping)

/-- Declares a bean that it does not register. -/
def boasting : Queued Unit :=
  .ofConfiguration 2 { Configuration.supplying "boasting" [] [] with
    beans := [⟨"forgotten", .singleton⟩] }

/--
If nobody was warned about a declared bean in the course of a run, then each bean declared by a
configuration that is active by then is registered with exactly the declared kind of strategy. And so
it is after whatever operations follow, whether or not they fail, and whoever they warn.
-/
theorem promises_outlast (all : List (Configuration σ)) {initial : Registry}
    {operations later : List (Operation σ)} {reached final : Context σ}
    (ran : Context.run all { registry := initial } operations = some reached)
    (unwarned : ∀ event ∈ reached.registry.events, event.isBrokenPromise = false)
    (ranOn : reached.run all later = some final) :
    ∀ active ∈ reached.active, ∀ bean ∈ active.configuration.beans,
      final.registry.kind? bean.name = some bean.kind := by
  have valid : (Journal.start initial : Journal σ).Valid := Journal.valid_start initial
  rcases valid.context_of_run rfl ran with ⟨running, rfl⟩
  rcases (valid.run operations).context_of_run running ranOn with ⟨_, rfl⟩
  have honours : (Journal.run all (Journal.start initial) operations).context.Honours :=
    valid.run_honours (by simp [Honours, Journal.start]) operations
  rcases Registry.carries_preserves.run all _ later with ⟨_, _, preserves⟩
  intro active active_mem bean bean_mem
  rcases honours active active_mem bean bean_mem with ofKind | ⟨_, event, event_mem, warned⟩
  · exact Registry.kind?_of_grown preserves.beans ofKind
  · have quiet := unwarned event event_mem
    rw [Configuration.isBrokenPromise_of_warning? warned] at quiet
    cases quiet

/-- The promise outlasts an attempt to replace the bean, a failed assembly and a broken promise. -/
theorem promises_outlast_mishaps :
    ∃ reached final : Context Unit,
      Context.run [reliable, faltering] {} [.queue 0, .assemble] = some reached ∧
      reached.run [reliable, faltering] [.use usurping, .assemble, .load boasting] = some final ∧
      final.registry.events.any (·.isBrokenPromise) = true ∧
      final.registry.kind? "kept" = some .supplied := by
  have told : (Context.run [reliable, faltering] {} [.queue 0, .assemble]).bind
      (fun reached => (reached.run [reliable, faltering]
        [.use usurping, .assemble, .load boasting]).map fun final =>
          (reached.registry.events.any (·.isBrokenPromise),
            reached.active.map (·.configuration.beans),
            final.registry.events.any (·.isBrokenPromise))) =
      some (false, [[⟨"kept", .supplied⟩]], true) := by
    decide +kernel
  rcases Option.bind_eq_some_iff.mp told with ⟨reached, ran, told⟩
  rcases Option.map_eq_some_iff.mp told with ⟨final, ranOn, told⟩
  simp only [Prod.mk.injEq] at told
  rcases told with ⟨unwarned, declared, warned⟩
  have promised : [⟨"kept", .supplied⟩] ∈ reached.active.map (·.configuration.beans) := by
    simp [declared]
  rcases List.mem_map.mp promised with ⟨active, active_mem, declared⟩
  have kept := promises_outlast [reliable, faltering] ran (by simpa using unwarned) ranOn active
    active_mem ⟨"kept", .supplied⟩ (by simp [declared])
  exact ⟨reached, final, ran, ranOn, warned, kept⟩

end Context

end BeanContainer
