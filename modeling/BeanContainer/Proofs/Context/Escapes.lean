import BeanContainer.Proofs.Context.Conservation
import BeanContainer.Proofs.Registry.NestedFailures
import BeanContainer.Proofs.Registry.NestingDepth

/-!
# Failures that leave a hook

A hook that makes a request may hand its failure on in turn. The assembly then ends with it: the
configuration adds no layer, and neither does the assembly. So what an assembly reports of a failed
request tells the same words, and the same causes below them, as the failure of the request itself.
-/

namespace BeanContainer

variable {σ : Type}

/--
At its turn, a hook of the configuration comes to make the request when the registry is as reached.
If the request then fails with the given failure, the hook fails with the same.
-/
inductive Queued.HandsOn (queued : Queued σ) (registry : Registry) (depth : Nat) (request : Request)
    (reached : Registry) (failure : BeanError) : Prop
  | construct
      (hands : queued.configuration.construct.HandsOn Registry.get nofun 0 registry depth request
        reached failure (.error (.bean failure))) :
      HandsOn queued registry depth request reached failure
  | postInit {state changed : σ} {constructed : Registry}
      (constructs : queued.configuration.construct.read registry = some (.ok state, constructed))
      (hands : (queued.configuration.postInit state).HandsOn Registry.get nofun 0 constructed depth
        request reached failure (.error (.bean failure), changed)) :
      HandsOn queued registry depth request reached failure
  | provide {state initial changed : σ} {constructed initialized : Registry}
      (constructs : queued.configuration.construct.read registry = some (.ok state, constructed))
      (initializes : (queued.configuration.postInit state).read constructed =
        some ((.ok (), initial), initialized))
      (hands : (queued.configuration.provide initial).HandsOn Registry.get Registration.apply 0
        initialized depth request reached failure (.error (.bean failure), changed)) :
      HandsOn queued registry depth request reached failure

/-- A hook that hands on the failure of a request fails with it. -/
theorem Queued.HandsOn.failsWith {queued : Queued σ} {registry reached after : Registry}
    {depth : Nat} {request : Request} {failure : BeanError}
    (hands : queued.HandsOn registry depth request reached failure)
    (fails : Registry.get depth request reached = some (.error failure, after)) :
    ∃ left, queued.FailsWith registry (.bean failure) left := by
  rw [← Nat.zero_add depth] at fails
  cases hands with
  | construct hands =>
      rcases hands.run fails with ⟨left, ends⟩
      exact ⟨left, .construct ends⟩
  | postInit constructs hands =>
      rcases hands.run fails with ⟨left, ends⟩
      exact ⟨left, .postInit constructs ends⟩
  | provide constructs initializes hands =>
      rcases hands.run fails with ⟨left, ends⟩
      exact ⟨left, .provide constructs initializes ends⟩

/-- A turn at which nothing is missing and a hook fails ends as that hook. -/
theorem Turn.ending?_of_failsWith {turn : Turn σ} {error : ConfigurationError} {left : Registry}
    (satisfied : (turn.queued.pruned turn.registry).missing = [])
    (fails : turn.queued.FailsWith turn.registry error left) :
    turn.ending? = some (.failed error) := by
  have ended : Context.load turn.queued { registry := turn.registry } = some (.error error, _) :=
    Context.load_of_failsWith satisfied fails
  cases turn.loadEnds with
  | missing missing => exact absurd satisfied missing
  | hung _ _ loaded => cases loaded.symm.trans ended
  | failed _ attempt _ loaded =>
      cases loaded.symm.trans ended
      exact Turn.ending?_of_attempt attempt
  | completed _ _ _ loaded => cases loaded.symm.trans ended

/-- A hook that fails at a turn ends the assembly with its error. -/
theorem Context.assemble_of_failing_turn {context : Context σ} {turn : Turn σ}
    {error : ConfigurationError} {left : Registry} (turn_mem : turn ∈ context.turns)
    (satisfied : (turn.queued.pruned turn.registry).missing = [])
    (fails : turn.queued.FailsWith turn.registry error left) :
    ∃ after, context.assemble = some (.error error, after) := by
  rcases exists_proceeds context.waiting.zipIdx context with
    ⟨stop, left, settled, proceeds, _, stopped, _⟩
  have ending := Turn.ending?_of_failsWith satisfied fails
  rcases proceeds.stops turn turn_mem error ending with ⟨stop_eq, _⟩
  rw [← traceAssemble_zipIdx_result]
  exact ⟨_, stopped error stop_eq⟩

namespace Registry

variable {budget : Nat} {thread : Thread} {request : Request} {registry : Registry}
  {layers : List (Option String)} {cause : BeanError}

/-- A request that fails through nested ones gets no other answer within a larger budget. -/
theorem FailsThrough.fetch_of_le
    (fails : registry.FailsThrough budget thread request layers cause) :
    ∃ after, ∀ more, budget ≤ more →
      Registry.fetch more thread request registry = some (.error (cause.within layers), after) := by
  rcases fails.fetch with ⟨after, answered⟩
  exact ⟨after, fun _ enough => fetch_covers enough answered⟩

/-- If such a request ends at all, it ends with the innermost failure within the layers. -/
theorem FailsThrough.get_eq (fails : registry.FailsThrough budget thread request layers cause)
    (ends : (registry.get thread request).isSome = true) :
    ∃ after, registry.get thread request = some (.error (cause.within layers), after) := by
  rcases fails.fetch_of_le with ⟨after, answered⟩
  rcases Option.isSome_iff_exists.mp ends with ⟨answer, got⟩
  refine ⟨after, got.trans ?_⟩
  have covered := fetch_covers (Nat.le_max_left registry.size budget) got
  exact covered.symm.trans (answered _ (Nat.le_max_right registry.size budget))

end Registry

/--
A request that fails through any number of nested requests is answered with the innermost failure
within exactly the layers that the constructors put around it. This holds within each budget that
allows for the nesting, and in an orderly registry the nesting is never too deep. The texts of the
answer are those of the layers from outside in, then those of the innermost failure. It tells a
cycle exactly if the innermost failure is one and no layer wraps it. And if a hook hands it on in an
assembly, the assembly ends with an error of the same texts.
-/
theorem failure_keeps_to_its_layers {budget : Nat} {thread : Thread} {request : Request}
    {registry : Registry} {layers : List (Option String)} {cause : BeanError}
    (fails : registry.FailsThrough budget thread request layers cause) :
    (∃ after, (∀ more, budget ≤ more → Registry.fetch more thread request registry =
        some (.error (cause.within layers), after)) ∧
      (budget ≤ registry.size ∨ registry.IsOrderly thread →
        registry.get thread request = some (.error (cause.within layers), after))) ∧
    (cause.within layers).message :: (cause.within layers).sources =
      BeanError.layerTexts layers ++ cause.message :: cause.sources ∧
    (∀ trace, (cause.within layers).cycleTrace? = some trace ↔
      cause = .cycle trace ∧ layers.reduceOption = []) ∧
    ∀ (context : Context σ), ∀ turn ∈ context.turns,
      (turn.queued.pruned turn.registry).missing = [] →
      turn.queued.HandsOn turn.registry thread request registry (cause.within layers) →
      (registry.get thread request).isSome = true →
        ∃ error after, context.assemble = some (.error error, after) ∧
          error.message = (cause.within layers).message ∧
          error.sources = (cause.within layers).sources := by
  refine ⟨?_, BeanError.texts_within layers cause,
    fun trace => BeanError.cycleTrace?_within_eq_some_iff, ?_⟩
  · rcases fails.fetch_of_le with ⟨after, answered⟩
    refine ⟨after, answered, ?_⟩
    rintro (enough | orderly)
    · exact answered registry.size enough
    · rcases (Registry.get_ends_within_short_chains orderly request).1 with
        ⟨outcome, final, _, ends⟩
      have same := (ends _ (Nat.le_max_left registry.size budget)).symm.trans
        (answered _ (Nat.le_max_right registry.size budget))
      exact (ends registry.size (Nat.le_refl _)).trans same
  · intro context turn turn_mem satisfied hands ends
    rcases fails.get_eq ends with ⟨after, answered⟩
    rcases hands.failsWith answered with ⟨left, escapes⟩
    rcases Context.assemble_of_failing_turn turn_mem satisfied escapes with ⟨left, ends⟩
    exact ⟨.bean (cause.within layers), left, ends, rfl, rfl⟩

/-- The first turn is that of the first configuration in the queue. -/
theorem Context.first_mem_turns {context : Context σ} {queued : Queued σ} {rest : List (Queued σ)}
    (waits : context.waiting = queued :: rest) :
    ⟨0, queued, context.registry⟩ ∈ context.turns := by
  rw [turns, waits, List.zipIdx_cons, traceAssemble, Traced.map_events, tracePasses]
  exact Traced.mem_bind_events_of_first List.mem_cons_self

/-- A configuration that asks for a brittle bean when it has been built. -/
def starting : Queued Unit :=
  .ofConfiguration 0 { Configuration.supplying "starting" [] [] with
    postInit := fun _ => .fetch 0 ⟨"app", ⟨.value, .unit⟩⟩ fun
      | .ok _ => .done (.ok (), ())
      | .error failure => .done (.error (.bean failure), ()) }

theorem failure_keeps_to_its_layers_brittle :
    Registry.brittle.FailsThrough 4 0 ⟨"app", ⟨.value, .unit⟩⟩ [some "app", none, some "pool"]
      (.construction "address" Registry.unreachable) ∧
    ∃ error after,
      ({ registry := .brittle, waiting := [starting] } : Context Unit).assemble =
        some (.error error, after) ∧
      error.message = "could not construct the bean \"app\"" ∧
      error.sources = ["could not construct the bean \"pool\"",
        "could not construct the bean \"address\"", "no route", "link is down",
        "cable is cut"] := by
  refine ⟨Registry.brittle_failsThrough, ?_⟩
  have turn_mem : ⟨0, starting, .brittle⟩ ∈
      ({ registry := .brittle, waiting := [starting] } : Context Unit).turns :=
    Context.first_mem_turns rfl
  rcases failure_keeps_to_its_layers Registry.brittle_failsThrough with ⟨_, _, _, escapes⟩
  rcases escapes _ _ turn_mem rfl (.postInit rfl ⟨_, .here _ _, fun after _ => ⟨after, rfl⟩⟩)
    (by decide +kernel) with ⟨error, after, ends, message_eq, sources_eq⟩
  exact ⟨error, after, ends, message_eq, sources_eq⟩

end BeanContainer
