import BeanContainer.Proofs.Registry.Termination

/-!
# The course of an evaluation

A relation between a registry, the moments to come and the registry after them holds of every
evaluation if it holds of each change of the registry and of each way to answer a request, given
that it holds of the run of the constructor inside. As for what evaluation keeps, the induction is
done here once for all such relations.
-/

namespace BeanContainer

/--
The moments of answering a request that a constructor is run for. The run has a frame of its own.
What the strategy makes of its outcome is the answer.
-/
def Registry.builtMoments (thread : Thread) (frames : List String) (request : Request)
    (counted filled : Registry) (inside : List Moment) (outcome : Except BeanError Bean)
    (completed : Except BeanError Bean × Registry) : List Moment :=
  let frame := frames ++ [request.name]
  ⟨thread, frame, counted, .begins request.name⟩ ::
    (inside ++ [⟨thread, frame, filled, .ends request.name outcome⟩]) ++
    [⟨thread, frames, completed.2.leave thread, .answers request (some outcome) completed.1⟩]

/--
A relation between a registry, moments on a thread within frames, and the registry after them, which
holds of the parts of every evaluation.
-/
structure Recounts
    (relation : Thread → List String → Registry → List Moment → Registry → Prop) : Prop where
  works : ∀ thread frames registry,
    relation thread frames registry [⟨thread, frames, registry, .works⟩] registry
  append : ∀ {thread frames first second third moments others},
    first.Evolves second → second.Evolves third → relation thread frames first moments second →
      relation thread frames second others third →
        relation thread frames first (moments ++ others) third
  update : ∀ thread frames object change registry,
    relation thread frames registry [] (registry.update object change)
  allocate : ∀ thread frames (registry : Registry),
    relation thread frames registry [] registry.allocate.2
  report : ∀ thread frames message fields registry,
    relation thread frames registry [] (registry.report (.user message fields))
  /-- A thread that a procedure starts and waits for has its own chain. -/
  elsewhere : ∀ {thread other frames registry moments after},
    relation other (registry.chains.current other) registry moments after →
      relation thread frames registry moments after
  unregistered : ∀ {thread frames request registry}, registry.find? request.name = none →
    relation thread frames registry
      [⟨thread, frames, registry,
        .answers request none (.error (.invalidName request.name .unregistered))⟩] registry
  refused : ∀ {thread frames request registry strategy trace},
    registry.find? request.name = some strategy →
      registry.chains.enter thread request.name = .error trace →
        relation thread frames registry
          [⟨thread, frames, registry, .answers request none (.error (.cycle trace))⟩] registry
  mismatched : ∀ {thread frames request registry strategy entered},
    Registry.Enters thread request registry strategy entered →
      strategy.handover ≠ request.handover →
        relation thread frames registry
          [⟨thread, frames, entered.leave thread, .answers request none
            (.error (.invalidType request.name request.handover strategy.handover))⟩]
          (entered.leave thread)
  ready : ∀ {thread frames request registry strategy entered bean},
    Registry.Enters thread request registry strategy entered →
      strategy.handover = request.handover →
        strategy.ready? (.bean request.name) entered = some bean →
          relation thread frames registry
            [⟨thread, frames, entered.leave thread, .answers request none (.ok bean)⟩]
            (entered.leave thread)
  built : ∀ {thread frames request registry strategy entered constructor moments outcome filled},
    Registry.Enters thread request registry strategy entered →
      strategy.handover = request.handover →
        strategy.due? (.bean request.name) entered = some constructor →
          let counted := ((strategy.prepare (.bean request.name) entered).countRun
            (.bean request.name) constructor.listed).2
          let completed := strategy.complete (.bean request.name) outcome filled
          counted.Evolves filled →
            relation thread (frames ++ [request.name]) counted moments filled →
              relation thread frames registry
                (Registry.builtMoments thread frames request counted filled moments outcome
                  completed) (completed.2.leave thread)

/-- Whatever the fetcher answers, the relation holds of the moments until then. -/
def TracedFetcher.Recounts
    (relation : Thread → List String → Registry → List Moment → Registry → Prop)
    (traced : TracedFetcher) : Prop :=
  ∀ ⦃frames thread request registry outcome after⦄,
    (traced frames thread request registry).result = some (outcome, after) →
      relation thread frames registry (traced frames thread request registry).events after

namespace Recounts

variable {relation : Thread → List String → Registry → List Moment → Registry → Prop}

/-- A step that no moment of its own tells of precedes the rest of a procedure. -/
theorem step (recounts : Recounts relation) {thread : Thread} {frames : List String}
    {first second third : Registry} {moments : List Moment} (evolves : first.Evolves second)
    (evolvesOn : second.Evolves third) (changes : relation thread frames first [] second)
    (goesOn : relation thread frames second moments third) :
    relation thread frames first (⟨thread, frames, first, .works⟩ :: moments) third :=
  recounts.append (Registry.persists_evolves.refl first)
    (Registry.persists_evolves.trans evolves evolvesOn) (recounts.works thread frames first)
    (recounts.append evolves evolvesOn changes goesOn)

theorem run (recounts : Recounts relation) {ω α : Type} {traced : TracedFetcher}
    {fetcher : Fetcher} {effect : ω → Registry → Except BeanError Unit × Registry}
    {note : ω → Happening} {thread : Thread} {frames : List String}
    (erases : traced.Erases fetcher) (fetcherEvolves : fetcher.Keeps Registry.Evolves)
    (effectEvolves : ∀ command registry,
      Registry.Evolves registry (effect command registry).2)
    (fetcherRecounts : traced.Recounts relation)
    (effectRecounts : ∀ command registry, relation thread frames registry
      [⟨thread, frames, registry, note command⟩] (effect command registry).2)
    {procedure : Procedure ω α} {registry after : Registry} {result : α}
    (ran : procedure.run fetcher effect thread registry = some (result, after)) :
    relation thread frames registry
      (procedure.trace traced effect note frames thread registry).events after := by
  have persists := Registry.persists_evolves
  have evolvesOn : ∀ {procedure : Procedure ω α} {registry},
      procedure.run fetcher effect thread registry = some (result, after) →
        registry.Evolves after := persists.run fetcherEvolves effectEvolves
  induction procedure generalizing registry with
  | done value =>
      simp only [Procedure.run, Option.some.injEq, Prod.mk.injEq] at ran
      rw [← ran.2]
      exact recounts.works thread frames registry
  | fetch depth request next ih =>
      simp only [Procedure.run] at ran
      simp only [Procedure.trace, Traced.tell_events]
      cases fetched : fetcher (thread + depth) request registry with
      | none => simp [fetched] at ran
      | some answer =>
          rw [fetched] at ran
          have evolves := fetcherEvolves fetched
          rw [← erases (if depth = 0 then frames else registry.chains.current (thread + depth))]
            at fetched
          rw [Traced.bind_of_some fetched]
          refine recounts.append (persists.refl registry)
            (persists.trans evolves (evolvesOn ran)) (recounts.works thread frames registry)
            (recounts.append evolves (evolvesOn ran) ?_ (ih answer.1 ran))
          by_cases here : depth = 0
          · subst here
            exact fetcherRecounts fetched
          · rw [if_neg here] at fetched ⊢
            exact recounts.elsewhere (fetcherRecounts fetched)
  | update object change next ih =>
      exact recounts.step (persists.update object change registry) (evolvesOn ran)
        (recounts.update thread frames object change registry) (ih ran)
  | observe depth next ih =>
      exact recounts.append (persists.refl registry) (evolvesOn ran)
        (recounts.works thread frames registry) (ih _ ran)
  | allocate next ih =>
      exact recounts.step (persists.allocate registry) (evolvesOn ran)
        (recounts.allocate thread frames registry) (ih _ ran)
  | report message fields next ih =>
      exact recounts.step (persists.report message fields registry) (evolvesOn ran)
        (recounts.report thread frames message fields registry) (ih ran)
  | write command next ih =>
      exact recounts.append (effectEvolves command registry) (evolvesOn ran)
        (effectRecounts command registry) (ih _ ran)

open Registry in
theorem retrieve (recounts : Recounts relation) {build : TracedBuilder}
    (buildRecounts : ∀ {frames thread request registry strategy entered constructor outcome filled},
      Enters thread request registry strategy entered → strategy.handover = request.handover →
        strategy.due? (.bean request.name) entered = some constructor →
          let prepared := strategy.prepare (.bean request.name) entered
          let built := build (frames ++ [request.name]) thread (.bean request.name) constructor
            prepared
          let completed := strategy.complete (.bean request.name) outcome filled
          built.result = some (outcome, filled) →
            relation thread frames registry
              (built.events ++ [⟨thread, frames, completed.2.leave thread,
                .answers request (some outcome) completed.1⟩])
              (completed.2.leave thread)) :
    TracedFetcher.Recounts relation (traceRetrieve build) := by
  intro frames thread request registry outcome after answered
  rw [traceRetrieve_eq] at answered ⊢
  have foresees := foresees_prospect thread request registry
  generalize registry.prospect thread request = prospect at foresees answered
  cases foresees with
  | unregistered missing =>
      cases answered
      exact recounts.unregistered missing
  | refused found inFlight =>
      cases answered
      exact recounts.refused found inFlight
  | mismatched enters different =>
      cases answered
      exact recounts.mismatched enters different
  | ready enters same ready =>
      cases answered
      exact recounts.ready enters same ready
  | blocked => cases answered
  | due enters same due =>
      dsimp only at answered ⊢
      rw [Traced.bind_result] at answered
      rcases Option.bind_eq_some_iff.mp answered with ⟨⟨made, filled⟩, built, completed⟩
      cases completed
      rw [Traced.bind_of_some built]
      exact buildRecounts enters same due built

theorem fetch (recounts : Recounts relation) (budget : Nat) :
    TracedFetcher.Recounts relation (Registry.traceFetch budget) := by
  induction budget with
  | zero => exact recounts.retrieve fun _ _ _ built => by cases built
  | succ budget ih =>
      refine recounts.retrieve fun enters same due built => ?_
      simp only [Registry.traceBuilder, Traced.tell_result, Traced.bind_result] at built
      rcases Option.bind_eq_some_iff.mp built with ⟨⟨made, filled⟩, ran, ends⟩
      cases ends
      simp only [Registry.traceBuilder, Traced.tell_events, Traced.bind_of_some ran]
      rw [Procedure.trace_result (Registry.traceFetch_erases budget)] at ran
      have evolves := Registry.persists_evolves.fetch budget
      exact recounts.built enters same due
        (Registry.persists_evolves.run evolves (fun command => command.elim) ran)
        (recounts.run (Registry.traceFetch_erases budget) evolves (fun command => command.elim) ih
          (fun command => command.elim) ran)

theorem get (recounts : Recounts relation) :
    TracedFetcher.Recounts relation Registry.traceGet := by
  intro frames thread request registry outcome after answered
  exact recounts.fetch registry.size answered

/-- What holds of the parts of every evaluation holds of the course of a whole procedure. -/
theorem course (recounts : Recounts relation)
    (applyRecounts : ∀ thread frames registration registry, relation thread frames registry
      [⟨thread, frames, registry, .writes registration⟩]
      (Registration.apply registration registry).2)
    {α : Type} {procedure : Procedure Registration α} {thread : Thread}
    {registry after : Registry} {result : α}
    (ran : procedure.performOn thread registry = some (result, after)) :
    relation thread (registry.chains.current thread) registry (procedure.course thread registry)
      after :=
  recounts.run Registry.traceGet_erases Registry.persists_evolves.get Registry.apply_evolves
    recounts.get (applyRecounts thread (registry.chains.current thread)) ran

/-- A procedure that only reads writes nothing, so its moments are among those of evaluation. -/
theorem read (recounts : Recounts relation) {α : Type} {procedure : Procedure Empty α}
    {registry after : Registry} {result : α}
    (ran : procedure.read registry = some (result, after)) :
    relation 0 (registry.chains.current 0) registry (procedure.traceRead registry).events after :=
  recounts.run Registry.traceGet_erases Registry.persists_evolves.get nofun recounts.get nofun ran

end Recounts

end BeanContainer
