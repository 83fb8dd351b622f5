import BeanContainer.Proofs.Traced
import BeanContainer.Registry.Registration

/-!
# Evaluation, moment by moment

The evaluation of procedures and requests, with all its moments: each step of a procedure, the
beginning and the end of each run of a constructor, and each answer. A moment has the registry as it
is then. It also has the names of the constructors that run around it, which are gathered from the
calls alone and not from what the registry writes down.

Each function here goes with the one that answers requests without telling anything, and has the
same result: the moments can be erased.
-/

namespace BeanContainer

/-- What happens at a moment of an evaluation. -/
inductive Happening where
  /-- A procedure takes its next step. -/
  | works
  /-- A procedure takes a step that may add a bean. -/
  | writes (registration : Registration)
  /-- The constructor behind the name begins to run. -/
  | begins (name : String)
  | ends (name : String) (outcome : Except BeanError Bean)
  /-- A request is answered. If the constructor was run for that, the run had the given outcome. -/
  | answers (request : Request) (run : Option (Except BeanError Bean))
    (outcome : Except BeanError Bean)

/-- A moment of an evaluation on a thread. -/
structure Moment where
  thread : Thread
  /-- The names whose constructors run around the moment on its thread, outermost first. -/
  frames : List String
  registry : Registry
  happening : Happening

/-- A way to answer requests within the given frames. -/
abbrev TracedFetcher :=
  List String → Thread → Request → Registry → Traced Moment (Except BeanError Bean × Registry)

/-- A way to run constructors, each within the given frames, of which it is the last. -/
abbrev TracedBuilder := List String → Thread → Site → Constructor → Registry →
  Traced Moment (Except BeanError Bean × Registry)

/-- Without its moments, the fetcher answers as the other one does. -/
def TracedFetcher.Erases (traced : TracedFetcher) (fetcher : Fetcher) : Prop :=
  ∀ frames thread request registry,
    (traced frames thread request registry).result = fetcher thread request registry

def TracedBuilder.Erases (traced : TracedBuilder) (build : Builder) : Prop :=
  ∀ frames thread site constructor registry,
    (traced frames thread site constructor registry).result = build thread site constructor registry

namespace Procedure

/-- Runs the procedure within the frames. -/
def trace {ω α : Type} (fetcher : TracedFetcher)
    (effect : ω → Registry → Except BeanError Unit × Registry) (note : ω → Happening)
    (frames : List String) (thread : Thread) :
    Procedure ω α → Registry → Traced Moment (α × Registry)
  | done result, registry =>
    .tell ⟨thread, frames, registry, .works⟩ (.pure (result, registry))
  | fetch depth request next, registry =>
    -- A thread that the procedure starts and waits for has its own chain.
    let there := if depth = 0 then frames else registry.chains.current (thread + depth)
    .tell ⟨thread, frames, registry, .works⟩
      ((fetcher there (thread + depth) request registry).bind fun answer =>
        (next answer.1).trace fetcher effect note frames thread answer.2)
  | update object change next, registry =>
    .tell ⟨thread, frames, registry, .works⟩
      (next.trace fetcher effect note frames thread (registry.update object change))
  | observe depth next, registry =>
    .tell ⟨thread, frames, registry, .works⟩
      ((next (registry.view (thread + depth))).trace fetcher effect note frames thread registry)
  | allocate next, registry =>
    .tell ⟨thread, frames, registry, .works⟩
      ((next registry.allocate.1).trace fetcher effect note frames thread registry.allocate.2)
  | report message fields next, registry =>
    .tell ⟨thread, frames, registry, .works⟩
      (next.trace fetcher effect note frames thread (registry.report (.user message fields)))
  | write command next, registry =>
    .tell ⟨thread, frames, registry, note command⟩
      ((next (effect command registry).1).trace fetcher effect note frames thread
        (effect command registry).2)

theorem trace_result {ω α : Type} {traced : TracedFetcher} {fetcher : Fetcher}
    (erases : traced.Erases fetcher) {effect : ω → Registry → Except BeanError Unit × Registry}
    {note : ω → Happening} {frames : List String} {thread : Thread} (procedure : Procedure ω α)
    (registry : Registry) :
    (procedure.trace traced effect note frames thread registry).result =
      procedure.run fetcher effect thread registry := by
  induction procedure generalizing registry with
  | done result => rfl
  | fetch depth request next ih =>
      simp only [trace, run, Traced.tell_result, Traced.bind_result]
      rw [erases]
      cases fetcher (thread + depth) request registry with
      | none => rfl
      | some answer => exact ih answer.1 answer.2
  | update object change next ih => exact ih _
  | observe depth next ih => exact ih _ _
  | allocate next ih => exact ih _ _
  | report message fields next ih => exact ih _
  | write command next ih => exact ih _ _

end Procedure

/-- What is handed out, and what the constructor came to if it was run for that. -/
structure Handout where
  run : Option (Except BeanError Bean)
  outcome : Except BeanError Bean
  registry : Registry

/-- What is handed out, and the registry. -/
def Handout.answer (handout : Handout) : Except BeanError Bean × Registry :=
  (handout.outcome, handout.registry)

namespace Registry

/-- Runs constructors whose requests are answered by the fetcher. Each run is counted. -/
def traceBuilder (fetcher : TracedFetcher) : TracedBuilder :=
  fun frames thread site constructor registry =>
    let (run, counted) := registry.countRun site constructor.listed
    .tell ⟨thread, frames, counted, .begins site.label⟩
      (((constructor.run run).trace fetcher nofun nofun frames thread counted).bind fun built =>
        .tell ⟨thread, frames, built.2, .ends site.label built.1⟩ (.pure built))

/-- Makes a bean, in an object of its own or as the constructor leaves it. -/
def traceMakeNew (build : TracedBuilder) (frames : List String) (thread : Thread) (site : Site)
    (constructor : Constructor) (isObject : Bool) (registry : Registry) : Traced Moment Handout :=
  (build frames thread site constructor registry).map fun
    | (.error error, registry) => ⟨some (.error error), .error error, registry⟩
    | (.ok made, registry) =>
      let (bean, registry) := registry.newBean isObject made
      ⟨some (.ok made), .ok bean, registry⟩

/-- Makes the bean of the site unless it is kept already. -/
def traceMakeOnce (build : TracedBuilder) (frames : List String) (thread : Thread) (site : Site)
    (constructor : Constructor) (registry : Registry) : Traced Moment Handout :=
  match registry.kept? site with
  | some bean => .pure ⟨none, .ok bean, registry⟩
  | none =>
    if registry.locked.contains site then .stuck
    else
      (traceMakeNew build frames thread site constructor true (registry.lock site)).map fun
        | ⟨run, .error error, registry⟩ => ⟨run, .error error, registry.unlock site⟩
        | ⟨run, .ok bean, registry⟩ =>
          let (bean, registry) := registry.keep site bean
          ⟨run, .ok bean, registry.unlock site⟩

/-- What the strategy at the site hands out. -/
def traceProduce (build : TracedBuilder) (frames : List String) (thread : Thread) (site : Site)
    (strategy : Strategy) (registry : Registry) : Traced Moment Handout :=
  match strategy with
  | .supplied _ bean => .pure ⟨none, .ok bean, registry⟩
  | .singleton _ constructor | .smartSingleton _ constructor =>
    traceMakeOnce build frames thread site constructor registry
  | .factory _ constructor => traceMakeNew build frames thread site constructor false registry
  | .smartFactory _ constructor => traceMakeNew build frames thread site constructor true registry

/-- Answers the request with what is handed out. -/
def traceAnswer (frames : List String) (thread : Thread) (request : Request) (handout : Handout) :
    Traced Moment (Except BeanError Bean × Registry) :=
  .tell ⟨thread, frames, handout.registry, .answers request handout.run handout.outcome⟩
    (.pure handout.answer)

/-- Answers a request, given how constructors are run. The run of one has a frame of its own. -/
def traceRetrieve (build : TracedBuilder) : TracedFetcher := fun frames thread request registry =>
  let answer := traceAnswer frames thread request
  match registry.find? request.name with
  | none => answer ⟨none, .error (.invalidName request.name .unregistered), registry⟩
  | some strategy =>
    match registry.chains.enter thread request.name with
    | .error trace => answer ⟨none, .error (.cycle trace), registry⟩
    | .ok chains =>
      let registry := { registry with chains }.report
        (.resolving request.name request.handover.access)
      if strategy.handover = request.handover then
        (traceProduce build (frames ++ [request.name]) thread (.bean request.name) strategy
          registry).bind fun handout =>
            answer { handout with registry := handout.registry.leave thread }
      else
        answer ⟨none, .error (.invalidType request.name request.handover strategy.handover),
          registry.leave thread⟩

/-- Answers a request with at most the given number of constructors nested in each other. -/
def traceFetch : Nat → TracedFetcher
  | 0 => traceRetrieve fun _ _ _ _ _ => .stuck
  | budget + 1 => traceRetrieve (traceBuilder (traceFetch budget))

/-- Answers a request on the thread. -/
def traceGet : TracedFetcher := fun frames thread request registry =>
  traceFetch registry.size frames thread request registry

section Erasure

variable {traced : TracedBuilder} {build : Builder} {frames : List String} {thread : Thread}
  {site : Site} {constructor : Constructor} {registry : Registry}

theorem traceBuilder_erases {traced : TracedFetcher} {fetcher : Fetcher}
    (erases : traced.Erases fetcher) : (traceBuilder traced).Erases (builder fetcher) := by
  intro frames thread site constructor registry
  simp only [traceBuilder, builder, Traced.tell_result, Traced.bind_result, Traced.pure_result,
    Procedure.trace_result erases]
  exact Option.bind_fun_some _

theorem traceMakeNew_result (frames : List String) (erases : traced.Erases build)
    (isObject : Bool) :
    (traceMakeNew traced frames thread site constructor isObject registry).result.map
        Handout.answer =
      makeNew build thread site constructor isObject registry := by
  rw [traceMakeNew, Traced.map_result, erases, makeNew]
  rcases build thread site constructor registry with _ | ⟨error | made, filled⟩ <;> rfl

theorem traceMakeOnce_result (erases : traced.Erases build) :
    (traceMakeOnce traced frames thread site constructor registry).result.map Handout.answer =
      makeOnce build thread site constructor registry := by
  rw [traceMakeOnce, makeOnce]
  cases registry.kept? site with
  | some bean => rfl
  | none =>
      by_cases locked : registry.locked.contains site
      · simp only [locked, if_true]
        rfl
      · simp only [locked, Bool.false_eq_true, if_false]
        rw [← traceMakeNew_result frames erases, Traced.map_result]
        rcases (traceMakeNew traced frames thread site constructor true
          (registry.lock site)).result with _ | ⟨run, error | bean, filled⟩ <;> rfl

theorem traceProduce_result (frames : List String) (erases : traced.Erases build)
    (strategy : Strategy) :
    (traceProduce traced frames thread site strategy registry).result.map Handout.answer =
      produce build thread site strategy registry := by
  cases strategy with
  | supplied type bean => rfl
  | singleton type constructor | smartSingleton type constructor =>
      exact traceMakeOnce_result erases
  | factory type constructor | smartFactory type constructor =>
      exact traceMakeNew_result frames erases _

theorem traceRetrieve_erases (erases : traced.Erases build) :
    (traceRetrieve traced).Erases (retrieve build) := by
  intro frames thread request registry
  unfold traceRetrieve retrieve
  cases registry.find? request.name with
  | none => rfl
  | some strategy =>
      cases registry.chains.enter thread request.name with
      | error trace => rfl
      | ok chains =>
          by_cases same : strategy.handover = request.handover
          · simp only [same, if_true, Traced.bind_result]
            rw [← traceProduce_result (frames ++ [request.name]) erases]
            cases (traceProduce traced (frames ++ [request.name]) thread (.bean request.name)
              strategy _).result <;> rfl
          · simp only [same, if_false]
            rfl

theorem traceFetch_erases (budget : Nat) : (traceFetch budget).Erases (fetch budget) := by
  induction budget with
  | zero => exact traceRetrieve_erases fun _ _ _ _ _ => rfl
  | succ budget ih => exact traceRetrieve_erases (traceBuilder_erases ih)

theorem traceGet_erases : traceGet.Erases get :=
  fun frames thread request registry =>
    traceFetch_erases registry.size frames thread request registry

end Erasure

end Registry

namespace Procedure

variable {α : Type}

/-- Runs a procedure that may add beans on the thread. -/
def performOn (thread : Thread) (procedure : Procedure Registration α) (registry : Registry) :
    Option (α × Registry) :=
  procedure.run Registry.get Registration.apply thread registry

/-- Runs a procedure that may add beans on the thread, within the names in flight there. -/
def tracePerform (thread : Thread) (procedure : Procedure Registration α) (registry : Registry) :
    Traced Moment (α × Registry) :=
  procedure.trace Registry.traceGet Registration.apply .writes (registry.chains.current thread)
    thread registry

/-- Runs a procedure that only reads the registry. -/
def traceRead (procedure : Procedure Empty α) (registry : Registry) :
    Traced Moment (α × Registry) :=
  procedure.trace Registry.traceGet nofun nofun (registry.chains.current 0) 0 registry

/-- The moments of a procedure that may add beans. -/
def course (thread : Thread) (procedure : Procedure Registration α) (registry : Registry) :
    List Moment :=
  (procedure.tracePerform thread registry).events

/-- The traced run of a procedure has the result of the run that tells nothing. -/
theorem tracePerform_result (thread : Thread) (procedure : Procedure Registration α)
    (registry : Registry) :
    (procedure.tracePerform thread registry).result = procedure.performOn thread registry :=
  trace_result Registry.traceGet_erases procedure registry

/-- A run that comes to its end comes to the same when it tells its moments. -/
theorem tracePerform_of_performOn {thread : Thread} {procedure : Procedure Registration α}
    {registry after : Registry} {result : α}
    (ran : procedure.performOn thread registry = some (result, after)) :
    procedure.tracePerform thread registry =
      ⟨procedure.course thread registry, some (result, after)⟩ := by
  rw [← ran, ← tracePerform_result]
  rfl

@[simp]
theorem tracePerform_zero_result (procedure : Procedure Registration α) (registry : Registry) :
    (procedure.tracePerform 0 registry).result = procedure.perform registry :=
  tracePerform_result 0 procedure registry

@[simp]
theorem traceRead_result (procedure : Procedure Empty α) (registry : Registry) :
    (procedure.traceRead registry).result = procedure.read registry :=
  trace_result Registry.traceGet_erases procedure registry

end Procedure

end BeanContainer
