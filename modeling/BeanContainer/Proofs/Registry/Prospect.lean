import BeanContainer.Proofs.Registry.Growth
import BeanContainer.Proofs.Registry.Trace

/-!
# What a request comes to

Before any constructor runs it is settled what will come of a request: it is refused, it asks for
what is not there, a bean is there for it already, or a constructor has to run. Only in the last
case does the answer depend on user code. What happens then is the same for all strategies, up to
whether the site is locked meanwhile and the new bean is kept.
-/

namespace BeanContainer

namespace Strategy

/-- Whether one bean is made for all requests. -/
def makesOnce : Strategy → Bool
  | singleton .. | smartSingleton .. => true
  | factory .. | supplied .. | smartFactory .. => false

/-- Whether each new bean is put into an object of its own. -/
def makesObjects : Strategy → Bool
  | singleton .. | smartSingleton .. | smartFactory .. => true
  | factory .. | supplied .. => false

theorem makesObjects_of_once {strategy : Strategy} (once : strategy.makesOnce = true) :
    strategy.makesObjects = true := by
  cases strategy with
  | singleton type own | smartSingleton type own => rfl
  | supplied type bean | factory type own | smartFactory type own => cases once

/-- Of the strategies that make objects, only the smart factory makes more than one. -/
theorem makesOnce_or_of_makesObjects {strategy : Strategy}
    (makes : strategy.makesObjects = true) :
    strategy.makesOnce = true ∨ strategy.kind = .smartFactory := by
  cases strategy with
  | singleton type own | smartSingleton type own => exact Or.inl rfl
  | smartFactory type own => exact Or.inr rfl
  | factory type own | supplied type bean => cases makes

/-- The bean that is there already for all requests at the site. -/
def ready? (site : Site) (registry : Registry) : Strategy → Option Bean
  | supplied _ bean => some bean
  | singleton .. | smartSingleton .. => registry.kept? site
  | factory .. | smartFactory .. => none

/-- The constructor that a request at the site sets going. -/
def due? (site : Site) (registry : Registry) : Strategy → Option Constructor
  | supplied .. => none
  | singleton _ constructor | smartSingleton _ constructor =>
    if (registry.kept? site).isSome ∨ site ∈ registry.locked then none else some constructor
  | factory _ constructor | smartFactory _ constructor => some constructor

/-- The registry on which the constructor at the site runs. -/
def prepare (site : Site) (registry : Registry) (strategy : Strategy) : Registry :=
  if strategy.makesOnce then registry.lock site else registry

/-- What the strategy makes of the outcome of the constructor at the site. -/
def complete (site : Site) (outcome : Except BeanError Bean) (registry : Registry)
    (strategy : Strategy) : Except BeanError Bean × Registry :=
  match outcome with
  | .error error => (.error error, if strategy.makesOnce then registry.unlock site else registry)
  | .ok made =>
    let (bean, registry) := registry.newBean strategy.makesObjects made
    if strategy.makesOnce then
      let (bean, registry) := registry.keep site bean
      (.ok bean, registry.unlock site)
    else (.ok bean, registry)

end Strategy

/-- What a request comes to, with the registry in which its name is entered if it comes so far. -/
inductive Prospect where
  | unregistered
  | refused (trace : List String)
  | mismatched (actual : Handover) (entered : Registry)
  | ready (bean : Bean) (entered : Registry)
  /-- The only bean of the name is under construction, and the request waits for that. -/
  | blocked
  | due (strategy : Strategy) (constructor : Constructor) (entered : Registry)

namespace Registry

/-- What the request on the thread comes to. -/
def prospect (thread : Thread) (request : Request) (registry : Registry) : Prospect :=
  match registry.find? request.name with
  | none => .unregistered
  | some strategy =>
    match registry.chains.enter thread request.name with
    | .error trace => .refused trace
    | .ok chains =>
      let entered := { registry with chains }.report
        (.resolving request.name request.handover.access)
      if strategy.handover = request.handover then
        match strategy.due? (.bean request.name) entered with
        | some constructor => .due strategy constructor entered
        | none =>
          match strategy.ready? (.bean request.name) entered with
          | some bean => .ready bean entered
          | none => .blocked
      else .mismatched strategy.handover entered

/-- The request is for a bean of the strategy, and its name has been entered. -/
structure Enters (thread : Thread) (request : Request) (registry : Registry) (strategy : Strategy)
    (entered : Registry) : Prop where
  found : registry.find? request.name = some strategy
  enter : ∃ chains, registry.chains.enter thread request.name = .ok chains ∧
    entered = { registry with chains }.report (.resolving request.name request.handover.access)

/-- When a request comes to what. -/
inductive Foresees (thread : Thread) (request : Request) (registry : Registry) : Prospect → Prop
  | unregistered (missing : registry.find? request.name = none) :
      Foresees thread request registry .unregistered
  | refused {strategy : Strategy} {trace : List String}
      (found : registry.find? request.name = some strategy)
      (inFlight : registry.chains.enter thread request.name = .error trace) :
      Foresees thread request registry (.refused trace)
  | mismatched {strategy : Strategy} {entered : Registry}
      (enters : Enters thread request registry strategy entered)
      (different : strategy.handover ≠ request.handover) :
      Foresees thread request registry (.mismatched strategy.handover entered)
  | ready {strategy : Strategy} {bean : Bean} {entered : Registry}
      (enters : Enters thread request registry strategy entered)
      (same : strategy.handover = request.handover)
      (ready : strategy.ready? (.bean request.name) entered = some bean) :
      Foresees thread request registry (.ready bean entered)
  | blocked {strategy : Strategy} {entered : Registry}
      (enters : Enters thread request registry strategy entered)
      (notDue : strategy.due? (.bean request.name) entered = none)
      (notReady : strategy.ready? (.bean request.name) entered = none) :
      Foresees thread request registry .blocked
  | due {strategy : Strategy} {constructor : Constructor} {entered : Registry}
      (enters : Enters thread request registry strategy entered)
      (same : strategy.handover = request.handover)
      (due : strategy.due? (.bean request.name) entered = some constructor) :
      Foresees thread request registry (.due strategy constructor entered)

variable {thread : Thread} {request : Request} {registry : Registry}

theorem foresees_prospect (thread : Thread) (request : Request) (registry : Registry) :
    Foresees thread request registry (registry.prospect thread request) := by
  unfold prospect
  split
  · next missing => exact .unregistered missing
  · next strategy found =>
      split
      · next trace inFlight => exact .refused found inFlight
      · next chains entered =>
          generalize entered_eq : Registry.report _ _ = within
          have enters : Enters thread request registry strategy within :=
            ⟨found, chains, entered, entered_eq.symm⟩
          by_cases same : strategy.handover = request.handover
          · simp only [same, if_true]
            cases due : strategy.due? (.bean request.name) within with
            | some constructor => exact .due enters same due
            | none =>
                cases ready : strategy.ready? (.bean request.name) within with
                | some bean => exact .ready enters same ready
                | none => exact .blocked enters due ready
          · simp only [same, if_false]
            exact .mismatched enters same

theorem Enters.notMem {strategy : Strategy} {entered : Registry}
    (enters : Enters thread request registry strategy entered) :
    request.name ∉ registry.chains.current thread := by
  rcases enters.enter with ⟨chains, enter, _⟩
  exact (Chains.enter_eq_ok_iff.mp enter).1

theorem Enters.current {strategy : Strategy} {entered : Registry}
    (enters : Enters thread request registry strategy entered) (other : Thread) :
    entered.chains.current other =
      if other = thread then registry.chains.current thread ++ [request.name]
      else registry.chains.current other := by
  rcases enters.enter with ⟨chains, enter, rfl⟩
  change chains.current other = _
  rw [← (Chains.enter_eq_ok_iff.mp enter).2, Chains.current_put]

theorem Enters.contains {strategy : Strategy} {entered : Registry}
    (enters : Enters thread request registry strategy entered) :
    registry.contains request.name = true := by
  rw [contains_eq_find?, enters.found, Option.isSome_some]

theorem Enters.prepare_beans {strategy : Strategy} {entered : Registry}
    (enters : Enters thread request registry strategy entered) :
    (strategy.prepare (.bean request.name) entered).beans = registry.beans := by
  rcases enters.enter with ⟨chains, _, rfl⟩
  unfold Strategy.prepare
  split <;> rfl

theorem prepare_chains (site : Site) (registry : Registry) (strategy : Strategy) :
    (strategy.prepare site registry).chains = registry.chains := by
  unfold Strategy.prepare
  split <;> rfl

/-- A strategy hands out the bean that is there, or has its constructor make one. -/
theorem traceProduce_eq (build : TracedBuilder) (frames : List String) (thread : Thread)
    (site : Site) (strategy : Strategy) (registry : Registry) :
    traceProduce build frames thread site strategy registry =
      match strategy.due? site registry with
      | some constructor =>
        (build frames thread site constructor (strategy.prepare site registry)).map fun built =>
          let completed := strategy.complete site built.1 built.2
          ⟨some built.1, completed.1, completed.2⟩
      | none =>
        match strategy.ready? site registry with
        | some bean => .pure ⟨none, .ok bean, registry⟩
        | none => .stuck := by
  cases strategy with
  | supplied type bean => rfl
  | singleton type constructor | smartSingleton type constructor =>
      simp only [traceProduce, traceMakeOnce, traceMakeNew, Strategy.due?, Strategy.ready?,
        Strategy.prepare, Strategy.makesOnce, if_true]
      cases kept : registry.kept? site with
      | some bean => simp
      | none =>
          by_cases locked : site ∈ registry.locked
          · simp [locked]
          · simp only [locked, List.contains_iff_mem, Option.isSome_none, Bool.false_eq_true,
              or_self, if_false]
            rcases build frames thread site constructor (registry.lock site) with
              ⟨events, _ | ⟨error | made, filled⟩⟩ <;> rfl
  | factory type constructor | smartFactory type constructor =>
      simp only [traceProduce, traceMakeNew, Strategy.due?, Strategy.prepare, Strategy.makesOnce,
        Bool.false_eq_true, if_false]
      rcases build frames thread site constructor registry with
        ⟨events, _ | ⟨error | made, filled⟩⟩ <;> rfl

/-- A request is answered as it stands with it, or by the constructor that is due. -/
theorem traceRetrieve_eq (build : TracedBuilder) (frames : List String) (thread : Thread)
    (request : Request) (registry : Registry) :
    traceRetrieve build frames thread request registry =
      match registry.prospect thread request with
      | .unregistered => traceAnswer frames thread request
          ⟨none, .error (.invalidName request.name .unregistered), registry⟩
      | .refused trace => traceAnswer frames thread request ⟨none, .error (.cycle trace), registry⟩
      | .mismatched actual entered => traceAnswer frames thread request
          ⟨none, .error (.invalidType request.name request.handover actual), entered.leave thread⟩
      | .ready bean entered =>
        traceAnswer frames thread request ⟨none, .ok bean, entered.leave thread⟩
      | .blocked => .stuck
      | .due strategy constructor entered =>
        (build (frames ++ [request.name]) thread (.bean request.name) constructor
          (strategy.prepare (.bean request.name) entered)).bind fun built =>
            let completed := strategy.complete (.bean request.name) built.1 built.2
            traceAnswer frames thread request
              ⟨some built.1, completed.1, completed.2.leave thread⟩ := by
  unfold traceRetrieve prospect
  cases found : registry.find? request.name with
  | none => rfl
  | some strategy =>
      cases registry.chains.enter thread request.name with
      | error trace => rfl
      | ok chains =>
          by_cases same : strategy.handover = request.handover
          · simp only [same, if_true, traceProduce_eq]
            generalize Registry.report _ _ = entered
            cases strategy.due? (.bean request.name) entered with
            | some constructor =>
                dsimp only
                rcases build (frames ++ [request.name]) thread (.bean request.name) constructor
                  (strategy.prepare (.bean request.name) entered) with ⟨events, _ | built⟩ <;> rfl
            | none => cases strategy.ready? (.bean request.name) entered <;> rfl
          · simp only [same, if_false]

/-- Runs constructors as the builder does, and tells nothing of it. -/
def Builder.silently (build : Builder) : TracedBuilder :=
  fun _ thread site constructor registry => ⟨[], build thread site constructor registry⟩

theorem Builder.silently_erases (build : Builder) : (silently build).Erases build :=
  fun _ _ _ _ _ => rfl

theorem produce_eq (build : Builder) (thread : Thread) (site : Site) (strategy : Strategy)
    (registry : Registry) :
    produce build thread site strategy registry =
      match strategy.due? site registry with
      | some constructor =>
        (build thread site constructor (strategy.prepare site registry)).map fun built =>
          strategy.complete site built.1 built.2
      | none => (strategy.ready? site registry).map fun bean => (.ok bean, registry) := by
  rw [← traceProduce_result [] (Builder.silently_erases build), traceProduce_eq]
  cases strategy.due? site registry with
  | some constructor => exact Option.map_map _ _ _
  | none => cases strategy.ready? site registry <;> rfl

theorem retrieve_eq (build : Builder) (thread : Thread) (request : Request) (registry : Registry) :
    retrieve build thread request registry =
      match registry.prospect thread request with
      | .unregistered => some (.error (.invalidName request.name .unregistered), registry)
      | .refused trace => some (.error (.cycle trace), registry)
      | .mismatched actual entered =>
        some (.error (.invalidType request.name request.handover actual), entered.leave thread)
      | .ready bean entered => some (.ok bean, entered.leave thread)
      | .blocked => none
      | .due strategy constructor entered =>
        (build thread (.bean request.name) constructor
          (strategy.prepare (.bean request.name) entered)).map fun built =>
            ((strategy.complete (.bean request.name) built.1 built.2).1,
              (strategy.complete (.bean request.name) built.1 built.2).2.leave thread) := by
  rw [← traceRetrieve_erases (Builder.silently_erases build) [] thread request registry,
    traceRetrieve_eq]
  cases registry.prospect thread request with
  | due strategy constructor entered =>
      dsimp only
      rw [Traced.bind_result, Builder.silently]
      cases build thread (.bean request.name) constructor
        (strategy.prepare (.bean request.name) entered) <;> rfl
  | _ => rfl

end Registry

namespace Persists

variable {relation : Registry → Registry → Prop}

theorem and {other : Registry → Registry → Prop} (left : Persists relation)
    (right : Persists other) :
    Persists fun before after => relation before after ∧ other before after where
  refl registry := ⟨left.refl registry, right.refl registry⟩
  trans first second := ⟨left.trans first.1 second.1, right.trans first.2 second.2⟩
  countRun site listed registry :=
    ⟨left.countRun site listed registry, right.countRun site listed registry⟩
  allocate registry := ⟨left.allocate registry, right.allocate registry⟩
  keep site bean registry := ⟨left.keep site bean registry, right.keep site bean registry⟩
  update object change registry :=
    ⟨left.update object change registry, right.update object change registry⟩
  report message fields registry :=
    ⟨left.report message fields registry, right.report message fields registry⟩
  locking inside := ⟨left.locking inside.1, right.locking inside.2⟩
  resolving entered inside := ⟨left.resolving entered inside.1, right.resolving entered inside.2⟩

/-- What holds while the constructor at a site runs holds when its outcome has been dealt with. -/
theorem complete (persists : Persists relation) {strategy : Strategy} {site : Site}
    {registry filled : Registry} (outcome : Except BeanError Bean)
    (inside : relation (strategy.prepare site registry) filled) :
    relation registry (strategy.complete site outcome filled).2 := by
  unfold Strategy.prepare at inside
  unfold Strategy.complete
  cases outcome with
  | error error =>
      cases once : strategy.makesOnce with
      | true =>
          rw [once] at inside
          exact persists.locking inside
      | false =>
          rw [once] at inside
          exact inside
  | ok bean =>
      have made := persists.trans inside (persists.newBean strategy.makesObjects bean filled)
      cases once : strategy.makesOnce with
      | true =>
          rw [once] at made
          exact persists.locking (persists.trans made (persists.keep site _ _))
      | false =>
          rw [once] at made
          exact made

/-- What holds while a name is entered holds when it has been left. -/
theorem leave (persists : Persists relation) {thread : Thread} {request : Request}
    {registry entered after : Registry} {strategy : Strategy}
    (enters : Registry.Enters thread request registry strategy entered)
    (inside : relation entered after) : relation registry (after.leave thread) := by
  rcases enters.enter with ⟨chains, enter, rfl⟩
  exact persists.resolving enter inside

end Persists

namespace Registry

theorem persists_isProper :
    Persists fun before after => before.chains.IsProper → after.chains.IsProper where
  refl _ := id
  trans first second := second ∘ first
  countRun _ _ _ := id
  allocate _ := id
  keep _ _ _ := by unfold keep; split <;> exact id
  update _ _ _ := id
  report _ _ _ := id
  locking inside := inside
  resolving entered inside proper := (inside (proper.enter entered)).leave _

theorem insert_chains (name : String) (strategy : Strategy) (registry : Registry) :
    (registry.insert name strategy).2.chains = registry.chains := by
  rcases insert_cases name strategy registry with ⟨fault, refused⟩ | ⟨_, _, accepted⟩
  · rw [refused]
  · rw [accepted]
    rfl

theorem apply_chains (registration : Registration) (registry : Registry) :
    (registration.apply registry).2.chains = registry.chains := by
  cases registration with
  | strategy name made => exact insert_chains name made registry
  | supply name type bean => exact insert_chains name (.supplied type bean) registry
  | ensure name type =>
      simp only [Registration.apply, ensure]
      split
      · exact insert_chains name (.singleton type (.default type)) _
      · rfl

/-- What is in flight is as it was before, in a proper table, and beans were only added. -/
structure Evolves (before after : Registry) : Prop where
  restores : before.Restores after
  grown : before.beans <+: after.beans
  isProper : before.chains.IsProper → after.chains.IsProper

theorem evolves_iff {before after : Registry} : before.Evolves after ↔
    (before.Restores after ∧ before.beans <+: after.beans) ∧
      (before.chains.IsProper → after.chains.IsProper) :=
  ⟨fun evolves => ⟨⟨evolves.restores, evolves.grown⟩, evolves.isProper⟩,
    fun parts => ⟨parts.1.1, parts.1.2, parts.2⟩⟩

theorem persists_evolves : Persists Evolves := by
  have grown : Persists fun before after => before.beans <+: after.beans :=
    persists_beans (· <+: ·) (fun _ => List.prefix_rfl) List.IsPrefix.trans
  have together := (persists_restores.and grown).and persists_isProper
  simp only [← evolves_iff] at together
  exact together

section Answering

variable {thread : Thread} {request : Request} {registry entered filled : Registry}
  {strategy : Strategy}

theorem Enters.evolves (enters : Enters thread request registry strategy entered) :
    registry.Evolves (entered.leave thread) :=
  persists_evolves.leave enters (persists_evolves.refl entered)

/-- What a run of a constructor keeps is kept when its outcome has been dealt with. -/
theorem Enters.evolves_complete (enters : Enters thread request registry strategy entered)
    {listed : Bool} (outcome : Except BeanError Bean)
    (evolves : Evolves ((strategy.prepare (.bean request.name) entered).countRun
      (.bean request.name) listed).2 filled) :
    registry.Evolves ((strategy.complete (.bean request.name) outcome filled).2.leave thread) := by
  have counting := persists_evolves.countRun (.bean request.name) listed
    (strategy.prepare (.bean request.name) entered)
  exact persists_evolves.leave enters
    (persists_evolves.complete outcome (persists_evolves.trans counting evolves))

end Answering

theorem apply_evolves (registration : Registration) (registry : Registry) :
    registry.Evolves (registration.apply registry).2 where
  restores := registration.apply_restores registry
  grown := registration.apply_beans_grow registry
  isProper := by
    rw [apply_chains]
    exact id

end Registry

end BeanContainer
