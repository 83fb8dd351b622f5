import BeanContainer.Proofs.Context.Carrying
import BeanContainer.Proofs.Registry.Allocation
import BeanContainer.Proofs.Registry.MadeOnce

/-!
# What requests share

Strategies that put beans into objects hand out each object only for the name that it was made for. If
the bean is made once, all requests for it get the same object. A factory of either kind runs its
constructor for each request that it serves. A smart one puts what that makes into a new object, so all
requests get different ones. A plain one hands it out as it is, and a constructor may pass on a bean
that it got itself. A supplied bean is handed out as it is, too.
-/

namespace BeanContainer

/-- The object that the answer hands out. -/
def Answer.object? (answer : Answer) : Option ObjectId :=
  match answer.outcome with
  | .ok bean => bean.object
  | .error _ => none

/-- The objects handed out to requests for the name, in the order of the answers. -/
def objectsFor (name : String) (moments : List Moment) : List ObjectId :=
  (answersFor name moments).filterMap (·.object?)

theorem Answer.exists_bean {answer : Answer} {object : ObjectId}
    (handedOut : answer.object? = some object) :
    ∃ bean, answer.outcome = .ok bean ∧ bean.object = some object := by
  unfold Answer.object? at handedOut
  split at handedOut
  · next bean served => exact ⟨bean, served, handedOut⟩
  · cases handedOut

theorem objectsFor_append (name : String) (moments others : List Moment) :
    objectsFor name (moments ++ others) = objectsFor name moments ++ objectsFor name others := by
  simp [objectsFor, answersFor, List.filterMap_append]

/-- The answers that the strategy can give to requests for its bean. -/
inductive Strategy.Gives (name : String) (strategy : Strategy) : Answer → Prop
  /-- A name stays in flight only while a constructor runs. -/
  | refused {trace : List String} (constructs : strategy.kind ≠ .supplied) :
      Gives name strategy ⟨true, none, .error (.cycle trace)⟩
  | ready {registry : Registry} {bean : Bean}
      (ready : strategy.ready? (.bean name) registry = some bean) :
      Gives name strategy ⟨false, none, .ok bean⟩
  | ran {outcome : Except BeanError Bean} {filled : Registry}
      (constructs : strategy.kind ≠ .supplied) :
      Gives name strategy
        ⟨false, some outcome, (strategy.complete (.bean name) outcome filled).1⟩

namespace Strategy.Gives

variable {name : String} {strategy : Strategy} {answer : Answer} {bean : Bean}

/-- A plain factory hands out what its constructor makes. -/
theorem run_of_factory (gives : strategy.Gives name answer) (factory : strategy.kind = .factory)
    (served : answer.outcome = .ok bean) : answer.run = some (.ok bean) := by
  cases strategy with
  | singleton type constructor | supplied type bean | smartSingleton type constructor
    | smartFactory type constructor => cases factory
  | factory type constructor =>
      cases gives with
      | refused constructs => cases served
      | ready ready => cases ready
      | ran constructs =>
          rename_i outcome filled
          cases outcome with
          | error error => cases served
          | ok made =>
              cases served
              rfl

/-- A smart factory hands out a new object that holds what its constructor makes. -/
theorem run_of_smartFactory (gives : strategy.Gives name answer)
    (smart : strategy.kind = .smartFactory) (served : answer.outcome = .ok bean) :
    ∃ made object, answer.run = some (.ok made) ∧ bean = made.inside object := by
  cases strategy with
  | singleton type constructor | factory type constructor | supplied type bean
    | smartSingleton type constructor => cases smart
  | smartFactory type constructor =>
      cases gives with
      | refused constructs => cases served
      | ready ready => cases ready
      | ran constructs =>
          rename_i outcome filled
          cases outcome with
          | error error => cases served
          | ok made =>
              cases served
              exact ⟨made, filled.objects, rfl, rfl⟩

/-- A smart factory hands out no object without a run of its constructor. -/
theorem object?_of_smartFactory {inFlight : Bool} {outcome : Except BeanError Bean}
    (gives : strategy.Gives name ⟨inFlight, none, outcome⟩)
    (smart : strategy.kind = .smartFactory) : Answer.object? ⟨inFlight, none, outcome⟩ = none := by
  cases outcome with
  | error error => rfl
  | ok bean =>
      rcases gives.run_of_smartFactory smart rfl with ⟨made, object, ran, _⟩
      cases ran

theorem eq_of_supplied {type : BeanType} (gives : (Strategy.supplied type bean).Gives name answer) :
    answer = ⟨false, none, .ok bean⟩ := by
  cases gives with
  | refused constructs => exact absurd rfl constructs
  | ready ready =>
      cases ready
      rfl
  | ran constructs => exact absurd rfl constructs

end Strategy.Gives

/-- Whatever is handed out in the life of a bean is the one object that was made. -/
theorem Life.made_of_served {made : Option ObjectId} {answers : List Answer} {answer : Answer}
    {bean : Bean} (life : Life made answers) (answer_mem : answer ∈ answers)
    (served : answer.outcome = .ok bean) :
    ∃ object, bean.object = some object ∧ made = some object := by
  induction life with
  | unmade => cases answer_mem
  | refused before ih | failed before ih =>
      rcases List.mem_append.mp answer_mem with earlier | last
      · exact ih earlier
      · cases List.mem_singleton.mp last
        cases served
  | @made answers first object before ih =>
      rcases List.mem_append.mp answer_mem with earlier | last
      · rcases ih earlier with ⟨_, _, unmade⟩
        cases unmade
      · cases List.mem_singleton.mp last
        cases served
        exact ⟨object, rfl, rfl⟩
  | @handedOut answers kept object before same ih =>
      rcases List.mem_append.mp answer_mem with earlier | last
      · exact ih earlier
      · cases List.mem_singleton.mp last
        cases served
        exact ⟨object, same, rfl⟩

namespace Registry

variable {name other : String}

/-- The moments show all runs of the constructor, and answers as the strategy gives them. -/
structure Serves (name : String) (offered : Strategy) (before : Registry) (moments : List Moment)
    (after : Registry) : Prop where
  runs : after.runs (.bean name) =
    before.runs (.bean name) + (answersFor name moments).countP (·.ran)
  gives : ∀ answer ∈ answersFor name moments, offered.Gives name answer
  /-- Each object from a smart factory was allotted for the one answer that handed it out. -/
  allotted : offered.kind = .smartFactory →
    ((objectsFor name moments).map (name, ·)).Sublist (allotments moments)

/-- What moments tell of a name behind which one strategy at most is registered. -/
def Served (name : String) (offered : Strategy) (_ : Thread) (_ : List String) (before : Registry)
    (moments : List Moment) (after : Registry) : Prop :=
  after.Offers name offered →
    (∀ thread, name ∈ before.chains.current thread → offered.kind ≠ .supplied) →
      Serves name offered before moments after

section Telling

variable {offered : Strategy} {thread : Thread} {frames : List String}
  {before after first : Registry} {moments others : List Moment}

theorem served_of_unaffected (noAnswer : answersFor name moments = [])
    (same : after.runs (.bean name) = before.runs (.bean name)) :
    Served name offered thread frames before moments after :=
  fun _ _ => ⟨by simp [noAnswer, same], by simp [noAnswer], by simp [objectsFor, noAnswer]⟩

theorem Serves.append (left : Serves name offered before moments first)
    (right : Serves name offered first others after) :
    Serves name offered before (moments ++ others) after where
  runs := by
    rw [answersFor, List.filterMap_append, List.countP_append, right.runs, left.runs, Nat.add_assoc]
    rfl
  gives := by
    rw [answersFor, List.filterMap_append, List.forall_mem_append]
    exact ⟨left.gives, right.gives⟩
  allotted smart := by
    rw [objectsFor_append, List.map_append, allotments_append]
    exact (left.allotted smart).append (right.allotted smart)

theorem served_append (evolves : before.Evolves first) (evolvesOn : first.Evolves after)
    (left : Served name offered thread frames before moments first)
    (right : Served name offered thread frames first others after) :
    Served name offered thread frames before (moments ++ others) after := by
  intro offers inFlight
  refine (left (offers.of_grown evolvesOn.grown) inFlight).append (right offers fun there => ?_)
  rw [evolves.restores.chains]
  exact inFlight there

end Telling

section Answering

variable {thread : Thread} {frames : List String} {request : Request}
  {registry entered after filled : Registry} {strategy offered : Strategy}
  {constructor : Constructor} {outcome : Except BeanError Bean} {moments : List Moment}

/-- A request that runs no constructor is answered in a way of its strategy. -/
theorem served_of_one {answer : Except BeanError Bean} (evolves : registry.Evolves after)
    (found : registry.find? request.name = some strategy)
    (same : after.runs (.bean name) = registry.runs (.bean name))
    (gives : request.name = name → strategy = offered → strategy.handover = request.handover →
      (∀ thread, name ∈ registry.chains.current thread → offered.kind ≠ .supplied) →
        offered.Gives name ⟨(registry.chains.current thread).contains name, none, answer⟩) :
    Served name offered thread frames registry
      [⟨thread, frames, after, .answers request none answer⟩] after := by
  by_cases own : request.name = name
  · subst own
    by_cases fits : strategy.handover = request.handover
    · intro offers inFlight
      have isOffered := offers strategy (find?_of_grown evolves.grown found)
      have answers : answersFor request.name
          [⟨thread, frames, after, .answers request none answer⟩] =
            [⟨(registry.chains.current thread).contains request.name, none, answer⟩] :=
        answersFor_own evolves found fits
      have given := gives rfl isOffered fits inFlight
      refine ⟨by simp [same, answers, Answer.ran], ?_, fun smart => ?_⟩
      · rw [answers, List.forall_mem_singleton]
        exact given
      · rw [objectsFor, answers, List.filterMap_cons, given.object?_of_smartFactory smart]
        exact List.nil_sublist _
    · refine served_of_unaffected (answersFor_of_mismatch ?_) same
      simpa [handover?, find?_of_grown evolves.grown found] using fits
  · exact served_of_unaffected (answersFor_of_ne own) same

theorem complete_tallies (strategy : Strategy) (site : Site)
    (outcome : Except BeanError Bean) (filled : Registry) :
    (strategy.complete site outcome filled).2.tallies = filled.tallies := by
  have newBean_tallies : ∀ isObject bean,
      (filled.newBean isObject bean).2.tallies = filled.tallies := by
    intro isObject bean
    cases isObject <;> rfl
  have keep_tallies : ∀ bean (registry : Registry),
      (registry.keep site bean).2.tallies = registry.tallies := by
    intro bean registry
    unfold keep
    split <;> rfl
  cases outcome with
  | error error =>
      simp only [Strategy.complete]
      split <;> rfl
  | ok made =>
      simp only [Strategy.complete]
      split
      · exact (keep_tallies _ _).trans (newBean_tallies _ made)
      · exact newBean_tallies _ made

theorem kind_ne_supplied_of_due {site : Site}
    (due : strategy.due? site registry = some constructor) : strategy.kind ≠ .supplied := by
  cases strategy with
  | supplied type bean => cases due
  | singleton type own | factory type own | smartSingleton type own | smartFactory type own =>
      intro same
      cases same

theorem Enters.current_of_counted (enters : Enters thread request registry strategy entered)
    (different : request.name ≠ name) {site : Site} {listed : Bool} {there : Thread}
    (inFlight : name ∈
      ((strategy.prepare site entered).countRun site listed).2.chains.current there) :
    name ∈ registry.chains.current there := by
  change name ∈ (strategy.prepare site entered).chains.current there at inFlight
  rw [prepare_chains, enters.current] at inFlight
  split at inFlight
  · next onThread =>
      simpa only [onThread, List.mem_append, List.mem_singleton, different.symm, or_false]
        using inFlight
  · exact inFlight

theorem objectsFor_built {counted : Registry} {completed : Except BeanError Bean × Registry} :
    objectsFor name (builtMoments thread frames request counted filled moments outcome completed) =
      objectsFor name moments ++ objectsFor name [⟨thread, frames, completed.2.leave thread,
        .answers request (some outcome) completed.1⟩] := by
  rw [objectsFor, answersFor_built, List.filterMap_append]
  rfl

theorem allotments_built {counted : Registry} {completed : Except BeanError Bean × Registry} :
    allotments (builtMoments thread frames request counted filled moments outcome completed) =
      allotments moments ++ allotments [⟨thread, frames, completed.2.leave thread,
        .answers request (some outcome) completed.1⟩] := by
  simp [builtMoments, allotments, Moment.allotment?, List.filterMap_append]

/-- The object that a run of a smart factory ends with is allotted to its name. -/
theorem objectsFor_complete (found : after.find? request.name = some strategy)
    (smart : strategy.kind = .smartFactory)
    (answers : answersFor request.name [⟨thread, frames, after, .answers request (some outcome)
      (strategy.complete (.bean request.name) outcome filled).1⟩] =
        [⟨false, some outcome, (strategy.complete (.bean request.name) outcome filled).1⟩]) :
    (objectsFor request.name [⟨thread, frames, after, .answers request (some outcome)
      (strategy.complete (.bean request.name) outcome filled).1⟩]).map (request.name, ·) =
    allotments [⟨thread, frames, after, .answers request (some outcome)
      (strategy.complete (.bean request.name) outcome filled).1⟩] := by
  rw [objectsFor, answers]
  cases strategy with
  | singleton type own | factory type own | supplied type bean | smartSingleton type own =>
      cases smart
  | smartFactory type own =>
      cases outcome with
      | error error => rfl
      | ok made =>
          change _ = allotments [⟨thread, frames, after, .answers request (some (.ok made))
            (.ok (made.inside filled.objects))⟩]
          rw [allotments_of_made thread frames found]
          rfl

theorem served_built (enters : Enters thread request registry strategy entered)
    (same : strategy.handover = request.handover)
    (due : strategy.due? (.bean request.name) entered = some constructor)
    (evolves : Evolves ((strategy.prepare (.bean request.name) entered).countRun
      (.bean request.name) constructor.listed).2 filled)
    (inside : Served name offered thread (frames ++ [request.name])
      ((strategy.prepare (.bean request.name) entered).countRun (.bean request.name)
        constructor.listed).2 moments filled) :
    let counted := ((strategy.prepare (.bean request.name) entered).countRun
      (.bean request.name) constructor.listed).2
    let completed := strategy.complete (.bean request.name) outcome filled
    Served name offered thread frames registry
      (builtMoments thread frames request counted filled moments outcome completed)
      (completed.2.leave thread) := by
  intro counted completed offers inFlight
  have evolvesAll := enters.evolves_complete outcome evolves
  have grown : filled.beans <+: (completed.2.leave thread).beans :=
    (complete_beans (.bean request.name) outcome filled).symm ▸ List.prefix_rfl
  have runsAfter : (completed.2.leave thread).runs (.bean name) = filled.runs (.bean name) := by
    change completed.2.runs (.bean name) = _
    rw [runs, complete_tallies]
    rfl
  have runsBefore : counted.runs (.bean name) =
      registry.runs (.bean name) + if request.name = name then 1 else 0 := by
    have prepared : (strategy.prepare (.bean request.name) entered).record name =
        registry.record name := (record_prepare strategy _ entered).trans enters.record
    rw [runs_countRun]
    simpa [record] using congrArg Prod.snd prepared
  by_cases own : request.name = name
  · subst own
    have isOffered := offers strategy (find?_of_grown evolvesAll.grown enters.found)
    subst isOffered
    have constructs := kind_ne_supplied_of_due due
    have serves := inside (offers.of_grown grown) fun _ _ => constructs
    have last : answersFor request.name [⟨thread, frames, completed.2.leave thread,
        .answers request (some outcome) completed.1⟩] = [⟨false, some outcome, completed.1⟩] := by
      rw [answersFor_own evolvesAll enters.found same, enters.contains_current]
    have answers : answersFor request.name
        (builtMoments thread frames request counted filled moments outcome completed) =
          answersFor request.name moments ++ [⟨false, some outcome, completed.1⟩] := by
      rw [answersFor_built, last]
    refine ⟨?_, ?_, fun smart => ?_⟩
    · rw [runsAfter, serves.runs, runsBefore, answers, List.countP_append, if_pos rfl,
        Nat.add_assoc, Nat.add_comm 1]
      rfl
    · rw [answers, List.forall_mem_append, List.forall_mem_singleton]
      exact ⟨serves.gives, .ran constructs⟩
    · rw [objectsFor_built, List.map_append, allotments_built]
      refine (serves.allotted smart).append ?_
      rw [objectsFor_complete (find?_of_grown evolvesAll.grown enters.found) smart last]
  · have serves := inside (offers.of_grown grown) fun there inFlightInside =>
      inFlight there (enters.current_of_counted own inFlightInside)
    have answers : answersFor name
        (builtMoments thread frames request counted filled moments outcome completed) =
          answersFor name moments := by
      rw [answersFor_built, answersFor_of_ne own, List.append_nil]
    refine ⟨?_, ?_, fun smart => ?_⟩
    · rw [runsAfter, serves.runs, runsBefore, answers, if_neg own, Nat.add_zero]
    · rw [answers]
      exact serves.gives
    · rw [objectsFor, answers, allotments_built]
      exact (serves.allotted smart).trans (List.sublist_append_left _ _)

end Answering

theorem recounts_served (name : String) (offered : Strategy) : Recounts (Served name offered) where
  works _ _ _ := served_of_unaffected rfl rfl
  append := served_append
  update _ _ _ _ _ := served_of_unaffected rfl rfl
  allocate _ _ _ := served_of_unaffected rfl rfl
  report _ _ _ _ _ := served_of_unaffected rfl rfl
  elsewhere inside := inside
  unregistered missing :=
    served_of_unaffected (answersFor_of_mismatch (by simp [handover?, missing])) rfl
  refused := by
    intro thread frames request registry strategy trace found refused
    have name_mem := (Chains.enter_eq_error_iff.mp refused).1
    refine served_of_one (persists_evolves.refl registry) found rfl ?_
    rintro rfl _ _ inFlight
    have isInFlight : (registry.chains.current thread).contains request.name = true := by
      simpa using name_mem
    rw [isInFlight]
    exact .refused (inFlight thread name_mem)
  mismatched enters different :=
    served_of_one enters.evolves enters.found (congrArg Prod.snd enters.record)
      fun _ _ same => absurd same different
  ready := by
    intro thread frames request registry strategy entered bean enters same ready
    refine served_of_one enters.evolves enters.found (congrArg Prod.snd enters.record) ?_
    rintro rfl rfl _ _
    rw [enters.contains_current]
    exact .ready ready
  built enters same due evolves inside := served_built enters same due evolves inside

section Course

variable {α : Type} {procedure : Procedure Registration α} {thread : Thread}
  {initial after : Registry} {result : α} {strategy : Strategy} {object : ObjectId}

/-- Whatever a procedure does, each name is served by the strategy behind it. -/
theorem AtRest.serves (rest : initial.AtRest) (found : after.find? name = some strategy)
    (ran : procedure.performOn thread initial = some (result, after)) :
    Serves name strategy initial (procedure.course thread initial) after := by
  have served := (recounts_served name strategy).course
    (fun _ _ registration registry =>
      served_of_unaffected rfl (congrArg Prod.snd (record_apply registration registry))) ran
  refine served (offers_of_find? found) fun there inFlight => ?_
  rw [rest.chains] at inFlight
  cases inFlight

/-- The life of each bean so far can be told by answers. -/
theorem Allotted.exists_life (allotted : initial.Allotted) (name : String) :
    ∃ made answers, initial.Holds name made ∧ Life made answers := by
  cases kept : (initial.record name).1 with
  | none => exact ⟨none, [], kept, .unmade⟩
  | some found =>
      rcases allotted.allocated name found kept with ⟨object, rfl, _⟩
      exact ⟨some object, [⟨false, some (.ok (.plain .unit)), .ok ⟨.unit, [object]⟩⟩], kept,
        .made .unmade⟩

/-- Whatever is handed out for a bean that is made once is the object kept for its name. -/
theorem AtRest.kept_of_served (rest : initial.AtRest) (allotted : initial.Allotted)
    (found : after.find? name = some strategy) (once : strategy.makesOnce = true)
    (ran : procedure.performOn thread initial = some (result, after)) {answer : Answer}
    (answer_mem : answer ∈ answersFor name (procedure.course thread initial)) {bean : Bean}
    (served : answer.outcome = .ok bean) :
    ∃ object, bean.object = some object ∧ (after.record name).1 = some (some object) := by
  rcases allotted.exists_life name with ⟨_, _, holds, before⟩
  rcases (rest.lives found once ran).life holds before with ⟨made, holdsAfter, life⟩
  rcases life.made_of_served (List.mem_append_right _ answer_mem) served with
    ⟨object, isObject, isMade⟩
  refine ⟨object, isObject, ?_⟩
  rw [holdsAfter, isMade, Option.map_some]

/-- What is handed out is an object wherever strategies put beans into objects. -/
theorem AtRest.object_of_served (rest : initial.AtRest) (allotted : initial.Allotted)
    (found : after.find? name = some strategy) (makes : strategy.makesObjects = true)
    (ran : procedure.performOn thread initial = some (result, after)) {answer : Answer}
    (answer_mem : answer ∈ answersFor name (procedure.course thread initial)) {bean : Bean}
    (served : answer.outcome = .ok bean) : ∃ object, bean.object = some object := by
  rcases Strategy.makesOnce_or_of_makesObjects makes with once | smart
  · rcases rest.kept_of_served allotted found once ran answer_mem served with ⟨object, isObject, _⟩
    exact ⟨object, isObject⟩
  · have gives := (rest.serves found ran).gives answer answer_mem
    rcases gives.run_of_smartFactory smart served with ⟨made, object, _, rfl⟩
    exact ⟨object, rfl⟩

/-- Where strategies put beans into objects, each is handed out only for the name it was made for. -/
theorem AtRest.madeFor_of_objectsFor (rest : initial.AtRest) (allotted : initial.Allotted)
    (found : after.find? name = some strategy) (makes : strategy.makesObjects = true)
    (ran : procedure.performOn thread initial = some (result, after))
    (object_mem : object ∈ objectsFor name (procedure.course thread initial)) :
    initial.MadeFor (procedure.course thread initial) name object := by
  rcases Strategy.makesOnce_or_of_makesObjects makes with once | smart
  · rcases List.mem_filterMap.mp object_mem with ⟨answer, answer_mem, handedOut⟩
    rcases answer.exists_bean handedOut with ⟨bean, served, isObject⟩
    rcases rest.kept_of_served allotted found once ran answer_mem served with ⟨_, same, kept⟩
    cases isObject.symm.trans same
    rcases (Procedure.course_allots ran).madeFor_of_kept allotted kept with ⟨_, same, madeFor⟩
    cases same
    exact madeFor
  · exact Or.inr (((rest.serves found ran).allotted smart).subset (List.mem_map_of_mem object_mem))

end Course

/-- Whatever procedures do, what is kept stays allotted. -/
theorem carries_allotted : Carries fun before _ after => before.Allotted → after.Allotted where
  refl _ := id
  append left right := right ∘ left
  report event registry allotted := ⟨allotted.allocated, allotted.distinct⟩
  read {α procedure result registry after} ran allotted := by
    have allocates : Allocates 0 _ registry _ after := recounts_allocates.read ran
    exact allotted.of_allots allocates.allots
  perform ran allotted := allotted.of_allots (Procedure.course_allots ran)

end Registry

/-- Every registry is such that a run of a context reaches from one with no beans. -/
theorem Journal.run_allotted {σ : Type} (all : List (Configuration σ)) (autoRegister : Bool)
    (operations : List (Operation σ)) :
    ((Journal.start { autoRegister }).run all operations).context.registry.Allotted :=
  Registry.carries_allotted.run_start all { autoRegister } operations
    (Registry.allotted_of_unkept fun _ => rfl)

/--
Let a procedure that may add beans run on a registry where nothing is in flight and what is kept was
allotted, as it is in every registry that a run of a context reaches. Whenever the procedure ends,
the registry is of that kind again, and the answers to all requests made meanwhile, from outside or
from within constructors, share objects only where they may:

* A factory of either kind serves each request by a run of its own, and there are no other runs. What
  a plain one hands out is what the run has made, be it new or not.
* A smart factory puts what the run has made into an object, and never hands out an object twice.
* Singletons and smart factories hand out objects always, and two names have none of them in common.
* A supplied bean is handed out as it is to all requests, and no constructor is run for it.
-/
theorem Procedure.course_shares_as_declared {α : Type} {procedure : Procedure Registration α}
    {thread : Thread} {initial after : Registry} {result : α} (rest : initial.AtRest)
    (allotted : initial.Allotted)
    (ran : procedure.performOn thread initial = some (result, after)) :
    let moments := procedure.course thread initial
    (after.AtRest ∧ after.Allotted) ∧
    ∀ name strategy, after.find? name = some strategy →
      (strategy.kind = .factory ∨ strategy.kind = .smartFactory →
        after.runs (.bean name) =
          initial.runs (.bean name) + (answersFor name moments).countP (·.ran)) ∧
      (strategy.kind = .factory →
        ∀ answer ∈ answersFor name moments, ∀ bean, answer.outcome = .ok bean →
          answer.run = some (.ok bean)) ∧
      (strategy.kind = .smartFactory →
        (∀ answer ∈ answersFor name moments, ∀ bean, answer.outcome = .ok bean →
          ∃ made object, answer.run = some (.ok made) ∧ bean = made.inside object) ∧
        (objectsFor name moments).Nodup) ∧
      (strategy.makesObjects = true →
        (∀ answer ∈ answersFor name moments, ∀ bean, answer.outcome = .ok bean →
          ∃ object, bean.object = some object) ∧
        ∀ other otherStrategy, after.find? other = some otherStrategy → name ≠ other →
          otherStrategy.makesObjects = true →
            (objectsFor name moments).Disjoint (objectsFor other moments)) ∧
      (∀ type bean, strategy = .supplied type bean →
        (∀ answer ∈ answersFor name moments, answer = ⟨false, none, .ok bean⟩) ∧
        after.runs (.bean name) = initial.runs (.bean name)) := by
  intro moments
  have allots := Procedure.course_allots ran
  refine ⟨⟨(Procedure.performOn_evolves ran).restores.atRest rest, allotted.of_allots allots⟩, ?_⟩
  intro name strategy found
  have serves := rest.serves found ran
  refine ⟨fun _ => serves.runs, ?_, ?_, ?_, ?_⟩
  · intro factory answer answer_mem bean served
    exact (serves.gives answer answer_mem).run_of_factory factory served
  · intro smart
    refine ⟨fun answer answer_mem bean served =>
      (serves.gives answer answer_mem).run_of_smartFactory smart served, ?_⟩
    have handedOut := (serves.allotted smart).map Prod.snd
    rw [List.map_map] at handedOut
    exact (allots.nodup.sublist handedOut).of_map _
  · intro makes
    refine ⟨fun answer answer_mem bean served =>
      rest.object_of_served allotted found makes ran answer_mem served, ?_⟩
    intro other otherStrategy foundOther different makesOther object object_mem other_mem
    have madeFor := rest.madeFor_of_objectsFor allotted found makes ran object_mem
    have madeForOther := rest.madeFor_of_objectsFor allotted foundOther makesOther ran other_mem
    exact different (madeFor.name_eq madeForOther allotted allots)
  · rintro type bean rfl
    have supplied : ∀ answer ∈ answersFor name moments, answer = ⟨false, none, .ok bean⟩ :=
      fun answer answer_mem => (serves.gives answer answer_mem).eq_of_supplied
    refine ⟨supplied, ?_⟩
    have noRun : (answersFor name moments).countP (·.ran) = 0 := by
      rw [List.countP_eq_zero]
      intro answer answer_mem
      simp [supplied answer answer_mem, Answer.ran]
    rw [serves.runs, noRun, Nat.add_zero]

/--
A smart factory, a smart singleton that takes one of its objects, a factory that lends out that
singleton, and a singleton.
-/
def workshop : Registry where
  beans := [("token", .smartFactory .i32 ⟨true, fun run => .done (.ok (.plain (.integer run)))⟩),
    ("desk", .smartSingleton .i32 ⟨true, fun _ =>
      .fetch 0 ⟨"token", ⟨.value, .shared .i32⟩⟩ fun _ => .done (.ok (.plain (.integer 0)))⟩),
    ("loan", .factory (.shared .i32) ⟨true, fun _ =>
      .fetch 0 ⟨"desk", ⟨.value, .shared .i32⟩⟩ .done⟩),
    ("pool", .singleton .i32 ⟨true, fun _ => .done (.ok (.plain (.integer 0)))⟩)]

/-- Requests the beans, some of them twice. -/
def requestingEach : Procedure Registration Unit :=
  let shared (name : String) : Request := ⟨name, ⟨.value, .shared .i32⟩⟩
  .fetch 0 (shared "desk") fun _ => .fetch 0 (shared "token") fun _ =>
    .fetch 0 (shared "desk") fun _ => .fetch 0 ⟨"pool", ⟨.reference, .i32⟩⟩ fun _ =>
      .fetch 0 (shared "loan") fun _ => .fetch 0 (shared "loan") fun _ =>
        .fetch 0 (shared "map") fun _ => .fetch 0 (shared "map") fun _ => .done ()

/-- Supplies one more object, and then requests the beans. -/
def requestingAll : Procedure Registration Unit :=
  .make (.integer 0) (.shared .i32) fun map =>
    .write (.supply "map" (.shared .i32) map) fun _ => requestingEach

theorem workshop_shares_as_declared :
    let moments := requestingAll.course 0 workshop
    workshop.AtRest ∧ workshop.Allotted ∧
    ∃ after, requestingAll.performOn 0 workshop = some ((), after) ∧
      after.AtRest ∧ after.Allotted ∧
      objectsFor "token" moments = [1, 3] ∧ (objectsFor "token" moments).Nodup ∧
      after.runs (.bean "token") = 2 ∧
      objectsFor "desk" moments = [2, 2, 2, 2] ∧
      (objectsFor "token" moments).Disjoint (objectsFor "desk" moments) ∧
      objectsFor "pool" moments = [4] ∧
      (objectsFor "pool" moments).Disjoint (objectsFor "desk" moments) ∧
      objectsFor "loan" moments = [2, 2] ∧
      (∀ answer ∈ answersFor "loan" moments, ∀ bean, answer.outcome = .ok bean →
        answer.run = some (.ok bean)) ∧
      after.runs (.bean "loan") = 2 ∧
      objectsFor "map" moments = [0, 0] ∧
      ∀ answer ∈ answersFor "map" moments, answer = ⟨false, none, .ok ⟨.integer 0, [0]⟩⟩ := by
  intro moments
  have rest : workshop.AtRest := ⟨fun _ => rfl, rfl⟩
  have allotted : workshop.Allotted := Registry.allotted_of_unkept fun _ => rfl
  have tokens : objectsFor "token" moments = [1, 3] := by decide +kernel
  have desks : objectsFor "desk" moments = [2, 2, 2, 2] := by decide +kernel
  have pools : objectsFor "pool" moments = [4] := by decide +kernel
  have loans : objectsFor "loan" moments = [2, 2] := by decide +kernel
  have maps : objectsFor "map" moments = [0, 0] := by decide +kernel
  have tokenRuns : (answersFor "token" moments).countP (·.ran) = 2 := by decide +kernel
  have loanRuns : (answersFor "loan" moments).countP (·.ran) = 2 := by decide +kernel
  have ends : (requestingAll.performOn 0 workshop).isSome = true := by decide +kernel
  rcases Option.isSome_iff_exists.mp ends with ⟨⟨⟨⟩, after⟩, ran⟩
  have grown := (Procedure.performOn_evolves ran).grown
  have token : after.find? "token" = some _ := Registry.find?_of_grown grown rfl
  have desk : after.find? "desk" = some _ := Registry.find?_of_grown grown rfl
  have loan : after.find? "loan" = some _ := Registry.find?_of_grown grown rfl
  have pool : after.find? "pool" = some _ := Registry.find?_of_grown grown rfl
  let withMap := (workshop.allocate.2.supply "map" (.shared .i32) ⟨.integer 0, [0]⟩).2
  have ranEach : requestingEach.performOn 0 withMap = some ((), after) := by
    rw [← ran, requestingAll]
    simp only [Procedure.performOn, BeanType.i32, Procedure.make, Procedure.run]
    rfl
  have supplied : after.find? "map" = some (.supplied (.shared .i32) ⟨.integer 0, [0]⟩) :=
    Registry.find?_of_grown (Procedure.performOn_evolves ranEach).grown rfl
  rcases Procedure.course_shares_as_declared rest allotted ran with
    ⟨⟨restAfter, allottedAfter⟩, shares⟩
  rcases shares "token" _ token with ⟨tokenServes, _, tokenNew, tokenApart, _⟩
  rcases shares "pool" _ pool with ⟨_, _, _, poolApart, _⟩
  rcases shares "loan" _ loan with ⟨loanServes, loanMade, _⟩
  rcases shares "map" _ supplied with ⟨_, _, _, _, mapSupplied⟩
  refine ⟨rest, allotted, after, ran, restAfter, allottedAfter, tokens, (tokenNew rfl).2, ?_,
    desks, (tokenApart rfl).2 "desk" _ desk (by decide) rfl,
    pools, (poolApart rfl).2 "desk" _ desk (by decide) rfl,
    loans, loanMade rfl, ?_, maps, (mapSupplied _ _ rfl).1⟩
  · rw [tokenServes (Or.inr rfl), tokenRuns]
    rfl
  · rw [loanServes (Or.inl rfl), loanRuns]
    rfl

end BeanContainer
