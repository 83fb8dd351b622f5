import BeanContainer.Proofs.Registry.Course
import BeanContainer.Proofs.Registry.Record
import BeanContainer.Scenario.Values

/-!
# Locks of beans under construction

A bean that is made once is locked while its constructor runs, and the lock must not be taken again
by the thread that holds it. The registry does not ask who holds a lock. It refuses a name that is
in flight instead, and this is enough: on a single thread each locked bean is in flight. So a bean
that is locked is never requested as far as its lock, and nothing is kept for it until its
constructor has returned.
-/

namespace BeanContainer

namespace Registry

/-- What is locked is in flight on the thread, is locked once, and has not been made yet. -/
structure LocksInFlight (thread : Thread) (registry : Registry) : Prop where
  held : ∀ site ∈ registry.locked,
    ∃ name, site = .bean name ∧ name ∈ registry.chains.current thread
  distinct : registry.locked.Nodup
  unmade : ∀ name, .bean name ∈ registry.locked → registry.kept? (.bean name) = none

end Registry

/--
At the moment the locks are those of beans in flight, so no request on the thread would wait for a
lock. The lock of a bean that begins to be made was free. Nothing is kept for it when its
constructor returns, and then the bean just made is kept and handed out.
-/
structure Moment.GuardsLocks (moment : Moment) : Prop where
  inFlight : moment.registry.LocksInFlight moment.thread
  free : ∀ request, moment.registry.prospect moment.thread request ≠ .blocked
  taken : ∀ name strategy, moment.happening = .begins name →
    moment.registry.find? name = some strategy → strategy.makesOnce = true →
      ∃ others, moment.registry.locked = .bean name :: others ∧ .bean name ∉ others
  empty : ∀ name made strategy, moment.happening = .ends name (.ok made) →
    moment.registry.find? name = some strategy → strategy.makesOnce = true →
      moment.registry.kept? (.bean name) = none
  stored : ∀ request made outcome strategy,
    moment.happening = .answers request (some (.ok made)) outcome →
      moment.registry.find? request.name = some strategy → strategy.makesOnce = true →
        ∃ object, outcome = .ok (made.inside object) ∧
          moment.registry.kept? (.bean request.name) = some (made.inside object) ∧
            moment.registry.objects = object + 1

/-- If all moments are on the thread, the locks are guarded at each of them and still afterwards. -/
def GuardsLocks (home : Thread) (_ : Thread) (_ : List String) (before : Registry)
    (moments : List Moment) (after : Registry) : Prop :=
  (∀ moment ∈ moments, moment.thread = home) → before.LocksInFlight home →
    (∀ moment ∈ moments, moment.GuardsLocks) ∧ after.LocksInFlight home

namespace Registry

variable {home thread : Thread} {frames : List String} {request : Request}
  {registry entered after : Registry} {strategy : Strategy}

/-- A request for a locked bean is refused, as its name is in flight. -/
theorem LocksInFlight.free (inFlight : registry.LocksInFlight thread) (request : Request) :
    registry.prospect thread request ≠ .blocked := by
  have foresees := foresees_prospect thread request registry
  intro blocked
  rw [blocked] at foresees
  cases foresees with
  | blocked enters notDue notReady =>
      have locked := mem_locked_of_not_due notDue notReady
      rw [enters.locked] at locked
      rcases inFlight.held _ locked with ⟨name, same, name_mem⟩
      cases same
      exact enters.notMem name_mem

theorem kept?_eq_none_of_record {name : String}
    (sameRecord : after.record name = registry.record name)
    (unkept : registry.kept? (.bean name) = none) : after.kept? (.bean name) = none := by
  have sameObject : (after.kept? (.bean name)).map (·.object) =
      (registry.kept? (.bean name)).map (·.object) := congrArg Prod.fst sameRecord
  rwa [unkept, Option.map_none, Option.map_eq_none_iff] at sameObject

theorem LocksInFlight.of_restores (inFlight : registry.LocksInFlight home)
    (restores : registry.Restores after)
    (unmade : ∀ name, .bean name ∈ registry.locked → after.kept? (.bean name) = none) :
    after.LocksInFlight home where
  held := by
    rw [restores.locked, restores.chains]
    exact inFlight.held
  distinct := by
    rw [restores.locked]
    exact inFlight.distinct
  unmade := by
    rw [restores.locked]
    exact unmade

/-- The lock that is taken for a constructor is that of the name just entered. -/
theorem LocksInFlight.prepare (inFlight : registry.LocksInFlight thread)
    (enters : Enters thread request registry strategy entered) {constructor : Constructor}
    (due : strategy.due? (.bean request.name) entered = some constructor) :
    (strategy.prepare (.bean request.name) entered).LocksInFlight thread := by
  have current := enters.current thread
  rw [if_pos rfl] at current
  have inFlightEntered : entered.LocksInFlight thread := by
    refine ⟨?_, by rw [enters.locked]; exact inFlight.distinct, ?_⟩
    · intro site locked
      rw [enters.locked] at locked
      rcases inFlight.held site locked with ⟨name, same, name_mem⟩
      rw [current]
      exact ⟨name, same, List.mem_append_left _ name_mem⟩
    · intro name locked
      rw [enters.locked] at locked
      exact kept?_eq_none_of_record enters.record (inFlight.unmade name locked)
  cases once : strategy.makesOnce with
  | false =>
      rw [Strategy.prepare, once]
      exact inFlightEntered
  | true =>
      rcases unmade_of_due once due with ⟨unkept, free⟩
      rw [Strategy.prepare, if_pos once]
      refine ⟨?_, List.nodup_cons.mpr ⟨free, inFlightEntered.distinct⟩, ?_⟩
      · intro site locked
        rcases List.mem_cons.mp locked with rfl | before
        · refine ⟨request.name, rfl, ?_⟩
          change request.name ∈ entered.chains.current thread
          simp [current]
        · exact inFlightEntered.held site before
      · intro name locked
        rcases List.mem_cons.mp locked with same | before
        · cases same
          exact unkept
        · exact inFlightEntered.unmade name before

theorem LocksInFlight.of_record (inFlight : registry.LocksInFlight home)
    (restores : registry.Restores after)
    (sameRecord : ∀ name, after.record name = registry.record name) :
    after.LocksInFlight home :=
  inFlight.of_restores restores fun name locked =>
    kept?_eq_none_of_record (sameRecord name) (inFlight.unmade name locked)

/-- What was locked before is not locked for this run, so the run leaves it alone. -/
theorem LocksInFlight.complete (inFlight : registry.LocksInFlight thread)
    (enters : Enters thread request registry strategy entered) {filled : Registry}
    (inFlightFilled : filled.LocksInFlight thread)
    (sameLocks : filled.locked = (strategy.prepare (.bean request.name) entered).locked)
    {outcome : Except BeanError Bean}
    (restores : registry.Restores
      ((strategy.complete (.bean request.name) outcome filled).2.leave thread)) :
    ((strategy.complete (.bean request.name) outcome filled).2.leave thread).LocksInFlight
      thread := by
  refine inFlight.of_restores restores fun name locked => ?_
  rcases inFlight.held _ locked with ⟨_, same, name_mem⟩
  cases same
  have different : request.name ≠ name := by
    rintro rfl
    exact enters.notMem name_mem
  refine kept?_eq_none_of_record (record_complete_of_ne different outcome filled) ?_
  apply inFlightFilled.unmade
  rw [sameLocks, mem_locked_prepare_of_ne different entered, enters.locked]
  exact locked

theorem guardsLocks_nothing (restores : registry.Restores after)
    (sameRecord : ∀ name, after.record name = registry.record name) :
    GuardsLocks home thread frames registry [] after := by
  intro _ inFlight
  exact ⟨by simp, inFlight.of_record restores sameRecord⟩

/-- A registration takes no lock and answers nothing. -/
theorem guardsLocks_writes (registration : Registration) (registry : Registry) :
    GuardsLocks home thread frames registry
      [⟨thread, frames, registry, .writes registration⟩] (registration.apply registry).2 := by
  intro threads inFlight
  rw [List.forall_mem_singleton] at threads ⊢
  cases threads
  have inFlightAfter := inFlight.of_record (registration.apply_restores registry)
    fun _ => record_apply registration registry
  exact ⟨⟨inFlight, inFlight.free, by simp, by simp, by simp⟩, inFlightAfter⟩

theorem guardsLocks_answers (restores : registry.Restores after)
    (sameRecord : ∀ name, after.record name = registry.record name)
    {outcome : Except BeanError Bean} :
    GuardsLocks home thread frames registry
      [⟨thread, frames, after, .answers request none outcome⟩] after := by
  intro threads inFlight
  rw [List.forall_mem_singleton] at threads ⊢
  cases threads
  have inFlightAfter := inFlight.of_record restores sameRecord
  exact ⟨⟨inFlightAfter, inFlightAfter.free, by simp, by simp, by simp⟩, inFlightAfter⟩

/-- The lock is held while the constructor runs, so that only its own outcome is stored. -/
theorem guardsLocks_built {constructor : Constructor} {moments : List Moment}
    {outcome : Except BeanError Bean} {filled : Registry}
    (enters : Enters thread request registry strategy entered)
    (due : strategy.due? (.bean request.name) entered = some constructor) :
    let counted := ((strategy.prepare (.bean request.name) entered).countRun
      (.bean request.name) constructor.listed).2
    let completed := strategy.complete (.bean request.name) outcome filled
    counted.Evolves filled →
      GuardsLocks home thread (frames ++ [request.name]) counted moments filled →
        GuardsLocks home thread frames registry
          (builtMoments thread frames request counted filled moments outcome completed)
          (completed.2.leave thread) := by
  intro counted completed evolves inside threads inFlight
  rw [builtMoments, List.forall_mem_append, List.forall_mem_cons, List.forall_mem_append,
    List.forall_mem_singleton, List.forall_mem_singleton] at threads ⊢
  rcases threads with ⟨⟨rfl, threads, _⟩, _⟩
  have found : counted.find? request.name = some strategy := by
    rw [find?, show counted.beans = registry.beans from enters.prepare_beans]
    exact enters.found
  have inFlightPrepared := inFlight.prepare enters due
  have inFlightInside : counted.LocksInFlight thread :=
    inFlightPrepared.of_restores ⟨rfl, fun _ => rfl, rfl⟩ inFlightPrepared.unmade
  have locked : strategy.makesOnce = true →
      counted.locked = .bean request.name :: entered.locked ∧
        .bean request.name ∉ entered.locked := by
    intro once
    refine ⟨?_, (unmade_of_due once due).2⟩
    change (strategy.prepare (.bean request.name) entered).locked = _
    rw [Strategy.prepare, if_pos once]
    rfl
  rcases inside threads inFlightInside with ⟨guards, inFlightFilled⟩
  have foundStill := find?_of_grown evolves.grown found
  have unmade : strategy.makesOnce = true → filled.kept? (.bean request.name) = none := by
    intro once
    apply inFlightFilled.unmade
    rw [evolves.restores.locked, (locked once).1]
    exact List.mem_cons_self
  have counting := persists_evolves.trans
    (persists_evolves.countRun (.bean request.name) constructor.listed _) evolves
  have evolvesAll := persists_evolves.leave enters (persists_evolves.complete outcome counting)
  have inFlightAfter : (completed.2.leave thread).LocksInFlight thread :=
    inFlight.complete enters inFlightFilled evolves.restores.locked evolvesAll.restores
  refine ⟨⟨⟨⟨inFlightInside, inFlightInside.free, ?_, by simp, by simp⟩, guards,
    ⟨inFlightFilled, inFlightFilled.free, by simp, ?_, by simp⟩⟩,
      ⟨inFlightAfter, inFlightAfter.free, by simp, by simp, ?_⟩⟩, inFlightAfter⟩
  · rintro name other ⟨⟩ foundOther once
    cases found.symm.trans foundOther
    exact ⟨entered.locked, locked once⟩
  · rintro name made other same foundOther once
    cases same
    cases foundStill.symm.trans foundOther
    exact unmade once
  · rintro other made handedOut otherStrategy same foundOther once
    cases same
    cases (find?_of_grown evolvesAll.grown enters.found).symm.trans foundOther
    rcases complete_stores once made (unmade once) with ⟨handsOut, kept, objects, _⟩
    exact ⟨filled.objects, handsOut, kept, objects⟩

theorem recounts_guardsLocks (home : Thread) : Recounts (GuardsLocks home) where
  works thread frames registry := by
    intro threads inFlight
    rw [List.forall_mem_singleton] at threads ⊢
    cases threads
    exact ⟨⟨inFlight, inFlight.free, by simp, by simp, by simp⟩, inFlight⟩
  append := by
    intro thread frames first second third moments others _ _ left right threads inFlight
    rw [List.forall_mem_append] at threads ⊢
    rcases left threads.1 inFlight with ⟨guards, inFlightBetween⟩
    rcases right threads.2 inFlightBetween with ⟨guardsOn, inFlightAfter⟩
    exact ⟨⟨guards, guardsOn⟩, inFlightAfter⟩
  update _ _ object change registry :=
    guardsLocks_nothing ⟨rfl, fun _ => rfl, rfl⟩ fun _ => record_update object change registry
  allocate _ _ _ := guardsLocks_nothing ⟨rfl, fun _ => rfl, rfl⟩ fun _ => rfl
  report _ _ _ _ _ := guardsLocks_nothing ⟨rfl, fun _ => rfl, rfl⟩ fun _ => rfl
  elsewhere inside := inside
  unregistered _ := guardsLocks_answers (Restores.refl _) fun _ => rfl
  refused _ _ := guardsLocks_answers (Restores.refl _) fun _ => rfl
  mismatched enters _ :=
    guardsLocks_answers (persists_restores.leave enters (Restores.refl _)) fun _ => enters.record
  ready enters _ _ :=
    guardsLocks_answers (persists_restores.leave enters (Restores.refl _)) fun _ => enters.record
  built enters _ due := guardsLocks_built enters due

end Registry

section SingleThread

open Registry

variable {thread : Thread}

/-- All moments of answering a request are on its thread if constructors are sequential. -/
def TracedFetcher.StaysOn (thread : Thread) (traced : TracedFetcher) : Prop :=
  ∀ ⦃frames request registry⦄, Registry.IsSequential registry →
    ∀ moment ∈ (traced frames thread request registry).events, moment.thread = thread

theorem Procedure.trace_thread {ω α : Type} {traced : TracedFetcher} {fetcher : Fetcher}
    {effect : ω → Registry → Except BeanError Unit × Registry} {note : ω → Happening}
    {frames : List String} {allows : ω → Prop} (erases : traced.Erases fetcher)
    (staysOn : traced.StaysOn thread) (keeps : fetcher.Keeps Stays)
    (changes : ∀ command registry, allows command → Registry.IsSequential registry →
      (effect command registry).2.IsSequential)
    {procedure : Procedure ω α} (sequential : procedure.IsSequential allows)
    {registry : Registry} (registered : registry.IsSequential) :
    ∀ moment ∈ (procedure.trace traced effect note frames thread registry).events,
      moment.thread = thread := by
  induction procedure generalizing registry with
  | done result => simp [trace]
  | fetch depth request next ih =>
      rcases sequential with ⟨rfl, sequential⟩
      rw [trace, Traced.tell_events, List.forall_mem_cons]
      refine ⟨rfl, fun moment moment_mem => ?_⟩
      rcases Traced.mem_bind_events moment_mem with asked | ⟨answer, fetched, later⟩
      · exact staysOn registered moment asked
      · rw [erases] at fetched
        exact ih answer.1 (sequential _) (registered.of_stays (keeps fetched)) moment later
  | update object change next ih =>
      rw [trace, Traced.tell_events, List.forall_mem_cons]
      exact ⟨rfl, ih sequential registered⟩
  | observe depth next ih =>
      rw [trace, Traced.tell_events, List.forall_mem_cons]
      exact ⟨rfl, ih _ (sequential _) registered⟩
  | allocate next ih =>
      rw [trace, Traced.tell_events, List.forall_mem_cons]
      exact ⟨rfl, ih _ (sequential _) registered⟩
  | report message fields next ih =>
      rw [trace, Traced.tell_events, List.forall_mem_cons]
      exact ⟨rfl, ih sequential registered⟩
  | write command next ih =>
      rw [trace, Traced.tell_events, List.forall_mem_cons]
      exact ⟨rfl, ih _ (sequential.2 _) (changes command registry sequential.1 registered)⟩

theorem traceRetrieve_staysOn {build : TracedBuilder}
    (staysOn : ∀ {frames site constructor registry}, Constructor.IsSequential constructor →
      Registry.IsSequential registry →
        ∀ moment ∈ (build frames thread site constructor registry).events,
          moment.thread = thread) :
    TracedFetcher.StaysOn thread (traceRetrieve build) := by
  intro frames request registry registered
  rw [traceRetrieve_eq]
  have foresees := foresees_prospect thread request registry
  generalize registry.prospect thread request = prospect at foresees
  cases foresees with
  | due enters same due =>
      intro moment moment_mem
      rcases Traced.mem_bind_events moment_mem with inside | ⟨built, _, answers⟩
      · refine staysOn (isSequential_of_due? (isSequential_of_find? registered enters.found) due)
          ?_ moment inside
        rw [Registry.IsSequential, enters.prepare_beans]
        exact registered
      · rw [List.mem_singleton.mp answers]
  | blocked => simp [Traced.stuck]
  | _ => simp [traceAnswer]

theorem traceFetch_staysOn (budget : Nat) :
    TracedFetcher.StaysOn thread (traceFetch budget) := by
  induction budget with
  | zero =>
      refine traceRetrieve_staysOn fun _ _ => ?_
      simp [Traced.stuck]
  | succ budget ih =>
      refine traceRetrieve_staysOn fun sequential registered => ?_
      rw [traceBuilder, Traced.tell_events, List.forall_mem_cons]
      refine ⟨rfl, fun moment moment_mem => ?_⟩
      rcases Traced.mem_bind_events moment_mem with inside | ⟨built, _, ends⟩
      · refine Procedure.trace_thread (traceFetch_erases budget) ih (persists_stays.fetch budget)
          (fun write => write.elim) (sequential _) ?_ moment inside
        exact registered
      · rw [List.mem_singleton.mp ends]

theorem traceGet_staysOn : TracedFetcher.StaysOn thread traceGet := by
  intro frames request registry registered
  exact traceFetch_staysOn registry.size registered

end SingleThread

/--
Let a procedure and the constructors make all requests on one thread, nothing being in flight at
first. Then it ends, and at each moment until then no request would wait for a lock, and what is
stored for a bean that is made once is what its constructor has just returned. In the end nothing
is locked. The run that tells its moments comes to the same.
-/
theorem Procedure.course_guards_locks {α : Type} {procedure : Procedure Registration α}
    (sequential : procedure.IsSequential Registration.IsSequential) (thread : Thread)
    {initial : Registry} (rest : initial.AtRest) (registered : initial.IsSequential) :
    ∃ result after, procedure.performOn thread initial = some (result, after) ∧
      procedure.tracePerform thread initial =
        ⟨procedure.course thread initial, some (result, after)⟩ ∧
      after.locked = [] ∧
      ∀ moment ∈ procedure.course thread initial, moment.thread = thread ∧ moment.GuardsLocks := by
  have nothing : initial.LocksInFlight thread := by
    refine ⟨?_, ?_, ?_⟩ <;> simp [rest.locked]
  have stands : initial.Stands thread [] :=
    ⟨registered, rest.chains thread, List.nodup_nil, by simp [rest.locked]⟩
  rcases performOn_terminates sequential stands with ⟨result, after, ran⟩
  have threads : ∀ moment ∈ procedure.course thread initial, moment.thread = thread :=
    trace_thread Registry.traceGet_erases traceGet_staysOn Registry.persists_stays.get
      (fun registration _ (allowed : registration.IsSequential) registeredThere =>
        Registry.apply_isSequential registeredThere allowed) sequential registered
  have guarded := (Registry.recounts_guardsLocks thread).course
    (fun _ _ => Registry.guardsLocks_writes) ran threads nothing
  refine ⟨result, after, ran, tracePerform_of_performOn ran, ?_, fun moment moment_mem => ?_⟩
  · exact ((performOn_evolves ran).restores.atRest rest).locked
  · exact ⟨threads moment moment_mem, guarded.1 moment moment_mem⟩

/-- Two beans that request each other and do not mind the failure. -/
def stubborn : Registry where
  beans := [("left", .singleton .i32 ⟨true, fun _ =>
      .fetch 0 ⟨"right", ⟨.value, .shared .i32⟩⟩ fun _ => .done (.ok (.plain (.integer 1)))⟩),
    ("right", .smartSingleton .i32 ⟨true, fun _ =>
      .fetch 0 ⟨"left", ⟨.reference, .i32⟩⟩ fun _ => .done (.ok (.plain (.integer 2)))⟩)]

theorem course_guards_stubborn_locks :
    let procedure : Procedure Registration (Except BeanError Bean) :=
      .fetch 0 ⟨"left", ⟨.reference, .i32⟩⟩ .done
    (procedure.course 0 stubborn).map (·.registry.locked) =
        [[], [.bean "left"], [.bean "left"], [.bean "right", .bean "left"],
          [.bean "right", .bean "left"], [.bean "right", .bean "left"],
          [.bean "right", .bean "left"], [.bean "right", .bean "left"],
          [.bean "left"], [.bean "left"], [.bean "left"], [], []] ∧
      ∃ result after, procedure.performOn 0 stubborn = some (result, after) ∧ after.locked = [] ∧
        ∀ moment ∈ procedure.course 0 stubborn, moment.thread = 0 ∧ moment.GuardsLocks := by
  intro procedure
  have registered : stubborn.IsSequential := by
    simp only [Registry.IsSequential, stubborn, List.forall_mem_cons]
    exact ⟨fun _ => ⟨rfl, fun _ => trivial⟩, fun _ => ⟨rfl, fun _ => trivial⟩, by simp⟩
  have sequential : procedure.IsSequential Registration.IsSequential := ⟨rfl, fun _ => trivial⟩
  refine ⟨by decide, ?_⟩
  rcases Procedure.course_guards_locks sequential 0 ⟨fun _ => rfl, rfl⟩ registered with
    ⟨result, after, ran, _, guards⟩
  exact ⟨result, after, ran, guards⟩

end BeanContainer
