import BeanContainer.Proofs.Registry.Course
import BeanContainer.Proofs.Registry.CycleDetection

/-!
# Call chains

The chain that a registry writes down for a thread is the list of the constructors that run on it.
It is so at each moment of each evaluation, however the requests end. So afterwards the chain is
what it was before, a refusal shows the constructors that are running, and with nothing in flight
nothing is written down.
-/

namespace BeanContainer

/--
The chain of the thread is the list of the constructors running around the moment, the last of which
has just begun if one has. A cycle comes from the constructor that was run for the request, or it is
raised by the registry itself: then it is this chain followed by the requested name, which is in the
chain.
-/
structure Moment.FollowsCalls (moment : Moment) : Prop where
  current : moment.registry.chains.current moment.thread = moment.frames
  proper : moment.registry.chains.IsProper
  begins : ∀ name, moment.happening = .begins name → moment.frames.getLast? = some name
  raised : ∀ request run trace, moment.happening = .answers request run (.error (.cycle trace)) →
    run = some (.error (.cycle trace)) ∨
      (request.name ∈ moment.frames ∧ trace = moment.frames ++ [request.name])

/-- If the chain of the thread is the list of constructors at first, it is so at all moments. -/
def FollowsCalls (thread : Thread) (frames : List String) (before : Registry)
    (moments : List Moment) (_ : Registry) : Prop :=
  before.chains.current thread = frames → before.chains.IsProper →
    ∀ moment ∈ moments, moment.FollowsCalls

namespace Registry

variable {thread : Thread} {frames : List String} {request : Request}
  {registry entered : Registry} {strategy : Strategy}

/-- A failure of the constructor is passed on as it is, and no other failure comes to it. -/
theorem complete_eq_error_iff {site : Site} {outcome : Except BeanError Bean}
    {filled : Registry} {strategy : Strategy} {error : BeanError} :
    (strategy.complete site outcome filled).1 = .error error ↔ outcome = .error error := by
  cases outcome with
  | error other => simp [Strategy.complete]
  | ok bean =>
      simp only [Strategy.complete]
      split <;> simp

theorem followsCalls_answers {after : Registry} (evolves : registry.Evolves after)
    (current : registry.chains.current thread = frames) (proper : registry.chains.IsProper)
    {run : Option (Except BeanError Bean)} {outcome : Except BeanError Bean}
    (raised : ∀ trace, outcome = .error (.cycle trace) → run = some (.error (.cycle trace)) ∨
      (request.name ∈ frames ∧ trace = frames ++ [request.name])) :
    Moment.FollowsCalls ⟨thread, frames, after, .answers request run outcome⟩ where
  current := (evolves.restores.chains thread).trans current
  proper := evolves.isProper proper
  begins := nofun
  raised := by
    rintro other ran trace same
    cases same
    exact raised trace rfl

theorem recounts_followsCalls : Recounts FollowsCalls where
  works thread frames registry := by
    intro current proper moment moment_mem
    rw [List.mem_singleton.mp moment_mem]
    exact ⟨current, proper, nofun, nofun⟩
  append := by
    intro thread frames first second third moments others evolves _ left right current proper
    rw [List.forall_mem_append]
    exact ⟨left current proper,
      right ((evolves.restores.chains thread).trans current) (evolves.isProper proper)⟩
  update _ _ _ _ _ := by intro _ _; simp
  allocate _ _ _ := by intro _ _; simp
  report _ _ _ _ _ := by intro _ _; simp
  elsewhere inside _ proper := inside rfl proper
  unregistered := by
    intro thread frames request registry missing current proper
    rw [List.forall_mem_singleton]
    exact followsCalls_answers (persists_evolves.refl registry) current proper (by simp)
  refused := by
    intro thread frames request registry strategy trace found inFlight current proper
    rw [List.forall_mem_singleton]
    refine followsCalls_answers (persists_evolves.refl registry) current proper ?_
    rintro raised same
    cases same
    rcases Chains.enter_eq_error_iff.mp inFlight with ⟨name_mem, same⟩
    rw [current] at name_mem same
    exact Or.inr ⟨name_mem, same.symm⟩
  mismatched := by
    intro thread frames request registry strategy entered enters different current proper
    rw [List.forall_mem_singleton]
    exact followsCalls_answers (persists_evolves.leave enters (persists_evolves.refl entered))
      current proper (by simp)
  ready := by
    intro thread frames request registry strategy entered bean enters same ready current proper
    rw [List.forall_mem_singleton]
    exact followsCalls_answers (persists_evolves.leave enters (persists_evolves.refl entered))
      current proper (by simp)
  built := by
    intro thread frames request registry strategy entered constructor moments outcome filled enters
      same due counted completed evolves inside current proper
    -- Preparing and counting leave the chain alone, in which the name has just been entered.
    have currentInside : counted.chains.current thread = frames ++ [request.name] := by
      change (strategy.prepare (.bean request.name) entered).chains.current thread = _
      rw [prepare_chains, enters.current, if_pos rfl, current]
    have properInside : counted.chains.IsProper := by
      change (strategy.prepare (.bean request.name) entered).chains.IsProper
      rw [prepare_chains]
      rcases enters.enter with ⟨chains, enter, rfl⟩
      exact proper.enter enter
    have counting := persists_evolves.trans
      (persists_evolves.countRun (.bean request.name) constructor.listed _) evolves
    have answering := persists_evolves.leave enters (persists_evolves.complete outcome counting)
    rw [builtMoments, List.forall_mem_append, List.forall_mem_cons, List.forall_mem_append,
      List.forall_mem_singleton, List.forall_mem_singleton]
    refine ⟨⟨⟨currentInside, properInside, ?_, nofun⟩, inside currentInside properInside, ?_⟩, ?_⟩
    · rintro name same
      cases same
      exact List.getLast?_concat
    · have currentStill := (evolves.restores.chains thread).trans currentInside
      exact ⟨currentStill, evolves.isProper properInside, nofun, nofun⟩
    · refine followsCalls_answers answering current proper ?_
      intro trace same
      exact Or.inl (by rw [complete_eq_error_iff.mp same])

end Registry

/--
Let no chain hold a name twice at first. A procedure ends if it and the constructors make all
requests on their own thread and nothing is under construction but what is in flight there. At each
moment until a procedure ends, the chain of the thread is the list of the running constructors,
behind what was in flight at first, and no chain holds a name twice. Afterwards each thread has its
chain from before, and the table is empty if nothing was in flight.
-/
theorem Procedure.course_followsCalls {α : Type} (procedure : Procedure Registration α)
    (thread : Thread) {registry : Registry} (proper : registry.chains.IsProper) :
    (procedure.IsSequential Registration.IsSequential → registry.IsSequential →
      (∀ name, .bean name ∈ registry.locked → name ∈ registry.chains.current thread) →
        ∃ result after, procedure.performOn thread registry = some (result, after)) ∧
    ∀ result after, procedure.performOn thread registry = some (result, after) →
      (∀ moment ∈ procedure.course thread registry, moment.FollowsCalls) ∧
      (∀ other, after.chains.current other = registry.chains.current other) ∧
      after.chains.IsProper ∧
      ((∀ other, registry.chains.current other = []) → after.chains.table = []) := by
  refine ⟨?_, ?_⟩
  · intro sequential registered locked
    exact performOn_terminates sequential ⟨registered, rfl, proper.nodup thread, locked⟩
  · intro result after ran
    have evolves := performOn_evolves ran
    have properAfter := evolves.isProper proper
    refine ⟨?_, evolves.restores.chains, properAfter, ?_⟩
    · refine Registry.recounts_followsCalls.course ?_ ran rfl proper
      intro _ _ _ _ current proper
      rw [List.forall_mem_singleton]
      exact ⟨current, proper, nofun, nofun⟩
    · intro rest
      exact properAfter.table_eq_nil fun other => (evolves.restores.chains other).trans (rest other)

/-- Two beans that request each other, requested while a third one is in flight. -/
def interrupted : Registry :=
  { Registry.circular with chains := ({} : Chains).put 0 ["outer"] }

theorem interrupted_isProper : interrupted.chains.IsProper := by
  have nothing : ({} : Chains).IsProper := ⟨by simp, fun _ => List.nodup_nil⟩
  exact nothing.put 0 (List.nodup_singleton "outer")

theorem interrupted_isSequential : interrupted.IsSequential := by
  simp only [Registry.IsSequential, interrupted, Registry.circular, List.forall_mem_cons]
  refine ⟨fun _ => ⟨rfl, ?_⟩, fun _ => ⟨rfl, ?_⟩, by simp⟩ <;>
    rintro (error | bean) <;> trivial

theorem course_followsCalls_interrupted :
    let procedure : Procedure Registration (Except BeanError Bean) :=
      .fetch 0 ⟨"left", ⟨.reference, .i32⟩⟩ .done
    ∃ after, procedure.performOn 0 interrupted =
        some (.error (.cycle ["outer", "left", "right", "left"]), after) ∧
      (∀ moment ∈ procedure.course 0 interrupted, moment.FollowsCalls) ∧
      after.chains.current 0 = ["outer"] := by
  intro procedure
  have answered : (procedure.performOn 0 interrupted).map (·.1) =
      some (.error (.cycle ["outer", "left", "right", "left"])) := by
    rfl
  rcases procedure.course_followsCalls 0 interrupted_isProper with ⟨ends, follows⟩
  rcases ends ⟨rfl, fun _ => trivial⟩ interrupted_isSequential
    (by simp [interrupted, Registry.circular]) with ⟨outcome, after, ran⟩
  rw [ran, Option.map_some, Option.some.injEq] at answered
  change outcome = _ at answered
  subst answered
  exact ⟨after, ran, (follows _ after ran).1, (follows _ after ran).2.1 0⟩

end BeanContainer
