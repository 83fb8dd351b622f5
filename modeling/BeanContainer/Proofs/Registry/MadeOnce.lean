import BeanContainer.Proofs.Registry.Course
import BeanContainer.Proofs.Registry.CycleDetection
import BeanContainer.Proofs.Registry.Record

/-!
# Beans made once

A strategy that makes one bean for all requests runs its constructor until a run succeeds, and hands
out that one object ever after. While the constructor runs, its own requests may lead back to it,
but these are refused because the name is in flight. So a second run never begins within the first
one, whatever constructors request and whichever failures they catch.
-/

namespace BeanContainer

/--
An answer to a request for a bean: whether the name of the bean was in flight, how the run of its
constructor ended if there was one, and the outcome.
-/
structure Answer where
  inFlight : Bool
  run : Option (Except BeanError Bean)
  outcome : Except BeanError Bean

/-- The answer given at the moment, if the request is for the name as it is registered. -/
def Moment.answer? (name : String) (moment : Moment) : Option Answer :=
  match moment.happening with
  | .answers request run outcome =>
    if request.name = name ∧ moment.registry.handover? name = some request.handover then
      some ⟨(moment.registry.chains.current moment.thread).contains name, run, outcome⟩
    else none
  | _ => none

/-- The answers to requests for the name as it is registered. -/
def answersFor (name : String) (moments : List Moment) : List Answer :=
  moments.filterMap (·.answer? name)

/--
The life of a bean that is made once, told by the answers to requests for it. The object is there
from the first run that succeeds.
-/
inductive Life : Option ObjectId → List Answer → Prop
  | unmade : Life none []
  /-- A request that comes from within a run of the constructor does not start another one. -/
  | refused {answers : List Answer} {trace : List String} (before : Life none answers) :
      Life none (answers ++ [⟨true, none, .error (.cycle trace)⟩])
  /-- A run that fails leaves nothing behind. -/
  | failed {answers : List Answer} {error : BeanError} (before : Life none answers) :
      Life none (answers ++ [⟨false, some (.error error), .error error⟩])
  | made {answers : List Answer} {bean : Bean} {object : ObjectId} (before : Life none answers) :
      Life (some object) (answers ++ [⟨false, some (.ok bean), .ok (bean.inside object)⟩])
  /-- Without any further run the same object is handed out, whatever it holds by then. -/
  | handedOut {answers : List Answer} {bean : Bean} {object : ObjectId}
      (before : Life (some object) answers) (same : bean.object = some object) :
      Life (some object) (answers ++ [⟨false, none, .ok bean⟩])

def Answer.ran (answer : Answer) : Bool :=
  answer.run.isSome

def Answer.ranInVain (answer : Answer) : Bool :=
  match answer.run with
  | some (.error _) => true
  | _ => false

/-- All runs fail but one, if the bean is there. -/
theorem Life.countP_ran {made : Option ObjectId} {answers : List Answer}
    (life : Life made answers) :
    answers.countP (·.ran) = answers.countP (·.ranInVain) + made.toList.length := by
  induction life with
  | unmade => rfl
  | refused before ih | failed before ih | made before ih | handedOut before same ih =>
      rw [List.countP_append, List.countP_append, ih]
      rfl

theorem Life.append_refused {answers more : List Answer} (life : Life none answers)
    (refused : ∀ answer ∈ more, ∃ trace, answer = ⟨true, none, .error (.cycle trace)⟩) :
    Life none (answers ++ more) := by
  induction more generalizing answers with
  | nil => rwa [List.append_nil]
  | cons answer rest ih =>
      rw [List.forall_mem_cons] at refused
      rcases refused.1 with ⟨trace, rfl⟩
      rw [List.append_cons]
      exact ih life.refused refused.2

namespace Registry

variable {name other : String}

/-- Whatever is registered under the name is the given strategy. -/
def Offers (name : String) (strategy : Strategy) (registry : Registry) : Prop :=
  ∀ other, registry.find? name = some other → other = strategy

/-- The name is in flight only while its bean is under construction. -/
def Guards (name : String) (registry : Registry) : Prop :=
  ∀ thread, name ∈ registry.chains.current thread → .bean name ∈ registry.locked

theorem Offers.of_grown {strategy : Strategy} {before after : Registry}
    (offers : after.Offers name strategy) (grown : before.beans <+: after.beans) :
    before.Offers name strategy :=
  fun other found => offers other (find?_of_grown grown found)

theorem Guards.of_restores {before after : Registry} (guards : before.Guards name)
    (restores : before.Restores after) : after.Guards name := by
  intro thread inFlight
  rw [restores.chains] at inFlight
  rw [restores.locked]
  exact guards thread inFlight

/-- While the bean of the name is under construction, all requests for it are refused. -/
structure Rests (name : String) (before : Registry) (moments : List Moment) (after : Registry) :
    Prop where
  record : after.record name = before.record name
  refused : ∀ answer ∈ answersFor name moments,
    ∃ trace, answer = ⟨true, none, .error (.cycle trace)⟩

/-- The moments go on with the life of the bean of the name and show all runs of its constructor. -/
structure Lives (name : String) (before : Registry) (moments : List Moment) (after : Registry) :
    Prop where
  runs : (after.record name).2 =
    (before.record name).2 + (answersFor name moments).countP (·.ran)
  life : ∀ {made answers}, before.Holds name made → Life made answers →
    ∃ madeAfter, after.Holds name madeAfter ∧ Life madeAfter (answers ++ answersFor name moments)

/-- What moments tell of the bean of a name behind which one strategy at most is registered. -/
def Recorded (name : String) (strategy : Strategy) (_ : Thread) (_ : List String)
    (before : Registry) (moments : List Moment) (after : Registry) : Prop :=
  after.Offers name strategy → before.Guards name →
    (.bean name ∈ before.locked → before.Holds name none → Rests name before moments after) ∧
    (.bean name ∉ before.locked → Lives name before moments after)

section Telling

variable {before after first last : Registry} {moments others : List Moment}

theorem Rests.congr (rests : Rests name before moments after)
    (sameBefore : before.record name = first.record name)
    (sameAfter : last.record name = after.record name)
    (sameAnswers : answersFor name others = answersFor name moments) :
    Rests name first others last where
  record := by rw [sameAfter, rests.record, sameBefore]
  refused := by
    rw [sameAnswers]
    exact rests.refused

theorem Lives.congr (lives : Lives name before moments after)
    (sameBefore : before.record name = first.record name)
    (sameAfter : last.record name = after.record name)
    (sameAnswers : answersFor name others = answersFor name moments) :
    Lives name first others last where
  runs := by rw [sameAfter, lives.runs, sameBefore, sameAnswers]
  life := by
    intro made answers holds life
    rw [Holds, ← sameBefore] at holds
    rw [sameAnswers]
    rcases lives.life holds life with ⟨madeAfter, holdsAfter, lifeAfter⟩
    exact ⟨madeAfter, by rwa [Holds, sameAfter], lifeAfter⟩

theorem Rests.append (left : Rests name before moments first)
    (right : Rests name first others after) : Rests name before (moments ++ others) after where
  record := right.record.trans left.record
  refused := by
    rw [answersFor, List.filterMap_append, List.forall_mem_append]
    exact ⟨left.refused, right.refused⟩

theorem Lives.append (left : Lives name before moments first)
    (right : Lives name first others after) : Lives name before (moments ++ others) after where
  runs := by
    rw [answersFor, List.filterMap_append, List.countP_append, right.runs, left.runs, Nat.add_assoc]
    rfl
  life := by
    intro made answers holds life
    rcases left.life holds life with ⟨between, holdsBetween, lifeBetween⟩
    rcases right.life holdsBetween lifeBetween with ⟨madeAfter, holdsAfter, lifeAfter⟩
    rw [List.append_assoc] at lifeAfter
    rw [answersFor, List.filterMap_append]
    exact ⟨madeAfter, holdsAfter, lifeAfter⟩

/-- What does not concern the bean of the name is recorded by the way. -/
theorem recorded_of_unaffected {strategy : Strategy} {thread : Thread} {frames : List String}
    (noAnswer : answersFor name moments = []) (same : after.record name = before.record name) :
    Recorded name strategy thread frames before moments after := by
  intro _ _
  refine ⟨fun _ _ => ⟨same, by simp [noAnswer]⟩, fun _ => ⟨by simp [same, noAnswer], ?_⟩⟩
  intro made answers holds life
  rw [noAnswer, List.append_nil]
  exact ⟨made, by rwa [Holds, same], life⟩

theorem recorded_append {strategy : Strategy} {thread : Thread} {frames : List String}
    (evolves : before.Evolves first) (evolvesOn : first.Evolves after)
    (left : Recorded name strategy thread frames before moments first)
    (right : Recorded name strategy thread frames first others after) :
    Recorded name strategy thread frames before (moments ++ others) after := by
  intro offers guards
  rcases left (offers.of_grown evolvesOn.grown) guards with ⟨leftRests, leftLives⟩
  rcases right offers (guards.of_restores evolves.restores) with ⟨rightRests, rightLives⟩
  rw [evolves.restores.locked] at rightRests rightLives
  refine ⟨fun locked unmade => ?_, fun free => (leftLives free).append (rightLives free)⟩
  have rests := leftRests locked unmade
  exact rests.append (rightRests locked (by rwa [Holds, rests.record]))

end Telling

section Answering

variable {thread : Thread} {frames : List String} {request : Request}
  {registry entered after : Registry} {strategy offered : Strategy}
  {run : Option (Except BeanError Bean)} {outcome : Except BeanError Bean}

theorem answersFor_of_ne (different : request.name ≠ name) :
    answersFor name [⟨thread, frames, after, .answers request run outcome⟩] = [] := by
  simp [answersFor, Moment.answer?, different]

theorem answersFor_of_mismatch (mismatch : after.handover? request.name ≠ some request.handover) :
    answersFor name [⟨thread, frames, after, .answers request run outcome⟩] = [] := by
  have notBoth : ¬(request.name = name ∧ after.handover? name = some request.handover) := by
    rintro ⟨rfl, handover⟩
    exact mismatch handover
  simp [answersFor, Moment.answer?, notBoth]

theorem answersFor_own (evolves : registry.Evolves after)
    (found : registry.find? request.name = some strategy)
    (same : strategy.handover = request.handover) :
    answersFor request.name [⟨thread, frames, after, .answers request run outcome⟩] =
      [⟨(registry.chains.current thread).contains request.name, run, outcome⟩] := by
  have handover : after.handover? request.name = some request.handover := by
    rw [handover?, find?_of_grown evolves.grown found, Option.map_some, same]
  simp [answersFor, Moment.answer?, handover, evolves.restores.chains]

theorem Enters.contains_current (enters : Enters thread request registry strategy entered) :
    (registry.chains.current thread).contains request.name = false := by
  simpa using enters.notMem

theorem recorded_refused {trace : List String}
    (found : registry.find? request.name = some strategy)
    (inFlight : registry.chains.enter thread request.name = .error trace) :
    Recorded name offered thread frames registry
      [⟨thread, frames, registry, .answers request none (.error (.cycle trace))⟩] registry := by
  by_cases own : request.name = name
  · subst own
    by_cases same : strategy.handover = request.handover
    · intro _ guards
      have name_mem := (Chains.enter_eq_error_iff.mp inFlight).1
      refine ⟨fun _ _ => ⟨rfl, ?_⟩, fun free => absurd (guards thread name_mem) free⟩
      rw [answersFor_own (persists_evolves.refl registry) found same, List.forall_mem_singleton]
      exact ⟨trace, by simp [name_mem]⟩
    · exact recorded_of_unaffected
        (answersFor_of_mismatch (by simpa [handover?, found] using same)) rfl
  · exact recorded_of_unaffected (answersFor_of_ne own) rfl

theorem recorded_ready {bean : Bean} (once : offered.makesOnce = true)
    (enters : Enters thread request registry strategy entered)
    (same : strategy.handover = request.handover)
    (ready : strategy.ready? (.bean request.name) entered = some bean) :
    Recorded name offered thread frames registry
      [⟨thread, frames, entered.leave thread, .answers request none (.ok bean)⟩]
      (entered.leave thread) := by
  have sameRecord : (entered.leave thread).record name = registry.record name := enters.record
  by_cases own : request.name = name
  · subst own
    intro offers _
    have evolves := persists_evolves.leave enters (persists_evolves.refl entered)
    have isOffered := offers strategy (find?_of_grown evolves.grown enters.found)
    subst isOffered
    have kept : (registry.record request.name).1 = some bean.object := by
      rw [← sameRecord]
      change (entered.kept? (.bean request.name)).map (·.object) = _
      cases strategy with
      | supplied type bean | factory type made | smartFactory type made => cases once
      | singleton type made | smartSingleton type made =>
          have found : entered.kept? (.bean request.name) = some bean := ready
          rw [found, Option.map_some]
    refine ⟨fun _ unmade => absurd unmade (by simp [Holds, kept]), fun _ => ?_⟩
    have answers : answersFor request.name
        [⟨thread, frames, entered.leave thread, .answers request none (.ok bean)⟩] =
          [⟨false, none, .ok bean⟩] := by
      rw [answersFor_own evolves enters.found same, enters.contains_current]
    refine ⟨by simp [sameRecord, answers, Answer.ran], ?_⟩
    intro made past holds life
    rw [answers]
    cases made with
    | none => simp [Holds, kept] at holds
    | some object =>
        rw [Holds, kept, Option.map_some, Option.some.injEq] at holds
        refine ⟨some object, ?_, life.handedOut holds⟩
        rw [Holds, sameRecord, kept, holds, Option.map_some]
  · exact recorded_of_unaffected (answersFor_of_ne own) sameRecord

variable {constructor : Constructor} {made : Except BeanError Bean} {filled : Registry}
  {moments : List Moment}

theorem answersFor_built {counted : Registry} {completed : Except BeanError Bean × Registry} :
    answersFor name (builtMoments thread frames request counted filled moments made completed) =
      answersFor name moments ++ answersFor name [⟨thread, frames, completed.2.leave thread,
        .answers request (some made) completed.1⟩] := by
  simp [builtMoments, answersFor, Moment.answer?, List.filterMap_append]

/-- A run of another constructor is part of the life as far as it makes requests for the bean. -/
theorem recorded_built_of_ne (different : request.name ≠ name)
    (enters : Enters thread request registry strategy entered)
    (inside : Recorded name offered thread (frames ++ [request.name])
      ((strategy.prepare (.bean request.name) entered).countRun (.bean request.name)
        constructor.listed).2 moments filled) :
    let counted := ((strategy.prepare (.bean request.name) entered).countRun
      (.bean request.name) constructor.listed).2
    let completed := strategy.complete (.bean request.name) made filled
    Recorded name offered thread frames registry
      (builtMoments thread frames request counted filled moments made completed)
      (completed.2.leave thread) := by
  intro counted completed offers guards
  have sameBefore : counted.record name = registry.record name := by
    rw [record_countRun_of_ne different, record_prepare, enters.record]
  have sameAfter : (completed.2.leave thread).record name = filled.record name :=
    record_complete_of_ne different made filled
  have grown : filled.beans <+: (completed.2.leave thread).beans :=
    (complete_beans (.bean request.name) made filled).symm ▸ List.prefix_rfl
  have locked_iff : .bean name ∈ counted.locked ↔ .bean name ∈ registry.locked := by
    rw [← enters.locked]
    exact mem_locked_prepare_of_ne different entered
  have guardsInside : counted.Guards name := by
    intro there inFlight
    change name ∈ (strategy.prepare (.bean request.name) entered).chains.current there at inFlight
    rw [prepare_chains, enters.current] at inFlight
    rw [locked_iff]
    split at inFlight
    · simp only [List.mem_append, List.mem_singleton, different.symm, or_false] at inFlight
      exact guards thread inFlight
    · exact guards there inFlight
  rcases inside (offers.of_grown grown) guardsInside with ⟨rests, lives⟩
  rw [locked_iff] at rests lives
  refine ⟨fun locked unmade => ?_, fun free => ?_⟩
  · refine (rests locked (by rwa [Holds, sameBefore])).congr sameBefore sameAfter ?_
    rw [answersFor_built, answersFor_of_ne different, List.append_nil]
  · refine (lives free).congr sameBefore sameAfter ?_
    rw [answersFor_built, answersFor_of_ne different, List.append_nil]

/-- A run that begins before the bean is made goes on with the life of the bean by its answer. -/
theorem lives_of_run {made : Option ObjectId} {refusals : List Answer} {answer : Answer}
    (unmade : registry.Holds name none)
    (refused : ∀ other ∈ refusals, ∃ trace, other = ⟨true, none, .error (.cycle trace)⟩)
    (ran : answer.ran = true) (answers : answersFor name moments = refusals ++ [answer])
    (recordAfter : after.record name = (made.map some, (registry.record name).2 + 1))
    (continues : ∀ {past}, Life none past → Life made (past ++ [answer])) :
    Lives name registry moments after where
  runs := by
    have noRun : refusals.countP (·.ran) = 0 := by
      rw [List.countP_eq_zero]
      intro other other_mem
      rcases refused other other_mem with ⟨trace, rfl⟩
      simp [Answer.ran]
    rw [recordAfter, answers, List.countP_append, noRun, List.countP_singleton, if_pos ran]
  life := by
    intro earlier past holds life
    rw [Holds] at unmade holds
    rw [unmade, eq_comm, Option.map_none, Option.map_eq_none_iff] at holds
    subst holds
    rw [answers, ← List.append_assoc]
    exact ⟨made, by rw [Holds, recordAfter], continues (life.append_refused refused)⟩

/-- A run of the own constructor fails, or makes the bean for good. -/
theorem recorded_built_own (once : offered.makesOnce = true)
    (enters : Enters thread request registry strategy entered)
    (same : strategy.handover = request.handover)
    (due : strategy.due? (.bean request.name) entered = some constructor)
    (evolves : Evolves ((strategy.prepare (.bean request.name) entered).countRun
      (.bean request.name) constructor.listed).2 filled)
    (inside : Recorded request.name offered thread (frames ++ [request.name])
      ((strategy.prepare (.bean request.name) entered).countRun (.bean request.name)
        constructor.listed).2 moments filled) :
    let counted := ((strategy.prepare (.bean request.name) entered).countRun
      (.bean request.name) constructor.listed).2
    let completed := strategy.complete (.bean request.name) made filled
    Recorded request.name offered thread frames registry
      (builtMoments thread frames request counted filled moments made completed)
      (completed.2.leave thread) := by
  intro counted completed offers guards
  have counting := persists_evolves.trans
    (persists_evolves.countRun (.bean request.name) constructor.listed _) evolves
  have evolvesAll := persists_evolves.leave enters (persists_evolves.complete made counting)
  have grown : filled.beans <+: (completed.2.leave thread).beans :=
    (complete_beans (.bean request.name) made filled).symm ▸ List.prefix_rfl
  have isOffered := offers strategy (find?_of_grown evolvesAll.grown enters.found)
  subst isOffered
  rcases unmade_of_due once due with ⟨unkept, free⟩
  rw [enters.locked] at free
  have unmade : registry.Holds request.name none := by
    rw [Holds, ← enters.record]
    exact Option.map_eq_none_iff.mpr unkept
  have lockedInside : .bean request.name ∈ counted.locked := by
    change .bean request.name ∈ (strategy.prepare (.bean request.name) entered).locked
    rw [Strategy.prepare, if_pos once]
    exact List.mem_cons_self
  have recordInside : counted.record request.name =
      ((registry.record request.name).1, (registry.record request.name).2 + 1) := by
    rw [← enters.record, ← record_prepare strategy (.bean request.name) entered]
    refine Prod.ext rfl ?_
    rw [record, runs_countRun, if_pos rfl]
    rfl
  have unmadeInside : counted.Holds request.name none := by
    rw [Holds, recordInside]
    exact unmade
  -- Until the run ends, all requests for the bean are refused.
  have rests := (inside (offers.of_grown grown) fun _ _ => lockedInside).1 lockedInside unmadeInside
  have unmadeStill : filled.Holds request.name none := by rwa [Holds, rests.record]
  have answers : answersFor request.name
      (builtMoments thread frames request counted filled moments made completed) =
        answersFor request.name moments ++ [⟨false, some made, completed.1⟩] := by
    rw [answersFor_built, answersFor_own evolvesAll enters.found same, enters.contains_current]
  refine ⟨fun locked _ => absurd locked free, fun _ => ?_⟩
  cases made with
  | error error =>
      refine lives_of_run unmade rests.refused rfl answers ?_ Life.failed
      refine (record_complete_error strategy (.bean request.name) error filled).trans ?_
      rw [rests.record, recordInside, unmade]
  | ok bean =>
      rcases complete_made once bean unmadeStill with ⟨object, handsOut, recordAfter⟩
      have handedOut := answers.trans (congrArg (fun outcome =>
        answersFor request.name moments ++ [⟨false, some (.ok bean), outcome⟩]) handsOut)
      refine lives_of_run unmade rests.refused rfl handedOut ?_ Life.made
      refine recordAfter.trans ?_
      rw [rests.record, recordInside]
      rfl

end Answering

theorem recounts_recorded (name : String) {offered : Strategy} (once : offered.makesOnce = true) :
    Recounts (Recorded name offered) where
  works _ _ _ := recorded_of_unaffected rfl rfl
  append := recorded_append
  update _ _ object change registry :=
    recorded_of_unaffected rfl (record_update object change registry)
  allocate _ _ _ := recorded_of_unaffected rfl rfl
  report _ _ _ _ _ := recorded_of_unaffected rfl rfl
  elsewhere inside := inside
  unregistered missing :=
    recorded_of_unaffected (answersFor_of_mismatch (by simp [handover?, missing])) rfl
  refused := recorded_refused
  mismatched := by
    intro thread frames request registry strategy entered enters different
    have evolves := persists_evolves.leave enters (persists_evolves.refl entered)
    refine recorded_of_unaffected (answersFor_of_mismatch ?_) enters.record
    simpa [handover?, find?_of_grown evolves.grown enters.found] using different
  ready := recorded_ready once
  built := by
    intro thread frames request registry strategy entered constructor moments outcome filled enters
      same due counted completed evolves inside
    by_cases own : request.name = name
    · subst own
      exact recorded_built_own once enters same due evolves inside
    · exact recorded_built_of_ne own enters inside

theorem offers_of_find? {strategy : Strategy} {registry : Registry}
    (found : registry.find? name = some strategy) : registry.Offers name strategy := by
  intro other foundOther
  exact Option.some.inj (foundOther.symm.trans found)

/-- Whatever a procedure does, it goes on with the life of each bean that is made once. -/
theorem AtRest.lives {initial after : Registry} (rest : initial.AtRest) {strategy : Strategy}
    (found : after.find? name = some strategy) (once : strategy.makesOnce = true) {α : Type}
    {procedure : Procedure Registration α} {thread : Thread} {result : α}
    (ran : procedure.performOn thread initial = some (result, after)) :
    Lives name initial (procedure.course thread initial) after := by
  have recorded := (recounts_recorded name once).course
    (fun _ _ registration registry =>
      recorded_of_unaffected rfl (record_apply registration registry)) ran
  have guards : initial.Guards name := by
    intro other inFlight
    rw [rest.chains] at inFlight
    cases inFlight
  exact (recorded (offers_of_find? found) guards).2 (by simp [rest.locked])

end Registry

/--
Let a procedure that may add beans run on a fresh registry. If it and the constructors make all
requests on their own thread, it ends. Whenever it ends, each bean behind a strategy that makes it
once has led its life: its constructor was run for each request that did not come from within a run,
until a run succeeded, and ever after the object of that run was handed out. So the number of runs
is that of the failed ones, and one more if the bean was made.
-/
theorem Procedure.course_makes_once {α : Type} (procedure : Procedure Registration α)
    (thread : Thread) {initial : Registry} (fresh : initial.Fresh) :
    (procedure.IsSequential Registration.IsSequential → initial.IsSequential →
      ∃ result after, procedure.performOn thread initial = some (result, after)) ∧
    ∀ result after, procedure.performOn thread initial = some (result, after) →
      ∀ name strategy, after.find? name = some strategy → strategy.makesOnce = true →
        let answers := answersFor name (procedure.course thread initial)
        ∃ made : Option ObjectId,
          (after.kept? (.bean name)).map (·.object) = made.map some ∧ Life made answers ∧
          after.runs (.bean name) =
            initial.runs (.bean name) + answers.countP (·.ranInVain) + made.toList.length := by
  refine ⟨?_, ?_⟩
  · intro sequential registered
    refine performOn_terminates sequential
      ⟨registered, fresh.atRest.chains thread, List.nodup_nil, ?_⟩
    simp [fresh.atRest.locked]
  · intro result after ran name strategy found once answers
    have recorded := (Registry.recounts_recorded name once).course
      (fun _ _ registration registry =>
        Registry.recorded_of_unaffected rfl (Registry.record_apply registration registry)) ran
    have offers : after.Offers name strategy := by
      intro other foundOther
      rw [found, Option.some.injEq] at foundOther
      exact foundOther.symm
    have guards : initial.Guards name := by
      intro other inFlight
      rw [fresh.atRest.chains] at inFlight
      cases inFlight
    have lives := (recorded offers guards).2 (by simp [fresh.atRest.locked])
    have unmade : initial.Holds name none := by
      rw [Registry.Holds, Registry.record, fresh.notKept]
      rfl
    rcases lives.life unmade .unmade with ⟨made, holds, life⟩
    rw [List.nil_append] at life
    refine ⟨made, holds, life, ?_⟩
    rw [Nat.add_assoc, ← life.countP_ran]
    exact lives.runs

/-- A singleton that requests itself in each run, catches the refusal, and fails the first time. -/
def flaky : Registry where
  beans := [("flaky", .singleton .i32 ⟨true, fun run =>
    .fetch 0 ⟨"flaky", ⟨.reference, .i32⟩⟩ fun _ => .done
      (if run = 1 then .error (.construction "flaky" "not yet") else .ok (.plain (.integer 5)))⟩)]

/-- Three requests one after the other. -/
def requestingThrice : Procedure Registration Unit :=
  let request : Request := ⟨"flaky", ⟨.reference, .i32⟩⟩
  .fetch 0 request fun _ => .fetch 0 request fun _ => .fetch 0 request fun _ => .done ()

theorem course_makes_flaky_once :
    ∃ after, requestingThrice.performOn 0 flaky = some ((), after) ∧
      Life (some 0) [⟨true, none, .error (.cycle ["flaky", "flaky"])⟩,
        ⟨false, some (.error (.construction "flaky" "not yet")),
          .error (.construction "flaky" "not yet")⟩,
        ⟨true, none, .error (.cycle ["flaky", "flaky"])⟩,
        ⟨false, some (.ok (.plain (.integer 5))), .ok ⟨.integer 5, [0]⟩⟩,
        ⟨false, none, .ok ⟨.integer 5, [0]⟩⟩] ∧
      after.runs (.bean "flaky") = 2 := by
  have fresh : flaky.Fresh := ⟨⟨fun _ => rfl, rfl⟩, fun _ => rfl⟩
  have registered : flaky.IsSequential := by
    intro entry entry_mem
    rw [List.mem_singleton.mp entry_mem]
    exact fun _ => ⟨rfl, fun _ => trivial⟩
  have answers : answersFor "flaky" (requestingThrice.course 0 flaky) =
      [⟨true, none, .error (.cycle ["flaky", "flaky"])⟩,
        ⟨false, some (.error (.construction "flaky" "not yet")),
          .error (.construction "flaky" "not yet")⟩,
        ⟨true, none, .error (.cycle ["flaky", "flaky"])⟩,
        ⟨false, some (.ok (.plain (.integer 5))), .ok ⟨.integer 5, [0]⟩⟩,
        ⟨false, none, .ok ⟨.integer 5, [0]⟩⟩] := by
    rfl
  have kept : (requestingThrice.performOn 0 flaky).map
      (fun ended => (ended.2.kept? (.bean "flaky")).map (·.object)) = some (some (some 0)) := by
    rfl
  rcases requestingThrice.course_makes_once 0 fresh with ⟨ends, makesOnce⟩
  rcases ends ⟨rfl, fun _ => ⟨rfl, fun _ => ⟨rfl, fun _ => trivial⟩⟩⟩ registered with
    ⟨_, after, ran⟩
  have evolves := Procedure.performOn_evolves ran
  rcases makesOnce _ after ran "flaky" _ (Registry.find?_of_grown evolves.grown rfl) rfl with
    ⟨made, holds, life, runs⟩
  rw [ran, Option.map_some, holds, Option.some.injEq] at kept
  cases made with
  | none => cases kept
  | some object =>
      cases kept
      rw [answers] at life runs
      exact ⟨after, ran, life, runs⟩

end BeanContainer
