import BeanContainer.Proofs.Registry.Contention

/-!
# One bean for all threads

However the calls for one bean interleave, the bean is made at most once, and all that get a bean get
that one. A failure is returned to the thread that ran the constructor, and to nobody else. A call on
its own is what the registry does when it is asked for the bean (`run_of_makeOnce`).
-/

namespace BeanContainer.Contention

open Function (update)

variable {site : Site} {listed : Bool} {registry after : Registry} {stage : Thread → Stage}
  {holder : Option (Thread × Stage)} {history acts : List Act} {first last next : State}
  {thread : Thread} {reached : Stage}

theorem IsGuarded.running_unique {other : Thread} (guarded : IsGuarded site last history holder)
    (running : last.stage thread = .running) (runningToo : last.stage other = .running) :
    thread = other := by
  have own := guarded.isHolder.eq_some running rfl
  have others := guarded.isHolder.eq_some runningToo rfl
  rw [own] at others
  exact congrArg Prod.fst (Option.some.inj others)

theorem Situation.length_made_le {reached : Option Stage}
    (situation : Situation site registry history reached) :
    (history.filterMap Act.made?).length ≤ 1 := by
  cases situation with
  | unmade early unkept noneMade begun => simp [noneMade]
  | trying trying unkept noneMade begun => simp [noneMade]
  | made isObject unkept oneMade begun => simp [oneMade]
  | published late isObject kept oneMade begun => simp [oneMade]

/-- An object that is kept is the one that the constructor has made. -/
theorem Situation.made_of_kept {reached : Option Stage} {object : Option ObjectId}
    (situation : Situation site registry history reached)
    (kept : (registry.kept? site).map (·.object) = some object) :
    ∃ made, history.filterMap Act.made? = [made] ∧ made.object = object ∧ object.isSome := by
  cases situation with
  | unmade early unkept noneMade begun => simp [unkept] at kept
  | trying trying unkept noneMade begun => simp [unkept] at kept
  | made isObject unkept oneMade begun => simp [unkept] at kept
  | published late isObject isKept oneMade begun =>
      have same := Option.some.inj (isKept.symm.trans kept)
      exact ⟨_, oneMade, isObject.trans same, by simp [← same]⟩

/-- Nobody begins to run the constructor but after calls that failed. -/
theorem IsGuarded.none_made_of_begins (guarded : IsGuarded site last history holder)
    (step : Step site listed last acts next) {act : Act} (begun : act ∈ acts)
    (begins : act.begins = true) : history.filterMap Act.made? = [] := by
  cases step with
  | begin thread due =>
      have situation := guarded.situation
      rw [guarded.isHolder.eq_some due rfl] at situation
      cases situation with
      | unmade early unkept noneMade begun => exact noneMade
      | trying trying unkept noneMade begun => exact noneMade
      | published late isObject kept oneMade begun => simp at late
  | call | find | fail | succeed | unlock =>
      rw [List.mem_singleton.mp begun] at begins
      simp [Act.begins] at begins
  | miss | lock | findAgain | missAgain | publish | elsewhere => cases begun

theorem IsGuarded.runs_of_away (guarded : IsGuarded site last history holder)
    (away : ∀ thread, last.stage thread = .away) :
    history.countP Act.begins =
      history.countP Act.failsCall + if (last.registry.kept? site).isSome then 1 else 0 := by
  have free : holder = none := by
    cases isHeld : holder with
    | none => rfl
    | some held =>
        have holds := (guarded.isHolder held.1 held.2).mp isHeld
        rw [away] at holds
        simp [← holds.1, Stage.holdsLock] at holds
  have situation := guarded.situation
  rw [free] at situation
  cases situation with
  | unmade early unkept noneMade begun => simp [unkept, begun]
  | published late isObject kept oneMade begun =>
      have isKept : (last.registry.kept? site).isSome = true := by
        simpa using congrArg Option.isSome kept
      simp [isKept, begun]

/-- An object that is kept for the site is kept for good. -/
theorem Step.kept_stays {object : Option ObjectId} (step : Step site listed last acts next)
    (kept : (last.registry.kept? site).map (·.object) = some object) :
    (next.registry.kept? site).map (·.object) = some object := by
  cases step with
  | @publish registry stage bean thread made =>
      have found : ∃ first, registry.kept? site = some first ∧ first.object = object := by
        simpa using kept
      rcases found with ⟨first, isKept, isObject⟩
      simp [Registry.keep, isKept, isObject]
  | elsewhere spares => exact spares.kept.trans kept
  | call | find | miss | lock | findAgain | missAgain | begin | fail | succeed | unlock => exact kept

/-- What calls return, or are about to, is the object that is kept. -/
def State.HandsOutKept (site : Site) (state : State) (history : List Act) : Prop :=
  ∀ thread bean, state.stage thread = .leaving (.ok bean) ∨ ⟨thread, .returns (.ok bean)⟩ ∈ history →
    (state.registry.kept? site).map (·.object) = some bean.object

theorem leaving_of_update {other : Thread} {bean : Bean} (unmoved : reached ≠ .leaving (.ok bean))
    (isLeaving : update stage thread reached other = .leaving (.ok bean)) :
    stage other = .leaving (.ok bean) := by
  by_cases own : other = thread
  · simp [own, unmoved] at isLeaving
  · simpa [own] using isLeaving

/-- Whoever is about to return a bean was so before, or has the one that is kept. -/
theorem Step.leaving {other : Thread} {bean : Bean} (step : Step site listed last acts next)
    (isLeaving : next.stage other = .leaving (.ok bean)) :
    last.stage other = .leaving (.ok bean) ∨
      (next.registry.kept? site).map (·.object) = some bean.object := by
  cases step with
  | @findAgain registry stage found thread holding kept =>
      by_cases own : other = thread
      · right
        have same : found = bean := by simpa [own] using isLeaving
        simp [kept, same]
      · left
        simpa [own] using isLeaving
  | @publish registry stage found thread made =>
      by_cases own : other = thread
      · right
        have same : (registry.keep site found).1 = bean := by simpa [own] using isLeaving
        rw [Registry.kept?_keep_self, same, Option.map_some]
      · left
        simpa [own] using isLeaving
  | call | find | miss | lock | missAgain | begin | fail | succeed | unlock =>
      left
      exact leaving_of_update (by simp) isLeaving
  | elsewhere spares => exact .inl isLeaving

/-- Whoever returns a bean was about to, or has found the one that is kept. -/
theorem Step.returns {other : Thread} {bean : Bean} (step : Step site listed last acts next)
    (returned : ⟨other, .returns (.ok bean)⟩ ∈ acts) :
    last.stage other = .leaving (.ok bean) ∨
      (next.registry.kept? site).map (·.object) = some bean.object := by
  cases step with
  | @find registry stage found thread called kept =>
      right
      have same : bean = found := by simpa using (Act.mk.inj (List.mem_singleton.mp returned)).2
      simp [kept, same]
  | @unlock registry stage thread outcome isLeaving =>
      left
      have same : other = thread ∧ .ok bean = outcome := by simpa using returned
      rw [same.1, same.2]
      exact isLeaving
  | call | begin | fail | succeed => simp at returned
  | miss | lock | findAgain | missAgain | publish | elsewhere => cases returned

theorem State.HandsOutKept.step (handsOut : last.HandsOutKept site history)
    (step : Step site listed last acts next) : next.HandsOutKept site (history ++ acts) := by
  intro thread bean handed
  have before_or_kept : (last.stage thread = .leaving (.ok bean) ∨
      ⟨thread, .returns (.ok bean)⟩ ∈ history) ∨
      (next.registry.kept? site).map (·.object) = some bean.object := by
    rw [List.mem_append] at handed
    rcases handed with isLeaving | returned | returned
    · exact (step.leaving isLeaving).imp_left .inl
    · exact .inl (.inr returned)
    · exact (step.returns returned).imp_left .inl
  rcases before_or_kept with before | isKept
  · exact step.kept_stays (handsOut thread bean before)
  · exact isKept

/-- The course of one call: it finds the bean, makes it, or fails as its own run of the constructor. -/
inductive IsCall : List Deed → Prop
  | finds (bean : Bean) : IsCall [.calls, .returns (.ok bean)]
  | makes (made bean : Bean) : IsCall [.calls, .begins, .ends (.ok made), .returns (.ok bean)]
  | fails (error : BeanError) :
      IsCall [.calls, .begins, .ends (.error error), .returns (.error error)]

/-- What a thread at the stage has done of its call. -/
inductive Stage.Follows : Stage → List Deed → Prop
  | away : Follows .away []
  | called : Follows .called [.calls]
  | waiting : Follows .waiting [.calls]
  | holding : Follows .holding [.calls]
  | due : Follows .due [.calls]
  | running : Follows .running [.calls, .begins]
  | made (bean : Bean) : Follows (.made bean) [.calls, .begins, .ends (.ok bean)]
  | found (bean : Bean) : Follows (.leaving (.ok bean)) [.calls]
  | published (made bean : Bean) :
      Follows (.leaving (.ok bean)) [.calls, .begins, .ends (.ok made)]
  | failed (error : BeanError) :
      Follows (.leaving (.error error)) [.calls, .begins, .ends (.error error)]

/-- The deeds are calls one after the other, the last of which may be under way. -/
def Stage.IsReached (reached : Stage) (deeds : List Deed) : Prop :=
  ∃ (calls : List (List Deed)) (underway : List Deed), deeds = calls.flatten ++ underway ∧
    (∀ call ∈ calls, IsCall call) ∧ reached.Follows underway

theorem Stage.IsReached.step {old : Stage} {deeds more : List Deed} (isReached : old.IsReached deeds)
    (goesOn : ∀ underway, old.Follows underway → reached.Follows (underway ++ more) ∨
      IsCall (underway ++ more) ∧ reached = .away) : reached.IsReached (deeds ++ more) := by
  rcases isReached with ⟨calls, underway, rfl, areCalls, follows⟩
  rcases goesOn underway follows with followsOn | ⟨isCall, rfl⟩
  · exact ⟨calls, underway ++ more, by simp, areCalls, followsOn⟩
  · refine ⟨calls ++ [underway ++ more], [], by simp, ?_, .away⟩
    intro call call_mem
    rcases List.mem_append.mp call_mem with earlier | latest
    · exact areCalls call earlier
    · rwa [List.mem_singleton.mp latest]

theorem deedsOf_append (thread : Thread) (history more : List Act) :
    deedsOf thread (history ++ more) = deedsOf thread history ++ deedsOf thread more := by
  simp [deedsOf]

theorem isReached_update {old : Stage} (deeds : List Deed) (isOld : stage thread = old)
    (areDeeds : acts = deeds.map (Act.mk thread))
    (goesOn : ∀ underway, old.Follows underway → reached.Follows (underway ++ deeds) ∨
      IsCall (underway ++ deeds) ∧ reached = .away)
    (before : ∀ other, (stage other).IsReached (deedsOf other history)) (other : Thread) :
    (update stage thread reached other).IsReached (deedsOf other (history ++ acts)) := by
  rw [deedsOf_append, areDeeds]
  by_cases own : other = thread
  · subst own
    have ownDeeds : deedsOf other (deeds.map (Act.mk other)) = deeds := by
      simp [deedsOf, List.filter_map, Function.comp_def]
    rw [Function.update_self, ownDeeds]
    apply Stage.IsReached.step _ goesOn
    rw [← isOld]
    exact before other
  · have noDeeds : deedsOf other (deeds.map (Act.mk thread)) = [] := by
      simp [deedsOf, Ne.symm own]
    rw [Function.update_of_ne own, noDeeds, List.append_nil]
    exact before other

theorem Step.isReached (step : Step site listed last acts next)
    (before : ∀ other, (last.stage other).IsReached (deedsOf other history)) (other : Thread) :
    (next.stage other).IsReached (deedsOf other (history ++ acts)) := by
  cases step with
  | call thread away =>
      refine isReached_update [.calls] away rfl ?_ before other
      rintro _ ⟨⟩
      exact .inl .called
  | find thread called kept =>
      refine isReached_update [.returns _] called rfl ?_ before other
      rintro _ ⟨⟩
      exact .inr ⟨.finds _, rfl⟩
  | miss thread called unkept =>
      refine isReached_update [] called rfl ?_ before other
      rintro _ ⟨⟩
      exact .inl .waiting
  | lock thread waiting free =>
      refine isReached_update [] waiting rfl ?_ before other
      rintro _ ⟨⟩
      exact .inl .holding
  | findAgain thread holding kept =>
      refine isReached_update [] holding rfl ?_ before other
      rintro _ ⟨⟩
      exact .inl (.found _)
  | missAgain thread holding unkept =>
      refine isReached_update [] holding rfl ?_ before other
      rintro _ ⟨⟩
      exact .inl .due
  | begin thread due =>
      refine isReached_update [.begins] due rfl ?_ before other
      rintro _ ⟨⟩
      exact .inl .running
  | fail thread running error =>
      refine isReached_update [.ends (.error error)] running rfl ?_ before other
      rintro _ ⟨⟩
      exact .inl (.failed error)
  | succeed thread running made =>
      refine isReached_update [.ends (.ok _)] running rfl ?_ before other
      rintro _ ⟨⟩
      exact .inl (.made _)
  | publish thread made =>
      refine isReached_update [] made rfl ?_ before other
      rintro _ ⟨⟩
      exact .inl (.published _ _)
  | unlock thread leaving =>
      refine isReached_update [.returns _] leaving rfl ?_ before other
      rintro _ ⟨⟩
      · exact .inr ⟨.finds _, rfl⟩
      · exact .inr ⟨.makes _ _, rfl⟩
      · exact .inr ⟨.fails _, rfl⟩
  | elsewhere spares =>
      rw [List.append_nil]
      exact before other

theorem Run.isReached (run : Run site listed first history last) (fresh : first.IsFresh site)
    (thread : Thread) : (last.stage thread).IsReached (deedsOf thread history) := by
  induction run generalizing thread with
  | rest =>
      rw [fresh.away thread]
      exact ⟨[], [], by simp [deedsOf], by simp, .away⟩
  | step before step ih => exact step.isReached ih thread

theorem Run.handsOutKept (run : Run site listed first history last) (fresh : first.IsFresh site) :
    last.HandsOutKept site history := by
  induction run with
  | rest =>
      intro thread bean handed
      simp [fresh.away thread] at handed
  | step before step ih => exact ih.step step

theorem Step.pairwise_acts {relation : Act → Act → Prop} (step : Step site listed last acts next) :
    acts.Pairwise relation := by
  cases step with
  | call | find | begin | fail | succeed | unlock => exact List.pairwise_singleton _ _
  | miss | lock | findAgain | missAgain | publish | elsewhere => exact .nil

theorem Run.ordered (run : Run site listed first history last) (fresh : first.IsFresh site) :
    history.Pairwise fun earlier later => earlier.made?.isSome = true → later.begins = false := by
  induction run with
  | rest => exact .nil
  | @step history acts last next before step ih =>
      rcases before.isGuarded fresh with ⟨holder, guarded⟩
      refine List.pairwise_append.mpr ⟨ih, step.pairwise_acts, ?_⟩
      intro earlier earlier_mem later later_mem made
      by_contra begins
      have noneMade := guarded.none_made_of_begins step later_mem (by simpa using begins)
      rw [List.filterMap_eq_nil_iff] at noneMade
      simp [noneMade earlier earlier_mem] at made

theorem Step.runs (step : Step site listed last acts next) :
    next.registry.runs site = last.registry.runs site + acts.countP Act.begins := by
  cases step with
  | begin thread due => simp [Registry.runs_countRun, Act.begins]
  | publish thread made =>
      simp only [Registry.keep]
      split
      · rfl
      · rfl
  | elsewhere spares => simpa using spares.runs
  | call | find | miss | lock | findAgain | missAgain | fail | succeed | unlock => rfl

theorem Run.runs (run : Run site listed first history last) :
    last.registry.runs site = first.registry.runs site + history.countP Act.begins := by
  induction run with
  | rest => rfl
  | step before step ih =>
      rw [step.runs, ih, List.countP_append]
      omega

theorem run_to_running (away : stage thread = .away) (unkept : registry.kept? site = none)
    (free : site ∉ registry.locked) :
    Run site listed ⟨registry, stage⟩ [⟨thread, .calls⟩, ⟨thread, .begins⟩]
      ⟨((registry.lock site).countRun site listed).2, update stage thread .running⟩ := by
  have called : Run site listed ⟨registry, stage⟩ _ _ := Run.rest.step (.call thread away)
  have waiting := called.step (.miss thread (Function.update_self ..) unkept)
  have holding := waiting.step (.lock thread (Function.update_self ..) free)
  have due := holding.step (.missAgain thread (Function.update_self ..) unkept)
  have running := due.step (.begin thread (Function.update_self ..))
  simpa using running

/-- A call that is not interrupted is what the registry does when it is asked for the bean. -/
theorem run_of_makeOnce {fetcher : Fetcher} {constructor : Constructor}
    {outcome : Except BeanError Bean} (away : stage thread = .away)
    (spares : ∀ run before made filled,
      (constructor.run run).run fetcher nofun thread before = some (made, filled) →
        before.Spares site filled)
    (makes : registry.makeOnce (Registry.builder fetcher) thread site constructor =
      some (outcome, after)) :
    ∃ history, Run site constructor.listed ⟨registry, stage⟩ history ⟨after, stage⟩ ∧
      history.getLast? = some ⟨thread, .returns outcome⟩ := by
  have settles : update stage thread .away = stage := by
    rw [← away, Function.update_eq_self]
  cases kept : registry.kept? site with
  | some bean =>
      have called : Run site constructor.listed ⟨registry, stage⟩ _ _ :=
        Run.rest.step (.call thread away)
      have returned := called.step (.find thread (Function.update_self ..) kept)
      simp only [Function.update_idem, settles] at returned
      simp only [Registry.makeOnce, kept, Option.some.injEq, Prod.mk.injEq] at makes
      rcases makes with ⟨rfl, rfl⟩
      exact ⟨_, returned, by simp⟩
  | none =>
      by_cases free : site ∈ registry.locked
      · simp [Registry.makeOnce, kept, free] at makes
      have running : Run site constructor.listed ⟨registry, stage⟩ _ _ :=
        run_to_running away kept free
      cases built : Registry.builder fetcher thread site constructor (registry.lock site) with
      | none => simp [Registry.makeOnce, Registry.makeNew, kept, free, built] at makes
      | some result =>
          rcases result with ⟨made, filled⟩
          have filling := running.step (.elsewhere (spares _ _ _ _ built))
          simp only [Registry.makeOnce, Registry.makeNew, kept, free, built,
            List.contains_eq_mem, decide_false, Bool.false_eq_true, if_false] at makes
          cases made with
          | error error =>
              have failed := filling.step (.fail thread (Function.update_self ..) error)
              have returned := failed.step (.unlock thread (Function.update_self ..))
              simp only [Function.update_idem, settles] at returned
              cases makes
              exact ⟨_, returned, by simp⟩
          | ok made =>
              have succeeded := filling.step (.succeed thread (Function.update_self ..) made)
              have published := succeeded.step (.publish thread (Function.update_self ..))
              have returned := published.step (.unlock thread (Function.update_self ..))
              simp only [Function.update_idem, settles] at returned
              cases makes
              exact ⟨_, returned, by simp⟩

/--
Let any threads call for the bean, and take their steps in any order. The constructor succeeds at most
once, never runs twice at a time, and does not begin to run once it has succeeded. Whatever call
returns a bean returns the object that was made, and each thread's deeds are calls of which those that
return a failure have run the constructor themselves. When nobody calls, the runs are as many as the
failures that were returned, and one more if the bean is kept.
-/
theorem calls_share_one_bean (fresh : first.IsFresh site)
    (run : Run site listed first history last) :
    (history.filterMap Act.made?).length ≤ 1 ∧
    (∀ thread other, last.stage thread = .running → last.stage other = .running →
      thread = other) ∧
    (history.Pairwise fun earlier later =>
      earlier.made?.isSome = true → later.begins = false) ∧
    (∀ thread bean, ⟨thread, .returns (.ok bean)⟩ ∈ history →
      ∃ made, history.filterMap Act.made? = [made] ∧ made.object = bean.object ∧
        bean.object.isSome) ∧
    (∀ thread, (last.stage thread).IsReached (deedsOf thread history)) ∧
    last.registry.runs site = first.registry.runs site + history.countP Act.begins ∧
    ((∀ thread, last.stage thread = .away) →
      history.countP Act.begins = history.countP Act.failsCall +
        if (last.registry.kept? site).isSome then 1 else 0) := by
  rcases run.isGuarded fresh with ⟨holder, guarded⟩
  refine ⟨guarded.situation.length_made_le, fun _ _ => guarded.running_unique, run.ordered fresh,
    ?_, run.isReached fresh, run.runs, guarded.runs_of_away⟩
  intro thread bean returned
  exact guarded.situation.made_of_kept (run.handsOutKept fresh thread bean (.inr returned))

def idle : State :=
  ⟨{}, fun _ => .away⟩

/-- Why the first run of the constructor fails. -/
def broken : BeanError :=
  .construction "a" "broken"

def bean : Bean :=
  ⟨.unit, [0]⟩

/-- Four threads come for a bean. The first to run the constructor fails, the second makes the bean. -/
def crowd : List Act :=
  [⟨0, .calls⟩, ⟨1, .calls⟩, ⟨0, .begins⟩, ⟨2, .calls⟩, ⟨0, .ends (.error broken)⟩,
    ⟨0, .returns (.error broken)⟩, ⟨1, .begins⟩, ⟨1, .ends (.ok bean)⟩, ⟨1, .returns (.ok bean)⟩,
    ⟨2, .returns (.ok bean)⟩, ⟨3, .calls⟩, ⟨3, .returns (.ok bean)⟩]

theorem run_crowd : ∃ last, Run (.bean "a") true idle crowd last ∧
    ∀ thread, last.stage thread = .away := by
  have called : Run (.bean "a") true idle _ _ :=
    (Run.rest.step (.call 0 rfl)).step (.call 1 rfl)
  have waiting := (called.step (.miss 0 rfl rfl)).step (.miss 1 rfl rfl)
  have due := (waiting.step (.lock 0 rfl (by decide))).step (.missAgain 0 rfl rfl)
  have third := ((due.step (.begin 0 rfl)).step (.call 2 rfl)).step (.miss 2 rfl rfl)
  have failed := (third.step (.fail 0 rfl broken)).step (.unlock 0 rfl)
  have dueAgain := (failed.step (.lock 1 rfl (by decide))).step (.missAgain 1 rfl rfl)
  have made := (dueAgain.step (.begin 1 rfl)).step (.succeed 1 rfl (.plain .unit))
  have published := (made.step (.publish 1 rfl)).step (.unlock 1 rfl)
  have found := (published.step (.lock 2 rfl (by decide))).step (.findAgain 2 rfl rfl)
  have last := ((found.step (.unlock 2 rfl)).step (.call 3 rfl)).step (.find 3 rfl rfl)
  refine ⟨_, last, ?_⟩
  intro thread
  match thread with
  | 0 | 1 | 2 | 3 | _ + 4 => rfl

theorem crowd_shares_one_bean :
    idle.IsFresh (.bean "a") ∧ (crowd.filterMap Act.made?).length ≤ 1 ∧
      (crowd.Pairwise fun earlier later => earlier.made?.isSome = true → later.begins = false) ∧
      ∃ last, Run (.bean "a") true idle crowd last ∧ last.registry.runs (.bean "a") = 2 ∧
        (last.registry.kept? (.bean "a")).isSome := by
  have fresh : idle.IsFresh (.bean "a") := ⟨rfl, by simp [idle], fun _ => rfl⟩
  rcases run_crowd with ⟨last, run, away⟩
  rcases calls_share_one_bean fresh run with ⟨once, _, ordered, _, _, runs, tally⟩
  refine ⟨fresh, once, ordered, last, run, runs, ?_⟩
  have two : crowd.countP Act.begins = 2 := by decide
  have one : crowd.countP Act.failsCall = 1 := by decide
  have total := tally away
  rw [two, one] at total
  by_contra unkept
  simp [unkept] at total

end BeanContainer.Contention
