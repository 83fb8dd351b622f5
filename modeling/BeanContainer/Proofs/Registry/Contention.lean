import BeanContainer.Proofs.Registry.Record
import Mathlib.Logic.Function.Basic

/-!
# Threads that call for one bean

A strategy that makes one bean for all requests may be called by many threads at once. Each call looks
for the bean, takes the lock if there is none, looks again, and only then runs the constructor; it
keeps what the constructor made and gives the lock back. Here the calls are taken apart into these
steps, in any order of the threads, while the rest of the registry may change as it likes. A
constructor may fail, and then whoever gets the lock next tries again.

One invariant does the work: it says who holds the lock and how far he is, and, going by that, whether
a bean is kept and how many of the runs so far are not accounted for by failures that were returned.
-/

namespace BeanContainer

namespace Contention

/-- How far a thread is with its call. -/
inductive Stage where
  | away
  | called
  /-- It has found no bean, and has to take the lock. -/
  | waiting
  /-- It holds the lock, and has to look again. -/
  | holding
  /-- It has found no bean again. -/
  | due
  | running
  /-- Its run of the constructor made the bean, which is not kept yet. -/
  | made (bean : Bean)
  /-- It has to give the lock back and to return. -/
  | leaving (outcome : Except BeanError Bean)

def Stage.holdsLock : Stage → Bool
  | away | called | waiting => false
  | holding | due | running | made _ | leaving _ => true

/-- What can be told of a call from outside. -/
inductive Deed where
  | calls
  | begins
  | ends (outcome : Except BeanError Bean)
  | returns (outcome : Except BeanError Bean)

structure Act where
  thread : Thread
  deed : Deed

def Act.begins (act : Act) : Bool :=
  match act.deed with
  | .begins => true
  | _ => false

/-- The bean that the constructor has made when it ends. -/
def Act.made? (act : Act) : Option Bean :=
  match act.deed with
  | .ends (.ok bean) => some bean
  | _ => none

def Act.failsCall (act : Act) : Bool :=
  match act.deed with
  | .returns (.error _) => true
  | _ => false

def deedsOf (thread : Thread) (history : List Act) : List Deed :=
  (history.filter (·.thread == thread)).map (·.deed)

/-- A registry, and how far each thread is with a call for the bean of one site. -/
structure State where
  registry : Registry
  stage : Thread → Stage

end Contention

/--
A change of the registry that leaves the strategy at the site alone: the same object is kept for it or
none still, its lock is as it was, and its constructor has not run. The bean may be changed inside.
-/
structure Registry.Spares (site : Site) (before after : Registry) : Prop where
  kept : (after.kept? site).map (·.object) = (before.kept? site).map (·.object)
  locked : after.locked.count site = before.locked.count site
  runs : after.runs site = before.runs site

namespace Contention

open Function (update)

/--
A step of one thread with its call, or of anything else. Looking for the bean, taking the lock and
giving it back happen at once; between any two steps all other threads may take steps of theirs.
-/
inductive Step (site : Site) (listed : Bool) : State → List Act → State → Prop
  | call {registry : Registry} {stage : Thread → Stage} (thread : Thread)
      (away : stage thread = .away) :
      Step site listed ⟨registry, stage⟩ [⟨thread, .calls⟩] ⟨registry, update stage thread .called⟩
  | find {registry : Registry} {stage : Thread → Stage} {bean : Bean} (thread : Thread)
      (called : stage thread = .called) (kept : registry.kept? site = some bean) :
      Step site listed ⟨registry, stage⟩ [⟨thread, .returns (.ok bean)⟩]
        ⟨registry, update stage thread .away⟩
  | miss {registry : Registry} {stage : Thread → Stage} (thread : Thread)
      (called : stage thread = .called) (unkept : registry.kept? site = none) :
      Step site listed ⟨registry, stage⟩ [] ⟨registry, update stage thread .waiting⟩
  | lock {registry : Registry} {stage : Thread → Stage} (thread : Thread)
      (waiting : stage thread = .waiting) (free : site ∉ registry.locked) :
      Step site listed ⟨registry, stage⟩ [] ⟨registry.lock site, update stage thread .holding⟩
  | findAgain {registry : Registry} {stage : Thread → Stage} {bean : Bean} (thread : Thread)
      (holding : stage thread = .holding) (kept : registry.kept? site = some bean) :
      Step site listed ⟨registry, stage⟩ [] ⟨registry, update stage thread (.leaving (.ok bean))⟩
  | missAgain {registry : Registry} {stage : Thread → Stage} (thread : Thread)
      (holding : stage thread = .holding) (unkept : registry.kept? site = none) :
      Step site listed ⟨registry, stage⟩ [] ⟨registry, update stage thread .due⟩
  | begin {registry : Registry} {stage : Thread → Stage} (thread : Thread)
      (due : stage thread = .due) :
      Step site listed ⟨registry, stage⟩ [⟨thread, .begins⟩]
        ⟨(registry.countRun site listed).2, update stage thread .running⟩
  | fail {registry : Registry} {stage : Thread → Stage} (thread : Thread)
      (running : stage thread = .running) (error : BeanError) :
      Step site listed ⟨registry, stage⟩ [⟨thread, .ends (.error error)⟩]
        ⟨registry, update stage thread (.leaving (.error error))⟩
  | succeed {registry : Registry} {stage : Thread → Stage} (thread : Thread)
      (running : stage thread = .running) (bean : Bean) :
      Step site listed ⟨registry, stage⟩ [⟨thread, .ends (.ok (registry.newBean true bean).1)⟩]
        ⟨(registry.newBean true bean).2,
          update stage thread (.made (registry.newBean true bean).1)⟩
  | publish {registry : Registry} {stage : Thread → Stage} {bean : Bean} (thread : Thread)
      (made : stage thread = .made bean) :
      Step site listed ⟨registry, stage⟩ [] ⟨(registry.keep site bean).2,
        update stage thread (.leaving (.ok (registry.keep site bean).1))⟩
  | unlock {registry : Registry} {stage : Thread → Stage} (thread : Thread)
      {outcome : Except BeanError Bean} (leaving : stage thread = .leaving outcome) :
      Step site listed ⟨registry, stage⟩ [⟨thread, .returns outcome⟩]
        ⟨registry.unlock site, update stage thread .away⟩
  | elsewhere {registry after : Registry} {stage : Thread → Stage}
      (spares : Registry.Spares site registry after) :
      Step site listed ⟨registry, stage⟩ [] ⟨after, stage⟩

/-- Steps one after the other, with all that was done in them. -/
inductive Run (site : Site) (listed : Bool) (first : State) : List Act → State → Prop
  | rest : Run site listed first [] first
  | step {history acts : List Act} {last next : State} (before : Run site listed first history last)
      (step : Step site listed last acts next) : Run site listed first (history ++ acts) next

/-- Nobody calls, and the bean has not been made. -/
structure State.IsFresh (site : Site) (state : State) : Prop where
  unkept : state.registry.kept? site = none
  unlocked : site ∉ state.registry.locked
  away : ∀ thread, state.stage thread = .away

variable {site : Site} {listed : Bool} {registry after : Registry} {stage : Thread → Stage}
  {holder : Option (Thread × Stage)} {history acts : List Act} {first last next : State}
  {thread : Thread} {reached : Stage}

/-- The thread at the stage is the one that holds the lock, if any does. -/
def IsHolder (stage : Thread → Stage) (holder : Option (Thread × Stage)) : Prop :=
  ∀ thread reached,
    holder = some (thread, reached) ↔ stage thread = reached ∧ reached.holdsLock = true

theorem IsHolder.eq_some (isHolder : IsHolder stage holder) (isReached : stage thread = reached)
    (holds : reached.holdsLock = true) : holder = some (thread, reached) :=
  (isHolder thread reached).mpr ⟨isReached, holds⟩

theorem IsHolder.moved {holderAfter : Option (Thread × Stage)} (isHolder : IsHolder stage holder)
    (own : ∀ other, holderAfter = some (thread, other) ↔ reached = other ∧ other.holdsLock = true)
    (others : ∀ other ≠ thread, ∀ there,
      holderAfter = some (other, there) ↔ holder = some (other, there)) :
    IsHolder (update stage thread reached) holderAfter := by
  intro other there
  by_cases same : other = thread
  · subst same
    rw [Function.update_self]
    exact own there
  · rw [Function.update_of_ne same, others other same there]
    exact isHolder other there

theorem IsHolder.outside (isHolder : IsHolder stage holder)
    (before : (stage thread).holdsLock = false) (afterwards : reached.holdsLock = false) :
    IsHolder (update stage thread reached) holder := by
  apply isHolder.moved
  · intro other
    rw [isHolder thread other]
    constructor
    · rintro ⟨rfl, holds⟩
      simp [before] at holds
    · rintro ⟨rfl, holds⟩
      simp [afterwards] at holds
  · intro other _ there
    rfl

theorem IsHolder.inside {old : Stage} (isHolder : IsHolder stage holder)
    (held : holder = some (thread, old)) (holds : reached.holdsLock = true) :
    IsHolder (update stage thread reached) (some (thread, reached)) := by
  apply isHolder.moved
  · simp +contextual [holds]
  · intro other different there
    simp [held, Ne.symm different]

theorem IsHolder.lock (isHolder : IsHolder stage holder) (free : holder = none)
    (holds : reached.holdsLock = true) :
    IsHolder (update stage thread reached) (some (thread, reached)) := by
  apply isHolder.moved
  · simp +contextual [holds]
  · intro other different there
    simp [free, Ne.symm different]

theorem IsHolder.unlock {old : Stage} (isHolder : IsHolder stage holder)
    (held : holder = some (thread, old)) (holdsNot : reached.holdsLock = false) :
    IsHolder (update stage thread reached) none := by
  apply isHolder.moved
  · intro other
    simp only [reduceCtorEq, false_iff, not_and]
    rintro rfl
    simp [holdsNot]
  · intro other different there
    simp [held, Ne.symm different]

/-- What is kept for the site and what was done so far, going by the stage of who holds the lock. -/
inductive Situation (site : Site) (registry : Registry) (history : List Act) :
    Option Stage → Prop
  | unmade {reached : Option Stage}
      (early : reached = none ∨ reached = some .holding ∨ reached = some .due)
      (unkept : registry.kept? site = none) (noneMade : history.filterMap Act.made? = [])
      (begun : history.countP Act.begins = history.countP Act.failsCall) :
      Situation site registry history reached
  | trying {reached : Stage}
      (trying : reached = .running ∨ ∃ error, reached = .leaving (.error error))
      (unkept : registry.kept? site = none) (noneMade : history.filterMap Act.made? = [])
      (begun : history.countP Act.begins = history.countP Act.failsCall + 1) :
      Situation site registry history (some reached)
  | made {bean : Bean} {object : ObjectId} (isObject : bean.object = some object)
      (unkept : registry.kept? site = none) (oneMade : history.filterMap Act.made? = [bean])
      (begun : history.countP Act.begins = history.countP Act.failsCall + 1) :
      Situation site registry history (some (.made bean))
  | published {reached : Option Stage} {bean : Bean} {object : ObjectId}
      (late : reached = none ∨ reached = some .holding ∨
        ∃ found, reached = some (.leaving (.ok found)))
      (isObject : bean.object = some object)
      (kept : (registry.kept? site).map (·.object) = some (some object))
      (oneMade : history.filterMap Act.made? = [bean])
      (begun : history.countP Act.begins = history.countP Act.failsCall + 1) :
      Situation site registry history reached

/-- Nothing has changed that matters to the strategy. -/
theorem Situation.congr {more : List Act} {reached : Option Stage}
    (situation : Situation site registry history reached)
    (kept : (after.kept? site).map (·.object) = (registry.kept? site).map (·.object))
    (begins : ∀ act ∈ more, act.begins = false) (made : ∀ act ∈ more, act.made? = none)
    (fails : ∀ act ∈ more, act.failsCall = false) :
    Situation site after (history ++ more) reached := by
  have sameBegun : (history ++ more).countP Act.begins = history.countP Act.begins := by
    simpa [List.countP_append, List.countP_eq_zero] using begins
  have sameFailed : (history ++ more).countP Act.failsCall = history.countP Act.failsCall := by
    simpa [List.countP_append, List.countP_eq_zero] using fails
  have sameMade : (history ++ more).filterMap Act.made? = history.filterMap Act.made? := by
    simpa [List.filterMap_append] using made
  have unkept_of : registry.kept? site = none → after.kept? site = none := by
    intro unkept
    rwa [unkept, Option.map_none, Option.map_eq_none_iff] at kept
  cases situation with
  | unmade early unkept noneMade begun =>
      exact .unmade early (unkept_of unkept) (sameMade.trans noneMade) (by omega)
  | trying trying unkept noneMade begun =>
      exact .trying trying (unkept_of unkept) (sameMade.trans noneMade) (by omega)
  | made isObject unkept oneMade begun =>
      exact .made isObject (unkept_of unkept) (sameMade.trans oneMade) (by omega)
  | published late isObject keptBefore oneMade begun =>
      exact .published late isObject (kept.trans keptBefore) (sameMade.trans oneMade) (by omega)

/-- Whoever gives the lock back returns what his call came to. -/
theorem Situation.unlock {outcome : Except BeanError Bean}
    (situation : Situation site registry history (some (.leaving outcome))) :
    Situation site (registry.unlock site) (history ++ [⟨thread, .returns outcome⟩]) none := by
  cases situation with
  | unmade early unkept noneMade begun => simp at early
  | trying trying unkept noneMade begun =>
      have failed : ∃ error, outcome = .error error := by simpa using trying
      rcases failed with ⟨error, rfl⟩
      refine .unmade (.inl rfl) unkept ?_ ?_
      · simpa [Act.made?] using noneMade
      · simp [Act.begins, Act.failsCall, begun]
  | published late isObject kept oneMade begun =>
      have found : ∃ bean, outcome = .ok bean := by simpa using late
      rcases found with ⟨bean, rfl⟩
      refine .published (.inl rfl) isObject kept ?_ ?_
      · simpa [List.filterMap_cons, Act.made?] using oneMade
      · simp [Act.begins, Act.failsCall, begun]

/-- The lock has one holder if any, and everything else goes by how far that one is. -/
structure IsGuarded (site : Site) (state : State) (history : List Act)
    (holder : Option (Thread × Stage)) : Prop where
  isHolder : IsHolder state.stage holder
  locked : state.registry.locked.count site = holder.toList.length
  situation : Situation site state.registry history (holder.map (·.2))

/-- Whoever holds the lock and keeps it takes the others along. -/
theorem IsGuarded.inside {old : Stage} (guarded : IsGuarded site ⟨registry, stage⟩ history holder)
    (isOld : stage thread = old) (held : old.holdsLock = true) (holds : reached.holdsLock = true)
    (sameLocks : after.locked = registry.locked)
    (goesOn : Situation site registry history (some old) →
      Situation site after (history ++ acts) (some reached)) :
    ∃ holderAfter,
      IsGuarded site ⟨after, update stage thread reached⟩ (history ++ acts) holderAfter := by
  have isThread := guarded.isHolder.eq_some isOld held
  have situation := guarded.situation
  have locked := guarded.locked
  rw [isThread] at situation locked
  refine ⟨some (thread, reached), guarded.isHolder.inside isThread holds, ?_, goesOn situation⟩
  rw [sameLocks]
  exact locked

/-- Whoever is outside and stays there changes nothing for the others. -/
theorem IsGuarded.outside {old : Stage} (guarded : IsGuarded site ⟨registry, stage⟩ history holder)
    (isOld : stage thread = old) (holdsNot : old.holdsLock = false)
    (holdsNotThen : reached.holdsLock = false) (begins : ∀ act ∈ acts, act.begins = false)
    (made : ∀ act ∈ acts, act.made? = none) (fails : ∀ act ∈ acts, act.failsCall = false) :
    IsGuarded site ⟨registry, update stage thread reached⟩ (history ++ acts) holder := by
  subst isOld
  exact ⟨guarded.isHolder.outside holdsNot holdsNotThen, guarded.locked,
    guarded.situation.congr rfl begins made fails⟩

theorem IsGuarded.step (guarded : IsGuarded site last history holder)
    (step : Step site listed last acts next) :
    ∃ holderAfter, IsGuarded site next (history ++ acts) holderAfter := by
  cases step with
  | call thread away =>
      refine ⟨holder, guarded.outside away (by rfl) (by rfl) ?_ ?_ ?_⟩
      · simp [Act.begins]
      · simp [Act.made?]
      · simp [Act.failsCall]
  | find thread called kept =>
      refine ⟨holder, guarded.outside called (by rfl) (by rfl) ?_ ?_ ?_⟩
      · simp [Act.begins]
      · simp [Act.made?]
      · simp [Act.failsCall]
  | miss thread called unkept =>
      exact ⟨holder, guarded.outside called (by rfl) (by rfl) (by simp) (by simp) (by simp)⟩
  | lock thread waiting free =>
      have locked := guarded.locked
      have free : holder = none := by
        rw [List.count_eq_zero_of_not_mem free] at locked
        cases holder with
        | none => rfl
        | some held => simp at locked
      subst free
      refine ⟨some (thread, .holding), guarded.isHolder.lock rfl rfl, ?_, ?_⟩
      · simp [Registry.lock, locked]
      · rw [List.append_nil]
        cases guarded.situation with
        | unmade early unkept noneMade begun =>
            exact .unmade (.inr (.inl rfl)) unkept noneMade begun
        | published late isObject kept oneMade begun =>
            exact .published (.inr (.inl rfl)) isObject kept oneMade begun
  | findAgain thread holding kept =>
      refine guarded.inside holding (by rfl) (by rfl) (by rfl) ?_
      intro situation
      rw [List.append_nil]
      cases situation with
      | unmade early unkept noneMade begun => simp [kept] at unkept
      | trying trying unkept noneMade begun => simp [kept] at unkept
      | published late isObject kept oneMade begun =>
          exact .published (.inr (.inr ⟨_, rfl⟩)) isObject kept oneMade begun
  | missAgain thread holding unkept =>
      refine guarded.inside holding (by rfl) (by rfl) (by rfl) ?_
      intro situation
      rw [List.append_nil]
      cases situation with
      | unmade early unkept noneMade begun =>
          exact .unmade (.inr (.inr rfl)) unkept noneMade begun
      | trying trying unkept noneMade begun => simp at trying
      | published late isObject kept oneMade begun => simp [unkept] at kept
  | begin thread due =>
      refine guarded.inside due (by rfl) (by rfl) (by rfl) ?_
      intro situation
      cases situation with
      | unmade early unkept noneMade begun =>
          refine .trying (.inl rfl) unkept ?_ ?_
          · simpa [Act.made?] using noneMade
          · simp [Act.begins, Act.failsCall, begun]
      | trying trying unkept noneMade begun => simp at trying
      | published late isObject kept oneMade begun => simp at late
  | fail thread running error =>
      refine guarded.inside running (by rfl) (by rfl) (by rfl) ?_
      intro situation
      cases situation with
      | unmade early unkept noneMade begun => simp at early
      | trying trying unkept noneMade begun =>
          refine .trying (.inr ⟨error, rfl⟩) unkept ?_ ?_
          · simpa [Act.made?] using noneMade
          · simp [Act.begins, Act.failsCall, begun]
      | published late isObject kept oneMade begun => simp at late
  | succeed thread running bean =>
      refine guarded.inside running (by rfl) (by rfl) (by rfl) ?_
      intro situation
      cases situation with
      | unmade early unkept noneMade begun => simp at early
      | trying trying unkept noneMade begun =>
          refine .made (by rfl) unkept ?_ ?_
          · simp [Act.made?, noneMade]
          · simp [Act.begins, Act.failsCall, begun]
      | published late isObject kept oneMade begun => simp at late
  | @publish registry stage bean thread made =>
      have sameLocks : (registry.keep site bean).2.locked = registry.locked :=
        (Registry.keep_restores site bean registry).locked
      refine guarded.inside made (by rfl) (by rfl) sameLocks ?_
      intro situation
      rw [List.append_nil]
      cases situation with
      | unmade early unkept noneMade begun => simp at early
      | trying trying unkept noneMade begun => simp at trying
      | made isObject unkept oneMade begun =>
          refine .published (.inr (.inr ⟨_, rfl⟩)) isObject ?_ oneMade begun
          have keeps : (registry.keep site bean).1 = bean := by
            simp [Registry.keep, unkept]
          rw [Registry.kept?_keep_self, keeps, Option.map_some, isObject]
      | published late isObject kept oneMade begun => simp at late
  | unlock thread leaving =>
      have isThread := guarded.isHolder.eq_some leaving rfl
      have locked := guarded.locked
      have situation := guarded.situation
      rw [isThread] at locked situation
      refine ⟨none, guarded.isHolder.unlock isThread rfl, ?_, ?_⟩
      · simp [Registry.unlock, List.count_erase_self, locked]
      · exact situation.unlock
  | elsewhere spares =>
      refine ⟨holder, guarded.isHolder, spares.locked.trans guarded.locked, ?_⟩
      exact guarded.situation.congr spares.kept (by simp) (by simp) (by simp)

theorem State.IsFresh.isGuarded (fresh : first.IsFresh site) :
    IsGuarded site first [] none where
  isHolder thread reached := by
    simp only [reduceCtorEq, fresh.away thread, false_iff, not_and]
    rintro rfl
    simp [Stage.holdsLock]
  locked := List.count_eq_zero_of_not_mem fresh.unlocked
  situation := .unmade (.inl rfl) fresh.unkept rfl rfl

theorem Run.isGuarded (run : Run site listed first history last) (fresh : first.IsFresh site) :
    ∃ holder, IsGuarded site last history holder := by
  induction run with
  | rest => exact ⟨none, fresh.isGuarded⟩
  | step before step ih =>
      rcases ih with ⟨holder, guarded⟩
      exact guarded.step step

end Contention

end BeanContainer
